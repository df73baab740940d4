import Attest.Text.CharSet

/-!
How letters of cursive scripts join: L to the letter behind, R to the letter before, D to both, C without being a
letter; T stands for marks that joining ignores and U for what does not join.
-/

namespace Attest

/-- The code points from zero on as runs of one kind of joining. -/
def joiningRuns : List (String × Nat) := CharSet.labelledRuns
  ["U173 T1 U594 T112 U275 T7 U263 T45 U1 T1 U1 T2 U1 T2 U1 T1 U72 T11 U1 T1 U3 D1 U1 R4 D1 R1 D1 R1 D5 R4",
   "D13 C1 D7 R1 D2 T21 U14 D2 T1 R3 U1 R3 D16 R18 D38 R1 D2 R9 D1 R1 D1 R1 D2 R2 U1 R1 T7 U2 T6 U2 T2 U1 T4",
   "R2 U10 D3 U2 D1 U15 T1 R1 T1 D3 R5 D4 R1 D9 R1 D1 R1 D1 R1 D2 R1 T27 U2 R1 D11 R3 D15 R2 D4 R1 D1 R2 D3",
   "R2 D6 U38 T11 U25 D33 T9 U6 C1 U2 T1 U24 T4 U1 T9 U1 T3 U1 T5 U18 R1 D5 R2 D1 R1 D10 R1 D1 R3 T3 U4 D1",
   "U1 D4 U1 R1 D1 R2 U5 R19 C3 D1 U2 D5 R1 U9 T8 D10 R3 U1 R1 D2 R2 D6 R1 D15 U1 T24 U1 T32 U55 T1 U1 T1 U4",
   "T8 U4 T1 U3 T7 U10 T2 U29 T1 U58 T1 U4 T4 U8 T1 U20 T2 U26 T1 U2 T2 U57 T1 U4 T2 U4 T2 U2 T3 U3 T1 U30",
   "T2 U3 T1 U11 T2 U57 T1 U4 T5 U1 T2 U4 T1 U20 T2 U22 T6 U1 T1 U58 T1 U2 T1 U1 T4 U8 T1 U7 T2 U11 T2 U30",
   "T1 U61 T1 U12 T1 U50 T1 U3 T1 U55 T1 U1 T3 U5 T3 U1 T4 U7 T2 U11 T2 U29 T1 U58 T1 U2 T1 U6 T1 U5 T2 U20",
   "T2 U28 T2 U57 T2 U4 T4 U8 T1 U20 T2 U29 T1 U72 T1 U7 T3 U1 T1 U90 T1 U2 T7 U12 T8 U98 T1 U2 T9 U11 T7",
   "U73 T2 U27 T1 U1 T1 U1 T1 U55 T14 U1 T5 U1 T2 U5 T11 U1 T36 U9 T1 U102 T4 U1 T6 U1 T2 U2 T2 U25 T2 U4 T3",
   "U16 T4 U13 T1 U2 T2 U6 T1 U15 T1 U703 T3 U946 T3 U29 T2 U30 T2 U30 T2 U64 T2 U1 T7 U8 T1 U2 T11 U9 T1",
   "U41 D1 U2 C1 T3 U1 T1 U16 D89 U12 T2 D34 T1 D1 U117 T3 U4 T2 U9 T1 U6 T3 U219 T2 U2 T1 U58 T1 U1 T7 U1",
   "T1 U1 T1 U2 T8 U6 T10 U2 T1 U48 T31 U49 T4 U48 T1 U1 T5 U1 T1 U5 T1 U40 T9 U12 T2 U32 T4 U2 T2 U1 T3 U56",
   "T1 U1 T2 U3 T1 U1 T3 U58 T8 U2 T2 U152 T3 U1 T13 U1 T7 U4 T1 U6 T1 U3 T2 U198 T64 U523 T1 U1 C1 T2 U26",
   "T5 U49 T5 U5 T6 U96 T33 U3070 T3 U141 T1 U96 T32 U554 T4 U107 T2 U30164 T4 U1 T10 U32 T2 U80 T2 U272 T1",
   "U3 T1 U4 T1 U25 T2 U5 T1 U19 D50 L1 U81 T2 U26 T18 U13 T1 U38 T8 U25 T11 U46 T3 U48 T1 U2 T4 U2 T2 U39",
   "T1 U67 T6 U2 T2 U2 T2 U12 T1 U8 T1 U47 T1 U51 T1 U1 T3 U2 T2 U5 T2 U1 T1 U42 T2 U8 T1 U238 T1 U2 T1 U4",
   "T1 U20272 T1 U737 T16 U16 T16 U207 T1 U249 T3 U513 T1 U226 T1 U149 T5 U1670 T3 U1 T2 U5 T4 U40 T3 U4 T1",
   "U128 D5 R1 U1 R1 U1 R2 U2 L1 R5 D4 L1 D5 R1 D3 R1 U2 R1 T2 U4 D4 R1 U144 D1 R1 D1 R3 D3 R1 D2 R1 D1 R2",
   "D1 R1 U23 R4 D2 U337 L1 D33 R1 D1 T4 U387 T2 U80 T3 U48 D3 R1 D17 U1 T11 D3 R1 U27 D4 R2 D12 T4 U42 D1",
   "U1 D2 R3 U1 D1 R2 D2 R1 D2 U1 D1 R2 D1 U4 R1 D1 L1 U53 T1 U54 T15 U41 T1 U2 T2 U10 T3 U49 T4 U2 T2 U7 T1",
   "U61 T3 U36 T5 U1 T8 U62 T1 U12 T2 U52 T9 U10 T4 U2 T1 U95 T3 U2 T1 U1 T2 U6 T1 U2 T1 U157 T1 U3 T8 U21",
   "T2 U57 T2 U3 T1 U37 T7 U3 T5 U195 T8 U2 T3 U1 T1 U23 T1 U84 T6 U1 T1 U4 T2 U1 T2 U238 T4 U6 T2 U1 T2 U27",
   "T2 U85 T8 U2 T1 U1 T2 U106 T1 U1 T1 U2 T6 U1 T1 U101 T3 U2 T4 U1 T5 U259 T9 U1 T2 U256 T2 U1 T1 U4 T1",
   "U144 T4 U2 T2 U4 T1 U32 T10 U40 T6 U2 T4 U8 T1 U9 T6 U2 T3 U46 T13 U1 T2 U406 T7 U1 T6 U1 T1 U82 T22 U2",
   "T7 U1 T2 U1 T2 U122 T6 U3 T1 U1 T2 U1 T7 U1 T1 U72 T2 U3 T1 U1 T1 U347 T2 U11 T2 U52 T5 U5 T1 U1 T1",
   "U5357 T17 U6 T15 U13978 T5 U59 T7 U1048 T1 U63 T4 U81 T1 U19640 T2 U1 T4 U4700 T46 U2 T23 U544 T3 U9 T16",
   "U2 T7 U30 T4 U148 T3 U1979 T55 U4 T50 U8 T1 U14 T1 U22 T5 U1 T15 U1360 T7 U1 T17 U2 T7 U1 T2 U1 T5 U100",
   "T1 U160 T7 U375 T1 U61 T4 U508 T4 U992 T7 U41 D68 T8 U792245 T1 U30 T96 U128 T240 U196112"]

/-- The characters that join in one of the given ways. -/
def joiningSet (kinds : List String) : CharSet :=
  CharSet.ofLabels (· ∈ kinds) joiningRuns

end Attest
