import Attest.Text.CharSet

/-!
The directions of characters: L from left to right, R and AL from right to left, EN and AN for digits, NSM for
marks, and others for separators, signs and controls.
-/

namespace Attest

/-- The code points from zero on as runs of one direction. -/
def bidiRuns : List (String × Nat) := CharSet.labelledRuns
  ["BN9 S1 B1 S1 WS1 B1 BN14 B3 S1 WS1 ON2 ET3 ON5 ES1 CS1 ES1 CS2 EN10 CS1 ON6 L26 ON6 L26 ON4 BN6 B1 BN26",
   "CS1 ON1 ET4 ON4 L1 ON2 BN1 ON2 ET2 EN2 ON1 L1 ON3 EN1 L1 ON5 L23 ON1 L31 ON1 L449 ON2 L7 ON14 L2 ON14 L5",
   "ON9 L1 ON17 NSM112 L4 ON2 L8 ON1 L5 ON2 L1 ON1 L110 ON1 L140 NSM7 L256 ON1 L2 ON2 ET1 R1 NSM45 R1 NSM1",
   "R1 NSM2 R1 NSM2 R1 NSM1 R56 AN6 ON2 AL1 ET2 AL1 CS1 AL1 ON2 NSM11 AL48 NSM21 AN10 ET1 AN2 AL3 NSM1 AL101",
   "NSM7 AN1 ON1 NSM6 AL2 NSM2 ON1 NSM4 AL2 EN10 AL23 NSM1 AL30 NSM27 AL91 NSM11 AL15 R43 NSM9 R2 ON4 R3",
   "NSM1 R24 NSM4 R1 NSM9 R1 NSM3 R1 NSM5 R43 NSM3 R4 AL48 AN2 AL6 NSM8 AL42 NSM24 AN1 NSM32 L55 NSM1 L1",
   "NSM1 L4 NSM8 L4 NSM1 L3 NSM7 L10 NSM2 L29 NSM1 L58 NSM1 L4 NSM4 L8 NSM1 L20 NSM2 L14 ET2 L7 ET1 L2 NSM1",
   "L2 NSM2 L57 NSM1 L4 NSM2 L4 NSM2 L2 NSM3 L3 NSM1 L30 NSM2 L3 NSM1 L11 NSM2 L57 NSM1 L4 NSM5 L1 NSM2 L4",
   "NSM1 L20 NSM2 L13 ET1 L8 NSM6 L1 NSM1 L58 NSM1 L2 NSM1 L1 NSM4 L8 NSM1 L7 NSM2 L11 NSM2 L30 NSM1 L61",
   "NSM1 L12 NSM1 L37 ON6 ET1 ON1 L5 NSM1 L3 NSM1 L55 NSM1 L1 NSM3 L5 NSM3 L1 NSM4 L7 NSM2 L11 NSM2 L20 ON7",
   "L2 NSM1 L58 NSM1 L15 NSM2 L20 NSM2 L28 NSM2 L57 NSM2 L4 NSM4 L8 NSM1 L20 NSM2 L29 NSM1 L72 NSM1 L7 NSM3",
   "L1 NSM1 L90 NSM1 L2 NSM7 L4 ET1 L7 NSM8 L98 NSM1 L2 NSM9 L11 NSM7 L73 NSM2 L27 NSM1 L1 NSM1 L1 NSM1 ON4",
   "L51 NSM14 L1 NSM5 L1 NSM2 L5 NSM11 L1 NSM36 L9 NSM1 L102 NSM4 L1 NSM6 L1 NSM2 L2 NSM2 L25 NSM2 L4 NSM3",
   "L16 NSM4 L13 NSM1 L2 NSM2 L6 NSM1 L15 NSM1 L703 NSM3 L48 ON10 L102 ON1 L639 WS1 L26 ON2 L117 NSM3 L29",
   "NSM2 L30 NSM2 L30 NSM2 L64 NSM2 L1 NSM7 L8 NSM1 L2 NSM11 L7 ET1 L1 NSM1 L18 ON10 L6 ON11 NSM3 BN1 NSM1",
   "L117 NSM2 L34 NSM1 L118 NSM3 L4 NSM2 L9 NSM1 L6 NSM3 L4 ON1 L3 ON2 L152 ON34 L23 NSM2 L2 NSM1 L58 NSM1",
   "L1 NSM7 L1 NSM1 L1 NSM1 L2 NSM8 L6 NSM10 L2 NSM1 L48 NSM31 L49 NSM4 L48 NSM1 L1 NSM5 L1 NSM1 L5 NSM1 L11",
   "ON2 L27 NSM9 L11 ON1 NSM2 L32 NSM4 L2 NSM2 L1 NSM3 L56 NSM1 L1 NSM2 L3 NSM1 L1 NSM3 L58 NSM8 L2 NSM2",
   "L152 NSM3 L1 NSM13 L1 NSM7 L4 NSM1 L6 NSM1 L3 NSM2 L198 NSM64 L445 ON1 L1 ON3 L11 ON3 L13 ON3 L13 ON3",
   "L13 ON2 L1 WS11 BN3 L1 R1 ON24 WS1 B1 LRE1 RLE1 PDF1 LRO1 RLO1 CS1 ET5 ON15 CS1 ON26 WS1 BN6 LRI1 RLI1",
   "FSI1 PDI1 BN6 EN1 L3 EN6 ES2 ON3 L1 EN10 ES2 ON3 L17 ET33 ON1 ET14 NSM33 L15 ON2 L1 ON4 L1 ON2 L10 ON1",
   "L1 ON3 L5 ON6 L1 ON1 L1 ON1 L1 ON1 L4 ET1 L11 ON2 L4 ON5 L5 ON4 L2 ON16 L41 ON3 L4 ON130 ES1 ET1 ON290",
   "L69 ON26 L1 ON148 L22 ON11 L21 ON40 EN20 L78 ON450 L1 ON339 L256 ON628 L2 ON138 L229 ON6 L4 NSM3 L7 ON7",
   "L127 NSM1 L96 NSM32 ON94 L34 ON26 L1 ON89 L12 ON214 L26 ON12 L4 WS1 ON4 L3 ON25 L9 NSM4 L2 ON1 L5 ON2 L5",
   "ON3 L89 NSM2 ON2 L3 ON1 L90 ON1 L196 ON38 L55 ON2 L49 ON16 L28 ON3 L50 ON15 L12 ON4 L167 ON4 L99 ON2 L31",
   "ON1 L6592 ON64 L22160 ON55 L326 ON3 L95 NSM4 ON1 NSM10 ON2 L30 NSM2 L80 NSM2 L14 ON34 L102 ON1 L121 NSM1",
   "L3 NSM1 L4 NSM1 L25 NSM2 L1 ON4 NSM1 L11 ET2 L58 ON4 L76 NSM2 L26 NSM18 L13 NSM1 L38 NSM8 L25 NSM11 L46",
   "NSM3 L48 NSM1 L2 NSM4 L2 NSM2 L39 NSM1 L67 NSM6 L2 NSM2 L2 NSM2 L12 NSM1 L8 NSM1 L47 NSM1 L51 NSM1 L1",
   "NSM3 L2 NSM2 L5 NSM2 L1 NSM1 L42 NSM2 L8 NSM1 L115 ON2 L121 NSM1 L2 NSM1 L4 NSM1 L20271 R1 NSM1 R10 ES1",
   "R38 AL115 ON16 AL363 ON18 AL64 ON2 AL54 ON8 BN32 AL13 ON3 NSM16 ON10 L6 NSM16 ON32 CS1 ON1 CS1 L1 ON1",
   "CS1 ON9 ET1 ON2 ES2 ON3 L1 ON1 ET2 ON1 L4 AL143 BN1 L1 ON2 ET3 ON5 ES1 CS1 ES1 CS2 EN10 CS1 ON6 L26 ON6",
   "L26 ON11 L122 ET2 ON3 ET2 L1 ON7 L1 BN9 ON5 BN2 L257 ON1 L62 ON77 L3 ON13 L3 ON1 L92 NSM1 L226 NSM1 EN27",
   "L122 NSM5 L1157 R287 ON1 R225 NSM3 R1 NSM2 R5 NSM4 R40 NSM3 R4 NSM1 R165 NSM2 R82 ON7 R448 AL36 NSM4 AL8",
   "AN10 AL6 R288 AN31 R44 NSM2 R19 AL61 NSM3 R48 AL22 NSM11 AL31 R18 NSM4 R122 L1 NSM1 L54 NSM15 L11 ON20",
   "L10 NSM1 L2 NSM2 L10 NSM3 L49 NSM4 L2 NSM2 L7 NSM1 L61 NSM3 L36 NSM5 L1 NSM8 L62 NSM1 L12 NSM2 L52 NSM9",
   "L10 NSM4 L2 NSM1 L95 NSM3 L2 NSM1 L1 NSM2 L6 NSM1 L2 NSM1 L157 NSM1 L3 NSM8 L21 NSM2 L57 NSM2 L3 NSM1",
   "L37 NSM7 L3 NSM5 L95 ON2 L1 ON2 L95 NSM8 L2 NSM3 L1 NSM1 L23 NSM1 L84 NSM6 L1 NSM1 L4 NSM2 L1 NSM2 L238",
   "NSM4 L6 NSM2 L1 NSM2 L27 NSM2 L85 NSM8 L2 NSM1 L1 NSM2 L31 ON13 L62 NSM1 L1 NSM1 L2 NSM6 L1 NSM1 L101",
   "NSM3 L2 NSM4 L1 NSM5 L259 NSM9 L1 NSM2 L256 NSM2 L1 NSM1 L4 NSM1 L144 NSM4 L2 NSM2 L4 NSM1 L32 NSM6 L2",
   "NSM2 L40 NSM6 L2 NSM4 L8 NSM1 L9 NSM6 L2 NSM3 L46 NSM13 L1 NSM2 L327 ON1 L78 NSM7 L1 NSM6 L84 NSM22 L2",
   "NSM7 L1 NSM2 L1 NSM2 L122 NSM6 L3 NSM1 L1 NSM2 L1 NSM7 L1 NSM1 L72 NSM2 L3 NSM1 L1 NSM1 L347 NSM2 L11",
   "NSM2 L52 NSM5 L5 NSM1 L1 NSM1 L146 ON8 ET4 ON17 L5198 NSM1 L6 NSM15 L13978 NSM5 L59 NSM7 L566 ON3 L479",
   "NSM1 L63 NSM4 L79 ON1 L1 NSM1 L15 ON3 L19622 NSM2 L1 BN4 L3932 ON240 L10 ON3 L3 ON436 L6 ON23 L15 ON17",
   "L15 NSM46 L2 NSM23 L544 NSM3 L9 BN8 NSM8 L2 NSM7 L30 NSM4 L59 ON2 L21 ON66 NSM3 ON1 L186 ON87 L900 ON1",
   "L57 ON1 L57 ON1 L57 ON1 L57 ON1 L10 EN50 L512 NSM55 L4 NSM50 L8 NSM1 L14 NSM1 L22 NSM5 L1 NSM15 L1360",
   "NSM7 L1 NSM17 L2 NSM7 L1 NSM2 L1 NSM5 L100 NSM1 L160 NSM7 L375 NSM1 L61 NSM4 L15 ET1 L492 NSM4 L271 ON1",
   "L512 R208 NSM7 R109 NSM7 R805 AL80 R64 AL80 R176 AL240 ON2 AL14 R256 ON44 L4 ON100 L12 ON15 L2 ON15 L1",
   "ON15 L1 ON37 L10 EN11 ON5 L31 ON1 L58 ON6 L61 ON1 L178 ON6 L154 ON985 L3 ON17 L3 ON13 L3 ON218 L6 ON12",
   "L4 ON1 L15 ON12 L4 ON56 L8 ON10 L6 ON40 L8 ON30 L2 ON12 L4 ON2 L14 ON9 L39 ON344 L8 ON14 L2 ON13 L3 ON11",
   "L3 ON57 L1 ON1 L4 ON16 L2 ON12 L4 ON10 L7 ON147 L1 ON92 EN10 ON1 L1027 BN2 L65534 BN2 L65534 BN2 L65534",
   "BN2 L65534 BN2 L65534 BN2 L65534 BN2 L65534 BN2 L65534 BN2 L65534 BN2 L65534 BN2 L65534 BN2 L65534 BN258",
   "NSM240 BN3600 L61438 BN2 L65534 BN2 L65534 BN2"]

/-- The characters that have one of the given directions. -/
def bidiSet (classes : List String) : CharSet :=
  CharSet.ofLabels (· ∈ classes) bidiRuns

end Attest
