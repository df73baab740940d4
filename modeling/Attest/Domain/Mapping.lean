import Attest.Text.CharMap
import Attest.Text.CharSet

/-!
What becomes of the characters of a domain name: most are valid, capitals and other variants are replaced, some are
left out, and the rest is not allowed.
-/

namespace Attest.Domain

/-- The code points from zero on as runs of one fate: V for valid, M for replaced, I for left out, X for not
allowed. -/
def fateRuns : List (String × Nat) := CharSet.labelledRuns
  ["V65 M26 V37 X32 M1 V7 M1 V1 M1 V2 I1 V1 M1 V2 M4 V2 M3 V1 M3 V1 M23 V1 M7 V33 M1 V1 M1 V1 M1 V1 M1 V1 M1",
   "V1 M1 V1 M1 V1 M1 V1 M1 V1 M1 V1 M1 V1 M1 V1 M1 V1 M1 V1 M1 V1 M1 V1 M1 V1 M1 V1 M1 V1 M1 V1 M1 V1 M1 V1",
   "M1 V1 M1 V1 M1 V1 M3 V1 M1 V2 M1 V1 M1 V1 M1 V1 M3 V1 M1 V1 M1 V1 M1 V1 M2 V1 M1 V1 M1 V1 M1 V1 M1 V1 M1",
   "V1 M1 V1 M1 V1 M1 V1 M1 V1 M1 V1 M1 V1 M1 V1 M1 V1 M1 V1 M1 V1 M1 V1 M1 V1 M1 V1 M1 V1 M1 V1 M1 V1 M1 V1",
   "M2 V1 M1 V1 M1 V1 M1 V1 M2 V1 M1 V1 M2 V1 M3 V2 M4 V1 M2 V1 M3 V3 M2 V1 M2 V1 M1 V1 M1 V1 M2 V1 M1 V2 M1",
   "V1 M2 V1 M3 V1 M1 V1 M2 V3 M1 V7 M10 V1 M1 V1 M1 V1 M1 V1 M1 V1 M1 V1 M1 V1 M1 V2 M1 V1 M1 V1 M1 V1 M1",
   "V1 M1 V1 M1 V1 M1 V1 M1 V1 M1 V2 M4 V1 M3 V1 M1 V1 M1 V1 M1 V1 M1 V1 M1 V1 M1 V1 M1 V1 M1 V1 M1 V1 M1 V1",
   "M1 V1 M1 V1 M1 V1 M1 V1 M1 V1 M1 V1 M1 V1 M1 V1 M1 V1 M1 V1 M1 V1 M1 V1 M1 V1 M1 V1 M1 V1 M1 V1 M1 V1 M1",
   "V1 M1 V7 M2 V1 M2 V2 M1 V1 M4 V1 M1 V1 M1 V1 M1 V1 M1 V97 M9 V31 M6 V2 M5 V91 M2 V1 M3 V9 I1 V32 M1 V1",
   "M1 V1 M1 V1 M1 V1 X2 M1 V3 M2 X4 M7 X1 M1 X1 M2 V1 M17 X1 M9 V35 M8 V1 M1 V1 M1 V1 M1 V1 M1 V1 M1 V1 M1",
   "V1 M1 V1 M1 V1 M1 V1 M1 V1 M1 V1 M1 V1 M3 V1 M2 V1 M1 V1 M2 V2 M51 V48 M1 V1 M1 V1 M1 V1 M1 V1 M1 V1 M1",
   "V1 M1 V1 M1 V1 M1 V1 M1 V1 M1 V1 M1 V1 M1 V1 M1 V1 M1 V1 M1 V1 M1 V9 M1 V1 M1 V1 M1 V1 M1 V1 M1 V1 M1 V1",
   "M1 V1 M1 V1 M1 V1 M1 V1 M1 V1 M1 V1 M1 V1 M1 V1 M1 V1 M1 V1 M1 V1 M1 V1 M1 V1 M1 V1 M1 V1 M1 V1 M1 V1 M1",
   "V1 M1 V1 M1 V1 M1 V1 M2 V1 M1 V1 M1 V1 M1 V1 M1 V1 M1 V1 M1 V2 M1 V1 M1 V1 M1 V1 M1 V1 M1 V1 M1 V1 M1 V1",
   "M1 V1 M1 V1 M1 V1 M1 V1 M1 V1 M1 V1 M1 V1 M1 V1 M1 V1 M1 V1 M1 V1 M1 V1 M1 V1 M1 V1 M1 V1 M1 V1 M1 V1 M1",
   "V1 M1 V1 M1 V1 M1 V1 M1 V1 M1 V1 M1 V1 M1 V1 M1 V1 M1 V1 M1 V1 M1 V1 M1 V1 M1 V1 M1 V1 M1 V1 M1 V1 M1 V1",
   "M1 V1 M1 V1 M1 V1 M1 V1 M1 V1 M1 V1 X1 M38 X2 V46 M1 V3 X2 V3 X1 V55 X8 V27 X4 V6 X17 V22 X1 V88 M4 V100",
   "X1 V48 X2 V59 X2 V101 X14 V59 X2 V49 X2 V15 X1 V28 X2 V1 X1 V11 X5 V32 X7 V75 X1 V117 M8 V36 X1 V8 X2 V2",
   "X2 V22 X1 V7 X1 V1 X3 V4 X2 V9 X2 V2 X2 V4 X8 V1 X4 M2 X1 M1 V4 X2 V25 X2 V3 X1 V6 X4 V2 X2 V22 X1 V7 X1",
   "V1 M1 X1 V1 M1 X1 V2 X2 V1 X1 V5 X4 V2 X2 V3 X3 V1 X7 M3 V1 X1 M1 X7 V17 X10 V3 X1 V9 X1 V3 X1 V22 X1 V7",
   "X1 V2 X1 V5 X2 V10 X1 V3 X1 V3 X2 V1 X15 V4 X2 V12 X7 V7 X1 V3 X1 V8 X2 V2 X2 V22 X1 V7 X1 V2 X1 V5 X2",
   "V9 X2 V2 X2 V3 X7 V3 X4 M2 X1 V5 X2 V18 X10 V2 X1 V6 X3 V3 X1 V4 X3 V2 X1 V1 X1 V2 X3 V2 X3 V3 X3 V12 X4",
   "V5 X3 V3 X1 V4 X2 V1 X6 V1 X14 V21 X5 V13 X1 V3 X1 V23 X1 V16 X2 V9 X1 V3 X1 V4 X7 V2 X1 V3 X1 V2 X2 V4",
   "X2 V10 X7 V22 X1 V3 X1 V23 X1 V10 X1 V5 X2 V9 X1 V3 X1 V4 X7 V2 X5 V3 X1 V4 X2 V10 X1 V3 X12 V13 X1 V3",
   "X1 V51 X1 V3 X1 V6 X4 V16 X2 V26 X1 V3 X1 V18 X3 V24 X1 V9 X1 V1 X2 V7 X3 V1 X4 V6 X1 V1 X1 V8 X6 V10 X2",
   "V3 X12 V50 M1 V7 X4 V29 X37 V2 X1 V1 X1 V5 X1 V24 X1 V1 X1 V12 M1 V10 X2 V5 X1 V1 X1 V7 X1 V10 X2 M2 V2",
   "X32 V12 M1 V54 M1 V4 X1 V4 M1 V4 M1 V4 M1 V4 M1 V12 M1 V3 X4 V2 M1 V1 M5 V7 M1 V17 M1 V4 X1 V4 M1 V4 M1",
   "V4 M1 V4 M1 V12 M1 V3 X1 V15 X1 V13 X37 V160 M38 X1 M1 X5 M1 X2 V44 M1 V98 I2 V232 X1 V4 X2 V7 X1 V1 X1",
   "V4 X2 V41 X1 V4 X2 V33 X1 V4 X2 V7 X1 V1 X1 V4 X2 V15 X1 V57 X1 V4 X2 V67 X2 V32 X3 V26 X6 V86 X2 M6 X2",
   "V640 X1 V28 X3 V89 X7 V22 X9 V24 X9 V20 X12 V13 X1 V3 X1 V2 X12 V52 I2 V40 X2 V10 X6 V10 X6 V11 I5 V10",
   "X6 V89 X7 V43 X5 V70 X10 V31 X1 V12 X4 V12 X4 V1 X3 V42 X2 V5 X11 V44 X4 V26 X6 V11 X3 V62 X2 V65 X1 V29",
   "X2 V11 X6 V10 X6 V14 X2 V46 X2 V12 X20 V77 X1 V166 X8 V60 X3 V15 X3 V51 M10 V1 X5 M43 X2 M3 V8 X8 V43 X5",
   "V44 M3 V1 M11 V1 M18 V1 M28 V13 M1 V34 M37 V64 M1 V1 M1 V1 M1 V1 M1 V1 M1 V1 M1 V1 M1 V1 M1 V1 M1 V1 M1",
   "V1 M1 V1 M1 V1 M1 V1 M1 V1 M1 V1 M1 V1 M1 V1 M1 V1 M1 V1 M1 V1 M1 V1 M1 V1 M1 V1 M1 V1 M1 V1 M1 V1 M1 V1",
   "M1 V1 M1 V1 M1 V1 M1 V1 M1 V1 M1 V1 M1 V1 M1 V1 M1 V1 M1 V1 M1 V1 M1 V1 M1 V1 M1 V1 M1 V1 M1 V1 M1 V1 M1",
   "V1 M1 V1 M1 V1 M1 V1 M1 V1 M1 V1 M1 V1 M1 V1 M1 V1 M1 V1 M1 V1 M1 V1 M1 V1 M1 V1 M1 V1 M1 V1 M1 V1 M1 V1",
   "M1 V1 M1 V1 M1 V1 M1 V1 M1 V1 M1 V1 M1 V1 M1 V1 M1 V1 M1 V1 M1 V1 M1 V1 M1 V5 M2 V2 M1 V1 M1 V1 M1 V1 M1",
   "V1 M1 V1 M1 V1 M1 V1 M1 V1 M1 V1 M1 V1 M1 V1 M1 V1 M1 V1 M1 V1 M1 V1 M1 V1 M1 V1 M1 V1 M1 V1 M1 V1 M1 V1",
   "M1 V1 M1 V1 M1 V1 M1 V1 M1 V1 M1 V1 M1 V1 M1 V1 M1 V1 M1 V1 M1 V1 M1 V1 M1 V1 M1 V1 M1 V1 M1 V1 M1 V1 M1",
   "V1 M1 V1 M1 V1 M1 V1 M1 V1 M1 V1 M1 V1 M1 V1 M1 V1 M1 V1 M1 V9 M8 V6 X2 M6 X2 V8 M8 V8 M8 V6 X2 M6 X2 V8",
   "X1 M1 X1 M1 X1 M1 X1 M1 V8 M8 V1 M1 V1 M1 V1 M1 V1 M1 V1 M1 V1 M1 V1 M1 X2 M48 V2 M3 X1 V1 M14 X1 V1 M9",
   "V3 M1 X2 V2 M4 X1 M3 V3 M1 V4 M8 X2 M3 X1 V1 M8 X1 M11 I1 V2 X2 V1 M1 V5 M1 V12 X3 V1 X7 M1 V3 M2 V1 M2",
   "V4 M1 V1 M1 V8 M3 V13 M1 V7 M1 I5 X5 I6 M2 X2 M27 X1 M13 X3 V8 M1 V25 X14 V33 X15 M4 V1 M3 V1 M11 V1 M2",
   "V2 M5 V2 M3 V1 M1 V1 M1 V1 M1 V1 M4 V1 M11 V1 M6 V4 M5 V6 M48 V3 M1 V5 M1 V2 X4 V156 M2 V1 M2 V248 M2",
   "V255 X22 V11 X21 M40 X20 M79 V1313 M1 V103 M3 V101 M1 V151 X2 V138 M48 V48 M1 V1 M3 V2 M1 V1 M1 V1 M1 V1",
   "M4 V1 M1 V2 M1 V6 M5 V1 M1 V1 M1 V1 M1 V1 M1 V1 M1 V1 M1 V1 M1 V1 M1 V1 M1 V1 M1 V1 M1 V1 M1 V1 M1 V1 M1",
   "V1 M1 V1 M1 V1 M1 V1 M1 V1 M1 V1 M1 V1 M1 V1 M1 V1 M1 V1 M1 V1 M1 V1 M1 V1 M1 V1 M1 V1 M1 V1 M1 V1 M1 V1",
   "M1 V1 M1 V1 M1 V1 M1 V1 M1 V1 M1 V1 M1 V1 M1 V1 M1 V1 M1 V1 M1 V1 M1 V1 M1 V1 M1 V1 M1 V1 M1 V1 M1 V1 M1",
   "V8 M1 V1 M1 V4 M1 V1 X5 V45 X1 V1 X5 V1 X2 V56 X7 M1 V1 X14 V24 X9 V7 X1 V7 X1 V7 X1 V7 X1 V7 X1 V7 X1",
   "V7 X1 V7 X1 V126 X34 V26 X1 V4 M1 V83 M1 X12 M214 X42 M1 V1 M1 V51 M1 V1 M3 V5 X1 V86 X2 V2 M2 V2 M1 V95",
   "M1 X5 V43 X1 M51 I1 M42 X1 V2 M14 V70 X10 V16 M31 X1 M40 V8 M47 V1 M322 X1 M4 X1 M16 X1 M39 V28813 X3",
   "V55 X9 V348 X20 M1 V1 M1 V1 M1 V1 M1 V1 M1 V1 M1 V1 M1 V1 M1 V1 M1 V1 M1 V1 M1 V1 M1 V1 M1 V1 M1 V1 M1",
   "V1 M1 V1 M1 V1 M1 V1 M1 V1 M1 V1 M1 V1 M1 V1 M1 V19 M1 V1 M1 V1 M1 V1 M1 V1 M1 V1 M1 V1 M1 V1 M1 V1 M1",
   "V1 M1 V1 M1 V1 M1 V1 M1 V1 M1 V1 M2 V90 X8 V34 M1 V1 M1 V1 M1 V1 M1 V1 M1 V1 M1 V1 M1 V3 M1 V1 M1 V1 M1",
   "V1 M1 V1 M1 V1 M1 V1 M1 V1 M1 V1 M1 V1 M1 V1 M1 V1 M1 V1 M1 V1 M1 V1 M1 V1 M1 V1 M1 V1 M1 V1 M1 V1 M1 V1",
   "M1 V1 M1 V1 M1 V1 M1 V1 M1 V1 M1 V1 M1 V1 M1 V1 M1 V1 M1 V1 M1 V1 M1 V8 M1 V1 M1 V1 M2 V1 M1 V1 M1 V1 M1",
   "V1 M1 V4 M1 V1 M1 V2 M1 V1 M1 V3 M1 V1 M1 V1 M1 V1 M1 V1 M1 V1 M1 V1 M1 V1 M1 V1 M1 V1 M1 V1 M5 V1 M5 V1",
   "M1 V1 M1 V1 M1 V1 M1 V1 M1 V1 M1 V1 M1 V1 M4 V1 M1 V1 M2 V1 M1 V1 M1 V1 M1 V1 M1 V1 M1 V1 M1 V1 M1 V1 M1",
   "X20 M5 V2 M2 V51 X3 V10 X6 V56 X8 V70 X8 V12 X6 V116 X11 V30 X3 V78 X1 V11 X4 V33 X1 V55 X9 V14 X2 V10",
   "X2 V103 X24 V28 X10 V6 X2 V6 X2 V6 X9 V7 X1 V7 X1 V44 M4 V9 M1 V2 X4 M80 V46 X2 V10 X6 V11172 X12 V23 X4",
   "V49 X8452 M270 V2 M1 V1 M1 V2 M10 V1 M1 V1 M1 V2 M2 V3 M68 X2 M106 X38 M7 X12 M5 X5 M1 V1 M24 X1 M5 X1",
   "M1 X1 M2 X1 M2 X1 M108 V33 M363 V18 M64 V2 M54 V8 X32 M13 V3 I16 M2 X1 M6 X7 V16 X1 M20 V2 M11 X2 M19 X1",
   "M4 X4 M3 V1 M1 X1 M135 X2 I1 X1 M159 I1 M30 X3 M6 X2 M6 X2 M6 X2 M3 X3 M7 X1 M7 X17 V12 X1 V26 X1 V19 X1",
   "V2 X1 V15 X2 V14 X34 V123 X5 V3 X4 V45 X3 V88 X1 V13 X3 V1 X47 V46 X130 V29 X3 V49 X15 V28 X4 V36 X9 V30",
   "X5 V43 X5 V30 X1 V37 X4 V14 X42 M40 V118 X2 V10 X6 M36 X4 V36 X4 V40 X8 V52 X11 V1 M11 X1 M15 X1 M7 X1",
   "M2 X1 V11 X1 V15 X1 V7 X1 V2 X3 V52 X12 V311 X9 V22 X10 V8 X24 V1 M5 X1 M42 X1 M9 X69 V6 X2 V1 X1 V44 X1",
   "V2 X3 V1 X2 V23 X1 V72 X8 V9 X48 V19 X1 V2 X5 V33 X3 V27 X5 V27 X38 V56 X4 V20 X2 V50 X1 V2 X5 V8 X1 V3",
   "X1 V29 X2 V3 X4 V10 X7 V9 X7 V64 X32 V39 X4 V12 X9 V54 X3 V29 X2 V27 X5 V26 X7 V4 X12 V7 X80 V73 X55 M51",
   "X13 V51 X7 V46 X8 V10 X6 V16 M22 X3 V29 X8 V2 X208 V31 X1 V42 X1 V3 X2 V2 X16 V6 X8 V9 X33 V46 X8 V42",
   "X22 V26 X38 V28 X20 V23 X9 V78 X4 V36 X9 V62 X1 V5 X13 V25 X7 V10 X6 V53 X1 V18 X8 V39 X9 V96 X1 V20 X11",
   "V18 X1 V47 X62 V7 X1 V1 X1 V4 X1 V15 X1 V11 X6 V59 X5 V10 X6 V4 X1 V8 X2 V2 X2 V22 X1 V7 X1 V2 X1 V5 X1",
   "V10 X2 V2 X2 V3 X2 V1 X6 V1 X5 V7 X2 V7 X3 V5 X11 V10 X1 V1 X2 V1 X1 V38 X1 V10 X1 V1 X2 V1 X1 V4 X1 V10",
   "X1 V2 X8 V2 X29 V92 X1 V5 X30 V72 X8 V10 X166 V54 X2 V38 X34 V69 X11 V10 X6 V13 X19 V58 X6 V10 X6 V20",
   "X28 V27 X2 V15 X4 V23 X185 V60 X100 M32 V51 X12 V8 X2 V1 X2 V8 X1 V2 X1 V30 X1 V2 X2 V12 X9 V10 X70 V8",
   "X2 V46 X2 V11 X27 V72 X8 V83 X13 V73 X7 V10 X86 V8 X88 V34 X14 V10 X6 V9 X1 V45 X1 V14 X10 V29 X3 V32 X2",
   "V22 X1 V14 X73 V7 X1 V2 X1 V44 X3 V1 X1 V2 X1 V9 X8 V10 X6 V6 X1 V2 X1 V37 X1 V2 X1 V6 X7 V10 X6 V44 X4",
   "V10 X246 V25 X7 V17 X1 V41 X3 V29 X85 V1 X15 V50 X13 V923 X102 V111 X1 V5 X11 V196 X2636 V99 X13 V1072",
   "X16 V22 X10 V3995 X5 V583 X6841 V58 X1734 V569 X7 V31 X1 V10 X4 V81 X1 V10 X6 V30 X2 V6 X10 V70 X10 V10",
   "X1 V7 X1 V21 X5 V19 X432 V58 X198 M32 V59 X5 M25 X2 V25 X44 V75 X4 V57 X7 V17 X64 V5 X11 V7 X9 V7382 X41",
   "V32 X97 V115 X8701 V4 X1 V7 X1 V2 X1 V291 X15 V1 X29 V3 X2 V1 X14 V4 X8 V396 X2308 V107 X5 V13 X3 V9 X7",
   "V10 X2 V4 I4 X3932 V214 M36 V3 X3 V436 X6 V23 X15 V17 X15 V46 X2 V23 X9 V116 X60 V246 X10 V39 X2 V53 M7",
   "V14 I8 V64 M6 V42 X21 V70 X122 V20 X12 V20 X12 V87 X9 V25 X135 M85 X1 M71 X1 M2 X2 M1 X2 M2 X2 M4 X1 M12",
   "X1 M1 X1 M7 X1 M65 X1 M4 X2 M8 X1 M7 X1 M28 X1 M4 X1 M5 X1 M1 X3 M7 X1 M340 X2 M292 X2 M50 V652 X15 V5",
   "X1 V15 X1104 V31 X6 V6 X213 V7 X1 V17 X2 V7 X1 V2 X1 V5 X5 M62 X33 V1 X112 V45 X3 V14 X2 V10 X4 V2 X320",
   "V31 X17 V58 X5 V1 X464 V42 X214 V43 X4 V1 X192 V31 X1 V22 X8 V2 X224 V7 X1 V4 X1 V2 X1 V15 X1 V197 X2",
   "V16 X41 M34 V42 X4 V10 X4 V2 X785 V68 X76 V61 X194 M4 X1 M27 X1 M2 X1 M1 X2 M1 X1 M10 X1 M4 X1 M1 X1 M1",
   "X6 M1 X4 M1 X1 M1 X1 M1 X1 M3 X1 M2 X1 M1 X2 M1 X1 M1 X1 M1 X1 M1 X1 M1 X1 M2 X1 M1 X2 M4 X1 M7 X1 M4 X1",
   "M4 X1 M1 X1 M10 X1 M17 X5 M3 X1 M5 X1 M17 X52 V2 X270 V44 X4 V100 X12 V15 X2 V15 X1 V15 X1 V37 X11 M10",
   "V5 M31 V1 M32 V26 M3 V35 M1 V29 X56 V26 M3 X13 M44 X4 M9 X7 M2 X14 V6 X154 V985 X3 V17 X3 V13 X3 V218 X6",
   "V12 X4 V1 X15 V12 X4 V56 X8 V10 X6 V40 X8 V30 X2 V12 X4 V2 X14 V9 X39 V344 X8 V14 X2 V13 X3 V11 X3 V57",
   "X1 V1 X4 V16 X2 V12 X4 V10 X7 V147 X1 V92 M10 V1 X1029 V42720 X32 V4382 X2 V5774 X2 V7473 X15 V622 X2466",
   "M542 X1506 V4939 X5 V8490 X707718 I240 X196112"]

/-- Characters that are replaced by one other, in runs: the distance from the start of the run before, the length, the
step from one to the next, what the first is replaced by, and the step there. -/
def replacementRows : List String :=
  ["65 26 1 97 1 95 1 1 32 1 10 1 1 97 1 8 2 1 50 1 3 1 1 956 1 4 1 1 49 1 1 1 1 111 1 6 23 1 224 1 24 7 1",
   "248 1 40 24 2 257 2 52 2 2 309 2 5 3 2 314 2 8 4 2 322 2 9 23 2 331 2 46 1 1 255 1 1 3 2 378 2 6 1 1 115",
   "1 2 1 1 595 1 1 2 2 387 2 4 1 1 596 1 1 1 1 392 1 2 2 1 598 1 2 1 1 396 1 3 1 1 477 1 1 2 1 601 2 2 1 1",
   "402 1 2 1 1 608 1 1 1 1 611 1 2 1 1 617 1 1 1 1 616 1 1 1 1 409 1 4 1 1 623 1 1 1 1 626 1 2 1 1 629 1 1",
   "3 2 417 2 6 1 1 640 1 1 1 1 424 1 2 1 1 643 1 3 1 1 429 1 2 1 1 648 1 1 1 1 432 1 2 2 1 650 1 2 2 2 436",
   "2 4 1 1 658 1 1 1 1 441 1 4 1 1 445 1 17 8 2 462 2 17 9 2 479 2 22 1 1 501 1 2 1 1 405 1 1 1 1 447 1 1",
   "20 2 505 2 40 1 1 414 1 2 9 2 547 2 24 1 1 11365 1 1 1 1 572 1 2 1 1 410 1 1 1 1 11366 1 3 1 1 578 1 2 1",
   "1 384 1 1 1 1 649 1 1 1 1 652 1 1 5 2 583 2 106 1 1 104 1 1 1 1 614 1 1 1 1 106 1 1 1 1 114 1 1 2 1 633",
   "2 2 1 1 641 1 1 2 1 119 2 41 1 1 611 1 1 1 1 108 1 1 1 1 115 1 1 1 1 120 1 1 1 1 661 1 92 2 1 768 1 3 1",
   "1 787 1 2 1 1 953 1 43 2 2 881 2 4 1 1 697 1 2 1 1 887 1 8 1 1 59 1 1 1 1 1011 1 7 1 1 940 1 1 1 1 183 1",
   "1 3 1 941 1 4 2 2 972 1 3 1 1 974 1 2 17 1 945 1 18 9 1 963 1 44 1 1 983 1 1 1 1 946 1 1 1 1 952 1 1 1 1",
   "965 1 1 1 1 973 1 1 1 1 971 1 1 1 1 966 1 1 1 1 960 1 2 12 2 985 2 24 1 1 954 1 1 2 1 961 2 3 1 1 952 1",
   "1 1 1 949 1 2 1 1 1016 1 2 1 1 963 1 1 1 1 1019 1 3 3 1 891 1 3 16 1 1104 1 16 32 1 1072 1 80 17 2 1121",
   "2 42 27 2 1163 2 54 1 1 1231 1 1 7 2 1218 2 15 48 2 1233 2 97 38 1 1377 1 2523 1 1 3851 1 404 38 1 11520",
   "1 39 1 1 11559 1 6 1 1 11565 1 47 1 1 4316 1 764 6 1 5104 1 2184 2 1 1074 2 2 1 1 1086 1 1 2 1 1089 1 2",
   "1 1 1090 1 1 1 1 1098 1 1 1 1 1123 1 1 1 1 42571 1 1 1 1 7306 1 7 43 1 4304 1 45 3 1 4349 1 111 1 1 97 1",
   "1 1 1 230 1 1 2 2 98 2 3 1 1 101 1 1 1 1 477 1 1 8 1 103 1 9 1 1 111 1 1 1 1 547 1 1 3 1 112 2 3 2 1 117",
   "2 2 1 1 97 1 1 2 1 592 1 2 1 1 7426 1 1 2 1 98 2 2 1 1 101 1 1 2 1 601 2 2 1 1 604 1 1 1 1 103 1 2 2 1",
   "107 2 2 1 1 331 1 1 1 1 111 1 1 1 1 596 1 1 2 1 7446 1 2 1 1 112 1 1 2 1 116 1 2 1 1 7453 1 1 1 1 623 1",
   "1 1 1 118 1 1 1 1 7461 1 1 3 1 946 1 3 2 1 966 1 2 1 1 105 1 1 1 1 114 1 1 2 1 117 1 2 2 1 946 1 2 1 1",
   "961 1 1 2 1 966 1 15 1 1 1085 1 35 1 1 594 1 1 1 1 99 1 1 1 1 597 1 1 1 1 240 1 1 1 1 604 1 1 1 1 102 1",
   "1 2 1 607 2 2 1 1 613 1 1 3 1 616 1 3 1 1 7547 1 1 1 1 669 1 1 1 1 621 1 1 1 1 7557 1 1 1 1 671 1 1 1 1",
   "625 1 1 2 1 624 2 2 3 1 627 1 3 1 1 632 1 1 2 1 642 1 2 1 1 427 1 1 2 1 649 1 2 1 1 7452 1 1 2 1 651 1 2",
   "1 1 122 1 1 3 1 656 1 3 1 1 952 1 65 75 2 7681 2 155 1 1 7777 1 3 1 1 223 1 2 48 2 7841 2 104 8 1 7936 1",
   "16 6 1 7952 1 16 8 1 7968 1 16 8 1 7984 1 16 6 1 8000 1 17 4 2 8017 2 15 8 1 8032 1 9 4 2 940 1 8 3 2",
   "972 1 63 2 1 8112 1 2 1 1 8048 1 1 1 1 940 1 3 1 1 953 1 10 1 1 8050 1 1 1 1 941 1 1 1 1 8052 1 1 1 1",
   "942 1 8 1 1 912 1 5 2 1 8144 1 2 1 1 8054 1 1 1 1 943 1 8 1 1 944 1 5 2 1 8160 1 2 1 1 8058 1 1 1 1 973",
   "1 1 1 1 8165 1 3 1 1 96 1 9 1 1 8056 1 1 1 1 972 1 1 1 1 8060 1 1 1 1 974 1 5 11 1 32 0 17 1 1 8208 1 30",
   "1 1 32 1 48 1 1 32 1 17 1 1 48 1 1 1 1 105 1 3 6 1 52 1 6 1 1 43 1 1 1 1 8722 1 1 1 1 61 1 1 2 1 40 1 2",
   "1 1 110 1 1 10 1 48 1 10 1 1 43 1 1 1 1 8722 1 1 1 1 61 1 1 2 1 40 1 3 1 1 97 1 1 1 1 101 1 1 1 1 111 1",
   "1 1 1 120 1 1 1 1 601 1 1 1 1 104 1 1 4 1 107 1 4 1 1 112 1 1 2 1 115 1 103 1 1 99 1 5 1 1 603 1 3 2 1",
   "103 1 2 3 1 104 0 3 1 1 295 1 1 2 1 105 0 2 2 1 108 0 3 1 1 110 1 4 3 1 112 1 3 2 1 114 0 8 1 1 122 1 2",
   "1 1 969 1 2 1 1 122 1 2 1 1 107 1 1 1 1 229 1 1 2 1 98 1 3 2 1 101 0 2 1 1 102 1 1 1 1 8526 1 1 2 1 109",
   "2 2 4 1 1488 1 4 1 1 105 1 3 1 1 960 1 1 2 1 947 0 2 1 1 960 1 1 1 1 8721 1 5 2 1 100 0 2 1 1 101 1 1 2",
   "1 105 1 24 1 1 105 1 4 1 1 118 1 5 1 1 120 1 3 1 1 108 1 1 2 1 99 1 2 1 1 109 1 1 1 1 105 1 4 1 1 118 1",
   "5 1 1 120 1 3 1 1 108 1 1 2 1 99 1 2 1 1 109 1 4 1 1 8580 1 422 2 1 12296 1 311 9 1 49 1 86 26 1 97 1 26",
   "26 1 97 1 26 1 1 48 1 1814 48 1 11312 1 96 1 1 11361 1 2 1 1 619 1 1 1 1 7549 1 1 1 1 637 1 3 3 2 11368",
   "2 6 1 1 593 1 1 1 1 625 1 1 2 1 592 2 3 1 1 11379 1 3 1 1 11382 1 7 1 1 106 1 1 1 1 118 1 1 2 1 575 1 2",
   "50 2 11393 2 107 2 2 11500 2 7 1 1 11507 1 125 1 1 11617 1 304 1 1 27597 1 84 1 1 40863 1 13 1 1 19968 1",
   "1 1 1 20008 1 1 1 1 20022 1 1 1 1 20031 1 1 1 1 20057 1 1 1 1 20101 1 1 1 1 20108 1 1 1 1 20128 1 1 1 1",
   "20154 1 1 1 1 20799 1 1 1 1 20837 1 1 1 1 20843 1 1 1 1 20866 1 1 1 1 20886 1 1 1 1 20907 1 1 1 1 20960",
   "1 1 1 1 20981 1 1 1 1 20992 1 1 1 1 21147 1 1 1 1 21241 1 1 1 1 21269 1 1 1 1 21274 1 1 1 1 21304 1 1 1",
   "1 21313 1 1 1 1 21340 1 1 1 1 21353 1 1 1 1 21378 1 1 1 1 21430 1 1 1 1 21448 1 1 1 1 21475 1 1 1 1",
   "22231 1 1 1 1 22303 1 1 1 1 22763 1 1 1 1 22786 1 1 1 1 22794 1 1 1 1 22805 1 1 1 1 22823 1 1 1 1 22899",
   "1 1 1 1 23376 1 1 1 1 23424 1 1 1 1 23544 1 1 1 1 23567 1 1 1 1 23586 1 1 1 1 23608 1 1 1 1 23662 1 1 1",
   "1 23665 1 1 1 1 24027 1 1 1 1 24037 1 1 1 1 24049 1 1 1 1 24062 1 1 1 1 24178 1 1 1 1 24186 1 1 1 1",
   "24191 1 1 1 1 24308 1 1 1 1 24318 1 1 1 1 24331 1 1 1 1 24339 1 1 1 1 24400 1 1 1 1 24417 1 1 1 1 24435",
   "1 1 1 1 24515 1 1 1 1 25096 1 1 1 1 25142 1 1 1 1 25163 1 1 1 1 25903 1 1 1 1 25908 1 1 1 1 25991 1 1 1",
   "1 26007 1 1 1 1 26020 1 1 1 1 26041 1 1 1 1 26080 1 1 1 1 26085 1 1 1 1 26352 1 1 1 1 26376 1 1 1 1",
   "26408 1 1 1 1 27424 1 1 1 1 27490 1 1 1 1 27513 1 1 1 1 27571 1 1 1 1 27595 1 1 1 1 27604 1 1 1 1 27611",
   "1 1 1 1 27663 1 1 1 1 27668 1 1 1 1 27700 1 1 1 1 28779 1 1 1 1 29226 1 1 1 1 29238 1 1 1 1 29243 1 1 1",
   "1 29247 1 1 1 1 29255 1 1 2 1 29273 2 2 1 1 29356 1 1 1 1 29572 1 1 1 1 29577 1 1 1 1 29916 1 1 1 1",
   "29926 1 1 1 1 29976 1 1 1 1 29983 1 1 1 1 29992 1 1 1 1 30000 1 1 1 1 30091 1 1 1 1 30098 1 1 1 1 30326",
   "1 1 1 1 30333 1 1 1 1 30382 1 1 1 1 30399 1 1 1 1 30446 1 1 1 1 30683 1 1 1 1 30690 1 1 1 1 30707 1 1 1",
   "1 31034 1 1 1 1 31160 1 1 1 1 31166 1 1 1 1 31348 1 1 1 1 31435 1 1 1 1 31481 1 1 1 1 31859 1 1 1 1",
   "31992 1 1 1 1 32566 1 1 1 1 32593 1 1 1 1 32650 1 1 1 1 32701 1 1 1 1 32769 1 1 1 1 32780 1 1 1 1 32786",
   "1 1 1 1 32819 1 1 1 1 32895 1 1 1 1 32905 1 1 1 1 33251 1 1 1 1 33258 1 1 1 1 33267 1 1 1 1 33276 1 1 1",
   "1 33292 1 1 1 1 33307 1 1 1 1 33311 1 1 1 1 33390 1 1 1 1 33394 1 1 1 1 33400 1 1 1 1 34381 1 1 1 1",
   "34411 1 1 1 1 34880 1 1 1 1 34892 1 1 1 1 34915 1 1 1 1 35198 1 1 1 1 35211 1 1 1 1 35282 1 1 1 1 35328",
   "1 1 1 1 35895 1 1 1 1 35910 1 1 1 1 35925 1 1 1 1 35960 1 1 1 1 35997 1 1 1 1 36196 1 1 1 1 36208 1 1 1",
   "1 36275 1 1 1 1 36523 1 1 1 1 36554 1 1 1 1 36763 1 1 1 1 36784 1 1 1 1 36789 1 1 1 1 37009 1 1 1 1",
   "37193 1 1 1 1 37318 1 1 1 1 37324 1 1 1 1 37329 1 1 1 1 38263 1 1 1 1 38272 1 1 1 1 38428 1 1 1 1 38582",
   "1 1 1 1 38585 1 1 1 1 38632 1 1 1 1 38737 1 1 1 1 38750 1 1 1 1 38754 1 1 1 1 38761 1 1 1 1 38859 1 1 1",
   "1 38893 1 1 1 1 38899 1 1 1 1 38913 1 1 1 1 39080 1 1 1 1 39131 1 1 1 1 39135 1 1 1 1 39318 1 1 1 1",
   "39321 1 1 1 1 39340 1 1 1 1 39592 1 1 1 1 39640 1 1 1 1 39647 1 1 1 1 39717 1 1 1 1 39727 1 1 1 1 39730",
   "1 1 1 1 39740 1 1 1 1 39770 1 1 1 1 40165 1 1 1 1 40565 1 1 1 1 40575 1 1 1 1 40613 1 1 1 1 40635 1 1 1",
   "1 40643 1 1 1 1 40653 1 1 1 1 40657 1 1 1 1 40697 1 1 1 1 40701 1 1 1 1 40718 1 1 1 1 40723 1 1 1 1",
   "40736 1 1 1 1 40763 1 1 1 1 40778 1 1 1 1 40786 1 1 1 1 40845 1 1 1 1 40860 1 1 1 1 40864 1 43 1 1 32 1",
   "2 1 1 46 1 52 1 1 12306 1 2 1 1 21313 1 1 2 1 21316 1 248 2 1 4352 1 2 1 1 4522 1 1 1 1 4354 1 1 2 1",
   "4524 1 2 3 1 4355 1 3 6 1 4528 1 6 1 1 4378 1 1 3 1 4358 1 3 1 1 4385 1 1 10 1 4361 1 10 21 1 4449 1 22",
   "2 1 4372 1 2 2 1 4551 1 2 2 1 4556 2 2 1 1 4563 1 1 2 1 4567 2 2 1 1 4380 1 1 2 1 4573 2 2 2 1 4381 1 2",
   "2 1 4384 2 2 1 1 4387 1 1 3 1 4391 2 3 4 1 4396 1 4 1 1 4402 1 1 1 1 4406 1 1 1 1 4416 1 1 1 1 4423 1 1",
   "1 1 4428 1 1 2 1 4593 1 2 3 1 4439 1 3 2 1 4484 1 2 1 1 4488 1 1 2 1 4497 1 2 1 1 4500 1 1 1 1 4510 1 1",
   "1 1 4513 1 4 1 1 19968 1 1 1 1 20108 1 1 1 1 19977 1 1 1 1 22235 1 1 1 1 19978 1 1 1 1 20013 1 1 1 1",
   "19979 1 1 1 1 30002 1 1 1 1 20057 1 1 1 1 19993 1 1 1 1 19969 1 1 1 1 22825 1 1 1 1 22320 1 1 1 1 20154",
   "1 165 1 1 21839 1 1 1 1 24188 1 1 1 1 25991 1 1 1 1 31631 1 25 2 1 4352 2 2 2 1 4355 2 2 2 1 4358 1 2 2",
   "1 4361 2 2 2 1 4364 2 2 4 1 4367 1 4 1 1 44032 1 1 1 1 45208 1 1 1 1 45796 1 1 1 1 46972 1 1 1 1 47560 1",
   "1 1 1 48148 1 1 1 1 49324 1 1 1 1 50500 1 1 1 1 51088 1 1 1 1 52264 1 1 1 1 52852 1 1 1 1 53440 1 1 1 1",
   "54028 1 1 1 1 54616 1 3 1 1 50864 1 2 1 1 19968 1 1 1 1 20108 1 1 1 1 19977 1 1 1 1 22235 1 1 1 1 20116",
   "1 1 1 1 20845 1 1 1 1 19971 1 1 1 1 20843 1 1 1 1 20061 1 1 1 1 21313 1 1 1 1 26376 1 1 1 1 28779 1 1 1",
   "1 27700 1 1 1 1 26408 1 1 1 1 37329 1 1 1 1 22303 1 1 1 1 26085 1 1 1 1 26666 1 1 1 1 26377 1 1 1 1",
   "31038 1 1 1 1 21517 1 1 1 1 29305 1 1 1 1 36001 1 1 1 1 31069 1 1 1 1 21172 1 1 1 1 31192 1 1 1 1 30007",
   "1 1 1 1 22899 1 1 1 1 36969 1 1 1 1 20778 1 1 1 1 21360 1 1 1 1 27880 1 1 1 1 38917 1 1 1 1 20241 1 1 1",
   "1 20889 1 1 1 1 27491 1 1 1 1 19978 1 1 1 1 20013 1 1 1 1 19979 1 1 1 1 24038 1 1 1 1 21491 1 1 1 1",
   "21307 1 1 1 1 23447 1 1 1 1 23398 1 1 1 1 30435 1 1 1 1 20225 1 1 1 1 36039 1 1 1 1 21332 1 1 1 1 22812",
   "1 32 5 1 12450 2 5 12 1 12459 2 12 4 1 12484 2 4 5 1 12491 1 5 1 1 12498 1 1 1 1 12501 1 1 1 1 12504 1 1",
   "1 1 12507 1 1 5 1 12510 1 5 3 1 12516 2 3 5 1 12521 1 5 4 1 12527 1 29509 23 2 42561 2 64 14 2 42625 2",
   "28 2 1 1098 2 134 7 2 42787 2 16 31 2 42803 2 62 1 1 42863 1 9 2 2 42874 2 4 1 1 7545 1 1 5 2 42879 2 13",
   "1 1 42892 1 2 1 1 613 1 3 2 2 42897 2 6 10 2 42903 2 20 1 1 614 1 1 1 1 604 1 1 1 1 609 1 1 1 1 620 1 1",
   "1 1 618 1 2 1 1 670 1 1 1 1 647 1 1 1 1 669 1 1 1 1 43859 1 1 8 2 42933 2 16 1 1 42900 1 1 1 1 642 1 1 1",
   "1 7566 1 1 2 2 42952 2 4 1 1 612 1 1 8 2 42957 2 16 1 1 411 1 21 1 1 115 1 1 1 1 99 1 1 1 1 102 1 1 1 1",
   "113 1 1 1 1 42998 1 3 1 1 295 1 1 1 1 339 1 867 1 1 42791 1 1 1 1 43831 1 1 1 1 619 1 1 1 1 43858 1 10 1",
   "1 653 1 7 80 1 5024 1 19856 1 1 35912 1 1 1 1 26356 1 1 1 1 36554 1 1 1 1 36040 1 1 1 1 28369 1 1 1 1",
   "20018 1 1 1 1 21477 1 1 2 1 40860 0 2 1 1 22865 1 1 1 1 37329 1 1 1 1 21895 1 1 1 1 22856 1 1 1 1 25078",
   "1 1 1 1 30313 1 1 1 1 32645 1 1 1 1 34367 1 1 1 1 34746 1 1 1 1 35064 1 1 1 1 37007 1 1 1 1 27138 1 1 1",
   "1 27931 1 1 1 1 28889 1 1 1 1 29662 1 1 1 1 33853 1 1 1 1 37226 1 1 1 1 39409 1 1 1 1 20098 1 1 1 1",
   "21365 1 1 1 1 27396 1 1 1 1 29211 1 1 1 1 34349 1 1 1 1 40478 1 1 1 1 23888 1 1 1 1 28651 1 1 1 1 34253",
   "1 1 1 1 35172 1 1 1 1 25289 1 1 1 1 33240 1 1 1 1 34847 1 1 1 1 24266 1 1 1 1 26391 1 1 1 1 28010 1 1 1",
   "1 29436 1 1 1 1 37070 1 1 1 1 20358 1 1 1 1 20919 1 1 1 1 21214 1 1 1 1 25796 1 1 1 1 27347 1 1 1 1",
   "29200 1 1 1 1 30439 1 1 1 1 32769 1 1 1 1 34310 1 1 1 1 34396 1 1 1 1 36335 1 1 1 1 38706 1 1 1 1 39791",
   "1 1 1 1 40442 1 1 1 1 30860 1 1 1 1 31103 1 1 1 1 32160 1 1 1 1 33737 1 1 1 1 37636 1 1 1 1 40575 1 1 1",
   "1 35542 1 1 1 1 22751 1 1 1 1 24324 1 1 1 1 31840 1 1 1 1 32894 1 1 1 1 29282 1 1 1 1 30922 1 1 1 1",
   "36034 1 1 1 1 38647 1 1 1 1 22744 1 1 1 1 23650 1 1 1 1 27155 1 1 1 1 28122 1 1 1 1 28431 1 1 1 1 32047",
   "1 1 1 1 32311 1 1 1 1 38475 1 1 1 1 21202 1 1 1 1 32907 1 1 1 1 20956 1 1 1 1 20940 1 1 1 1 31260 1 1 1",
   "1 32190 1 1 1 1 33777 1 1 1 1 38517 1 1 1 1 35712 1 1 1 1 25295 1 1 1 1 27138 1 1 1 1 35582 1 1 1 1",
   "20025 1 1 1 1 23527 1 1 1 1 24594 1 1 1 1 29575 1 1 1 1 30064 1 1 1 1 21271 1 1 1 1 30971 1 1 1 1 20415",
   "1 1 1 1 24489 1 1 1 1 19981 1 1 1 1 27852 1 1 1 1 25976 1 1 1 1 32034 1 1 1 1 21443 1 1 1 1 22622 1 1 1",
   "1 30465 1 1 1 1 33865 1 1 1 1 35498 1 1 1 1 27578 1 1 1 1 36784 1 1 1 1 27784 1 1 1 1 25342 1 1 1 1",
   "33509 1 1 1 1 25504 1 1 1 1 30053 1 1 1 1 20142 1 1 1 1 20841 1 1 1 1 20937 1 1 1 1 26753 1 1 1 1 31975",
   "1 1 1 1 33391 1 1 1 1 35538 1 1 1 1 37327 1 1 1 1 21237 1 1 1 1 21570 1 1 1 1 22899 1 1 1 1 24300 1 1 1",
   "1 26053 1 1 1 1 28670 1 1 1 1 31018 1 1 1 1 38317 1 1 1 1 39530 1 1 1 1 40599 1 1 1 1 40654 1 1 1 1",
   "21147 1 1 1 1 26310 1 1 1 1 27511 1 1 1 1 36706 1 1 1 1 24180 1 1 1 1 24976 1 1 1 1 25088 1 1 1 1 25754",
   "1 1 1 1 28451 1 1 1 1 29001 1 1 1 1 29833 1 1 1 1 31178 1 1 1 1 32244 1 1 1 1 32879 1 1 1 1 36646 1 1 1",
   "1 34030 1 1 1 1 36899 1 1 1 1 37706 1 1 1 1 21015 1 1 1 1 21155 1 1 1 1 21693 1 1 1 1 28872 1 1 1 1",
   "35010 1 1 1 1 35498 1 1 1 1 24265 1 1 1 1 24565 1 1 1 1 25467 1 1 1 1 27566 1 1 1 1 31806 1 1 1 1 29557",
   "1 1 1 1 20196 1 1 1 1 22265 1 1 1 1 23527 1 1 1 1 23994 1 1 1 1 24604 1 1 1 1 29618 1 1 1 1 29801 1 1 1",
   "1 32666 1 1 1 1 32838 1 1 1 1 37428 1 1 1 1 38646 1 1 1 1 38728 1 1 1 1 38936 1 1 1 1 20363 1 1 1 1",
   "31150 1 1 1 1 37300 1 1 1 1 38584 1 1 1 1 24801 1 1 1 1 20102 1 1 1 1 20698 1 1 1 1 23534 1 1 1 1 23615",
   "1 1 1 1 26009 1 1 1 1 27138 1 1 1 1 29134 1 1 1 1 30274 1 1 1 1 34044 1 1 1 1 36988 1 1 1 1 40845 1 1 1",
   "1 26248 1 1 1 1 38446 1 1 1 1 21129 1 1 1 1 26491 1 1 1 1 26611 1 1 1 1 27969 1 1 1 1 28316 1 1 1 1",
   "29705 1 1 1 1 30041 1 1 1 1 30827 1 1 1 1 32016 1 1 1 1 39006 1 1 1 1 20845 1 1 1 1 25134 1 1 1 1 38520",
   "1 1 1 1 20523 1 1 1 1 23833 1 1 1 1 28138 1 1 1 1 36650 1 1 1 1 24459 1 1 1 1 24900 1 1 1 1 26647 1 1 1",
   "1 29575 1 1 1 1 38534 1 1 1 1 21033 1 1 1 1 21519 1 1 1 1 23653 1 1 1 1 26131 1 1 1 1 26446 1 1 1 1",
   "26792 1 1 1 1 27877 1 1 1 1 29702 1 1 1 1 30178 1 1 1 1 32633 1 1 1 1 35023 1 1 1 1 35041 1 1 1 1 37324",
   "1 1 1 1 38626 1 1 1 1 21311 1 1 1 1 28346 1 1 1 1 21533 1 1 1 1 29136 1 1 1 1 29848 1 1 1 1 34298 1 1 1",
   "1 38563 1 1 1 1 40023 1 1 1 1 40607 1 1 1 1 26519 1 1 1 1 28107 1 1 1 1 33256 1 1 1 1 31435 1 1 1 1",
   "31520 1 1 1 1 31890 1 1 1 1 29376 1 1 1 1 28825 1 1 1 1 35672 1 1 1 1 20160 1 1 1 1 33590 1 1 1 1 21050",
   "1 1 1 1 20999 1 1 1 1 24230 1 1 1 1 25299 1 1 1 1 31958 1 1 1 1 23429 1 1 1 1 27934 1 1 1 1 26292 1 1 1",
   "1 36667 1 1 1 1 34892 1 1 1 1 38477 1 1 1 1 35211 1 1 1 1 24275 1 1 1 1 20800 1 1 1 1 21952 1 3 1 1",
   "22618 1 2 1 1 26228 1 3 1 1 20958 1 1 1 1 29482 1 1 1 1 30410 1 1 1 1 31036 1 1 1 1 31070 1 1 1 1 31077",
   "1 1 1 1 31119 1 1 1 1 38742 1 1 1 1 31934 1 1 1 1 32701 1 2 1 1 34322 1 2 1 1 35576 1 3 1 1 36920 1 1 1",
   "1 37117 1 4 1 1 39151 1 1 1 1 39164 1 1 1 1 39208 1 1 1 1 40372 1 1 1 1 37086 1 1 1 1 38583 1 1 1 1",
   "20398 1 1 1 1 20711 1 1 1 1 20813 1 1 1 1 21193 1 1 1 1 21220 1 1 1 1 21329 1 1 1 1 21917 1 1 1 1 22022",
   "1 1 1 1 22120 1 1 1 1 22592 1 1 1 1 22696 1 1 1 1 23652 1 1 1 1 23662 1 1 1 1 24724 1 1 1 1 24936 1 1 1",
   "1 24974 1 1 1 1 25074 1 1 1 1 25935 1 1 1 1 26082 1 1 1 1 26257 1 1 1 1 26757 1 1 1 1 28023 1 1 1 1",
   "28186 1 1 1 1 28450 1 1 1 1 29038 1 1 1 1 29227 1 1 1 1 29730 1 1 1 1 30865 1 1 1 1 31038 1 1 1 1 31049",
   "1 1 1 1 31048 1 1 1 1 31056 1 1 1 1 31062 1 1 1 1 31069 1 1 2 1 31117 1 2 1 1 31296 1 1 1 1 31361 1 1 1",
   "1 31680 1 1 1 1 32244 1 1 1 1 32265 1 1 1 1 32321 1 1 1 1 32626 1 1 1 1 32773 1 1 1 1 33261 1 1 2 1",
   "33401 0 2 1 1 33879 1 1 1 1 35088 1 1 1 1 35222 1 1 1 1 35585 1 1 1 1 35641 1 1 1 1 36051 1 1 1 1 36104",
   "1 1 1 1 36790 1 1 1 1 36920 1 1 1 1 38627 1 1 1 1 38911 1 1 1 1 38971 1 1 1 1 24693 1 1 1 1 148206 1 1 1",
   "1 33304 1 3 1 1 20006 1 1 1 1 20917 1 1 1 1 20840 1 1 1 1 20352 1 1 1 1 20805 1 1 1 1 20864 1 1 1 1",
   "21191 1 1 1 1 21242 1 1 1 1 21917 1 1 1 1 21845 1 1 1 1 21913 1 1 1 1 21986 1 1 1 1 22618 1 1 1 1 22707",
   "1 1 1 1 22852 1 1 1 1 22868 1 1 1 1 23138 1 1 1 1 23336 1 1 1 1 24274 1 1 1 1 24281 1 1 1 1 24425 1 1 1",
   "1 24493 1 1 1 1 24792 1 1 1 1 24910 1 1 1 1 24840 1 1 1 1 24974 1 1 1 1 24928 1 1 1 1 25074 1 1 1 1",
   "25140 1 1 1 1 25540 1 1 1 1 25628 1 1 1 1 25682 1 1 1 1 25942 1 1 1 1 26228 1 1 1 1 26391 1 1 1 1 26395",
   "1 1 1 1 26454 1 1 1 1 27513 1 1 1 1 27578 1 1 1 1 27969 1 1 1 1 28379 1 1 1 1 28363 1 1 1 1 28450 1 1 1",
   "1 28702 1 1 1 1 29038 1 1 1 1 30631 1 1 1 1 29237 1 1 1 1 29359 1 1 1 1 29482 1 1 1 1 29809 1 1 1 1",
   "29958 1 1 1 1 30011 1 1 2 1 30237 2 2 1 1 30410 1 1 1 1 30427 1 1 1 1 30452 1 1 1 1 30538 1 1 1 1 30528",
   "1 1 1 1 30924 1 1 1 1 31409 1 1 1 1 31680 1 1 1 1 31867 1 1 1 1 32091 1 1 1 1 32244 1 1 1 1 32574 1 1 1",
   "1 32773 1 1 1 1 33618 1 1 1 1 33775 1 1 1 1 34681 1 1 1 1 35137 1 1 1 1 35206 1 1 1 1 35222 1 1 1 1",
   "35519 1 1 1 1 35576 1 1 1 1 35531 1 1 1 1 35585 1 1 1 1 35582 1 1 1 1 35565 1 1 1 1 35641 1 1 1 1 35722",
   "1 1 1 1 36104 1 1 1 1 36664 1 1 1 1 36978 1 1 1 1 37273 1 1 1 1 37494 1 1 1 1 38524 1 1 1 1 38627 1 1 1",
   "1 38742 1 1 1 1 38875 1 1 1 1 38911 1 1 1 1 38923 1 1 1 1 38971 1 1 1 1 39698 1 1 1 1 40860 1 1 1 1",
   "141386 1 1 1 1 141380 1 1 1 1 144341 1 1 1 1 15261 1 1 1 1 16408 1 1 1 1 16441 1 1 1 1 152137 1 1 1 1",
   "154832 1 1 1 1 163539 1 1 1 1 40771 1 1 1 1 40846 1 71 1 1 1506 1 1 1 1 1488 1 1 2 1 1491 1 2 3 1 1499 1",
   "3 2 1 1512 2 2 1 1 43 1 39 2 1 1649 0 2 4 1 1659 0 4 4 1 1662 0 4 4 1 1664 0 4 4 1 1658 0 4 4 1 1663 0 4",
   "4 1 1657 0 4 4 1 1700 0 4 4 1 1702 0 4 4 1 1668 0 4 4 1 1667 0 4 4 1 1670 0 4 4 1 1671 0 4 2 1 1677 0 2",
   "2 1 1676 0 2 2 1 1678 0 2 2 1 1672 0 2 2 1 1688 0 2 2 1 1681 0 2 4 1 1705 0 4 4 1 1711 0 4 4 1 1715 0 4",
   "4 1 1713 0 4 2 1 1722 0 2 4 1 1723 0 4 2 1 1728 0 2 4 1 1729 0 4 4 1 1726 0 4 2 1 1746 0 2 2 1 1747 0 35",
   "4 1 1709 0 4 2 1 1735 0 2 2 1 1734 0 2 2 1 1736 0 3 2 1 1739 0 2 2 1 1733 0 2 2 1 1737 0 2 4 1 1744 0 4",
   "2 1 1609 0 20 4 1 1740 0 532 1 1 44 1 1 1 1 12289 1 2 2 1 58 1 2 1 1 33 1 1 1 1 63 1 1 2 1 12310 1 26 1",
   "1 8212 1 1 1 1 8211 1 1 2 1 95 0 2 2 1 40 1 2 2 1 123 2 2 2 1 12308 1 2 2 1 12304 1 2 2 1 12298 1 2 2 1",
   "12296 1 2 4 1 12300 1 6 2 1 91 2 6 3 1 95 0 3 1 1 44 1 1 1 1 12289 1 3 1 1 59 1 1 1 1 58 1 1 1 1 63 1 1",
   "1 1 33 1 1 1 1 8212 1 1 2 1 40 1 2 2 1 123 2 2 2 1 12308 1 2 1 1 35 1 1 1 1 38 1 1 2 1 42 1 2 1 1 45 1 1",
   "2 1 60 2 2 1 1 61 1 2 1 1 92 1 1 2 1 36 1 2 1 1 64 1 21 2 1 1569 1 2 2 1 1570 1 2 2 1 1571 1 2 2 1 1572",
   "1 2 2 1 1573 1 2 3 1 1574 0 3 2 1 1575 0 2 4 1 1576 0 4 2 1 1577 0 2 4 1 1578 0 4 4 1 1579 0 4 4 1 1580",
   "0 4 4 1 1581 0 4 4 1 1582 0 4 2 1 1583 0 2 2 1 1584 0 2 2 1 1585 0 2 2 1 1586 0 2 4 1 1587 0 4 4 1 1588",
   "0 4 4 1 1589 0 4 4 1 1590 0 4 4 1 1591 0 4 4 1 1592 0 4 4 1 1593 0 4 4 1 1594 0 4 4 1 1601 0 4 4 1 1602",
   "0 4 4 1 1603 0 4 4 1 1604 0 4 4 1 1605 0 4 4 1 1606 0 4 4 1 1607 0 4 2 1 1608 0 2 2 1 1609 0 2 4 1 1610",
   "0 16 32 1 33 1 32 26 1 97 1 26 36 1 91 1 36 2 1 10629 1 2 1 1 46 1 1 2 1 12300 1 2 1 1 12289 1 1 1 1",
   "12539 1 1 1 1 12530 1 1 5 1 12449 2 5 3 1 12515 2 3 1 1 12483 1 1 1 1 12540 1 1 5 1 12450 2 5 12 1 12459",
   "2 12 4 1 12484 2 4 5 1 12491 1 5 1 1 12498 1 1 1 1 12501 1 1 1 1 12504 1 1 1 1 12507 1 1 5 1 12510 1 5 3",
   "1 12516 2 3 5 1 12521 1 5 1 1 12527 1 1 1 1 12531 1 1 2 1 12441 1 3 2 1 4352 1 2 1 1 4522 1 1 1 1 4354 1",
   "1 2 1 4524 1 2 3 1 4355 1 3 6 1 4528 1 6 1 1 4378 1 1 3 1 4358 1 3 1 1 4385 1 1 10 1 4361 1 13 6 1 4449",
   "1 8 6 1 4455 1 8 6 1 4461 1 8 3 1 4467 1 6 2 1 162 1 2 1 1 172 1 2 1 1 166 1 1 1 1 165 1 1 1 1 8361 1 2",
   "1 1 9474 1 1 4 1 8592 1 4 1 1 9632 1 1 1 1 9675 1 1042 40 1 66600 1 176 36 1 66776 1 192 11 1 66967 1 12",
   "15 1 66979 1 16 7 1 66995 1 8 2 1 67003 1 493 2 1 720 1 2 1 1 230 1 1 1 1 665 1 1 1 1 595 1 2 1 1 675 1",
   "1 1 1 43878 1 1 1 1 677 1 1 1 1 676 1 1 2 1 598 1 2 1 1 7569 1 1 1 1 600 1 1 1 1 606 1 1 1 1 681 1 1 1 1",
   "612 1 1 1 1 610 1 1 1 1 608 1 1 1 1 667 1 1 1 1 295 1 1 1 1 668 1 1 1 1 615 1 1 1 1 644 1 1 2 1 682 1 2",
   "1 1 620 1 1 1 1 122628 1 1 1 1 42894 1 1 1 1 622 1 1 1 1 122629 1 1 1 1 654 1 1 1 1 122630 1 1 1 1 248 1",
   "1 2 1 630 1 2 1 1 113 1 1 1 1 634 1 1 1 1 122632 1 1 2 1 637 1 2 1 1 640 1 1 1 1 680 1 1 1 1 678 1 1 1 1",
   "43879 1 1 1 1 679 1 1 1 1 648 1 1 1 1 11377 1 2 1 1 655 1 1 2 1 673 1 2 1 1 664 1 1 3 1 448 1 3 1 1",
   "122634 1 1 1 1 122654 1 1222 51 1 68800 1 208 22 1 68976 1 2896 32 1 71872 1 21920 32 1 93792 1 96 25 1",
   "93883 1 24118 26 1 97 1 26 10 1 48 1 1808 26 1 97 1 26 26 1 97 1 26 26 1 97 1 26 7 1 97 1 8 18 1 105 1",
   "18 26 1 97 1 26 26 1 97 1 26 2 2 97 2 3 1 1 100 1 3 1 1 103 1 3 2 1 106 1 4 4 1 110 1 5 8 1 115 1 8 4 1",
   "97 1 5 2 2 102 2 3 6 1 105 1 7 11 1 112 1 11 26 1 97 1 26 26 1 97 1 26 2 1 97 1 3 4 1 100 1 6 8 1 106 1",
   "9 7 1 115 1 8 26 1 97 1 26 2 1 97 1 3 4 1 100 1 5 5 1 105 1 6 1 1 111 1 4 7 1 115 1 8 26 1 97 1 26 26 1",
   "97 1 26 26 1 97 1 26 26 1 97 1 26 26 1 97 1 26 26 1 97 1 26 26 1 97 1 26 26 1 97 1 26 26 1 97 1 26 26 1",
   "97 1 26 26 1 97 1 26 26 1 97 1 26 26 1 97 1 26 1 1 305 1 1 1 1 567 1 3 17 1 945 1 17 1 1 952 1 1 7 1 963",
   "1 7 1 1 8711 1 1 17 1 945 1 17 2 1 963 0 2 6 1 964 1 6 1 1 8706 1 1 1 1 949 1 1 2 1 952 2 2 1 1 966 1 1",
   "1 1 961 1 1 1 1 960 1 1 17 1 945 1 17 1 1 952 1 1 7 1 963 1 7 1 1 8711 1 1 17 1 945 1 17 2 1 963 0 2 6 1",
   "964 1 6 1 1 8706 1 1 1 1 949 1 1 2 1 952 2 2 1 1 966 1 1 1 1 961 1 1 1 1 960 1 1 17 1 945 1 17 1 1 952 1",
   "1 7 1 963 1 7 1 1 8711 1 1 17 1 945 1 17 2 1 963 0 2 6 1 964 1 6 1 1 8706 1 1 1 1 949 1 1 2 1 952 2 2 1",
   "1 966 1 1 1 1 961 1 1 1 1 960 1 1 17 1 945 1 17 1 1 952 1 1 7 1 963 1 7 1 1 8711 1 1 17 1 945 1 17 2 1",
   "963 0 2 6 1 964 1 6 1 1 8706 1 1 1 1 949 1 1 2 1 952 2 2 1 1 966 1 1 1 1 961 1 1 1 1 960 1 1 17 1 945 1",
   "17 1 1 952 1 1 7 1 963 1 7 1 1 8711 1 1 17 1 945 1 17 2 1 963 0 2 6 1 964 1 6 1 1 8706 1 1 1 1 949 1 1 2",
   "1 952 2 2 1 1 966 1 1 1 1 961 1 1 1 1 960 1 1 2 1 989 0 4 10 1 48 1 10 10 1 48 1 10 10 1 48 1 10 10 1 48",
   "1 10 10 1 48 1 2106 9 1 1072 1 9 3 1 1082 1 3 11 1 1086 1 11 2 1 1099 2 2 1 1 1102 1 1 1 1 42633 1 1 1 1",
   "1241 1 1 2 1 1110 2 2 1 1 1257 1 1 1 1 1199 1 1 1 1 1231 1 1 9 1 1072 1 9 2 1 1082 1 2 2 1 1086 1 2 2 1",
   "1089 2 2 5 1 1092 1 5 2 1 1098 1 2 1 1 1169 1 1 1 1 1110 1 1 1 1 1109 1 1 1 1 1119 1 1 1 1 1195 1 1 1 1",
   "42577 1 1 1 1 1201 1 2195 34 1 125218 1 1280 2 1 1575 1 2 1 1 1580 1 1 1 1 1583 1 2 1 1 1608 1 1 1 1",
   "1586 1 1 1 1 1581 1 1 1 1 1591 1 1 1 1 1610 1 1 4 1 1603 1 4 1 1 1587 1 1 1 1 1593 1 1 1 1 1601 1 1 1 1",
   "1589 1 1 1 1 1602 1 1 1 1 1585 1 1 1 1 1588 1 1 2 1 1578 1 2 2 1 1582 2 2 3 1 1590 2 3 1 1 1646 1 1 1 1",
   "1722 1 1 1 1 1697 1 1 1 1 1647 1 2 1 1 1576 1 1 1 1 1580 1 2 1 1 1607 1 3 1 1 1581 1 2 1 1 1610 1 1 4 1",
   "1603 1 4 1 1 1587 1 1 1 1 1593 1 1 1 1 1601 1 1 1 1 1589 1 1 1 1 1602 1 2 1 1 1588 1 1 2 1 1578 1 2 1 1",
   "1582 1 2 1 1 1590 1 2 1 1 1594 1 7 1 1 1580 1 5 1 1 1581 1 2 1 1 1610 1 2 2 2 1604 2 3 1 1 1587 1 1 1 1",
   "1593 1 2 1 1 1589 1 1 1 1 1602 1 2 1 1 1588 1 3 1 1 1582 1 2 1 1 1590 1 2 1 1 1594 1 2 1 1 1722 1 2 1 1",
   "1647 1 2 1 1 1576 1 1 1 1 1580 1 2 1 1 1607 1 3 1 1 1581 1 1 1 1 1591 1 1 1 1 1610 1 1 2 2 1603 2 3 1 1",
   "1606 1 1 1 1 1587 1 1 1 1 1593 1 1 1 1 1601 1 1 1 1 1589 1 1 1 1 1602 1 2 1 1 1588 1 1 2 1 1578 1 2 1 1",
   "1582 1 2 3 1 1590 2 3 1 1 1646 1 2 1 1 1697 1 2 2 1 1575 1 2 1 1 1580 1 1 1 1 1583 1 1 2 1 1607 1 2 1 1",
   "1586 1 1 1 1 1581 1 1 1 1 1591 1 1 1 1 1610 1 2 3 1 1604 1 3 1 1 1587 1 1 1 1 1593 1 1 1 1 1601 1 1 1 1",
   "1589 1 1 1 1 1602 1 1 1 1 1585 1 1 1 1 1588 1 1 2 1 1578 1 2 2 1 1582 2 2 3 1 1590 2 8 1 1 1576 1 1 1 1",
   "1580 1 1 1 1 1583 1 2 1 1 1608 1 1 1 1 1586 1 1 1 1 1581 1 1 1 1 1591 1 1 1 1 1610 1 2 3 1 1604 1 3 1 1",
   "1587 1 1 1 1 1593 1 1 1 1 1601 1 1 1 1 1589 1 1 1 1 1602 1 1 1 1 1585 1 1 1 1 1588 1 1 2 1 1578 1 2 2 1",
   "1582 2 2 3 1 1590 2 626 1 1 99 1 1 1 1 114 1 4 26 1 97 1 210 1 1 12469 1 14 1 1 25163 1 1 1 1 23383 1 1",
   "1 1 21452 1 1 1 1 12487 1 1 1 1 20108 1 1 1 1 22810 1 1 1 1 35299 1 1 1 1 22825 1 1 1 1 20132 1 1 1 1",
   "26144 1 1 1 1 28961 1 1 1 1 26009 1 1 1 1 21069 1 1 1 1 24460 1 1 1 1 20877 1 1 1 1 26032 1 1 1 1 21021",
   "1 1 1 1 32066 1 1 1 1 29983 1 1 1 1 36009 1 1 1 1 22768 1 1 1 1 21561 1 1 1 1 28436 1 1 1 1 25237 1 1 1",
   "1 25429 1 1 1 1 19968 1 1 1 1 19977 1 1 1 1 36938 1 1 1 1 24038 1 1 1 1 20013 1 1 1 1 21491 1 1 1 1",
   "25351 1 1 1 1 36208 1 1 1 1 25171 1 1 1 1 31105 1 1 1 1 31354 1 1 1 1 21512 1 1 1 1 28288 1 1 1 1 26377",
   "1 1 1 1 26376 1 1 1 1 30003 1 1 1 1 21106 1 1 1 1 21942 1 1 1 1 37197 1 21 1 1 24471 1 1 1 1 21487 1",
   "2463 10 1 48 1 64528 1 1 20029 1 1 1 1 20024 1 1 1 1 20033 1 1 1 1 131362 1 1 1 1 20320 1 1 1 1 20398 1",
   "1 1 1 20411 1 1 1 1 20482 1 1 1 1 20602 1 1 1 1 20633 1 1 1 1 20711 1 1 1 1 20687 1 1 1 1 13470 1 1 1 1",
   "132666 1 1 1 1 20813 1 1 1 1 20820 1 1 1 1 20836 1 1 1 1 20855 1 1 1 1 132380 1 1 1 1 13497 1 1 1 1",
   "20839 1 1 1 1 20877 1 1 1 1 132427 1 1 1 1 20887 1 1 1 1 20900 1 1 1 1 20172 1 1 1 1 20908 1 1 1 1 20917",
   "1 1 1 1 168415 1 1 1 1 20981 1 1 1 1 20995 1 1 1 1 13535 1 1 1 1 21051 1 1 1 1 21062 1 1 1 1 21106 1 1 1",
   "1 21111 1 1 1 1 13589 1 1 2 1 21191 2 2 1 1 21220 1 1 1 1 21242 1 1 2 1 21253 1 2 1 1 21271 1 1 1 1",
   "21321 1 1 1 1 21329 1 1 1 1 21338 1 1 1 1 21363 1 1 2 1 21373 2 2 2 1 21375 0 2 1 1 133676 1 1 1 1 28784",
   "1 1 1 1 21450 1 1 1 1 21471 1 1 1 1 133987 1 1 1 1 21483 1 1 1 1 21489 1 1 1 1 21510 1 1 1 1 21662 1 1 1",
   "1 21560 1 1 1 1 21576 1 1 1 1 21608 1 1 1 1 21666 1 1 1 1 21750 1 1 1 1 21776 1 1 1 1 21843 1 1 1 1",
   "21859 1 1 2 1 21892 0 2 1 1 21913 1 1 1 1 21931 1 1 1 1 21939 1 1 1 1 21954 1 1 1 1 22294 1 1 1 1 22022",
   "1 1 1 1 22295 1 1 1 1 22097 1 1 1 1 22132 1 1 1 1 20999 1 1 1 1 22766 1 1 1 1 22478 1 1 1 1 22516 1 1 1",
   "1 22541 1 1 1 1 22411 1 1 1 1 22578 1 1 1 1 22577 1 1 1 1 22700 1 1 1 1 136420 1 1 1 1 22770 1 1 1 1",
   "22775 1 1 1 1 22790 1 1 1 1 22810 1 1 1 1 22818 1 1 1 1 22882 1 1 1 1 136872 1 1 1 1 136938 1 1 1 1",
   "23020 1 1 1 1 23067 1 1 1 1 23079 1 1 1 1 23000 1 1 1 1 23142 1 1 1 1 14062 1 1 1 1 14076 1 1 1 1 23304",
   "1 1 2 1 23358 0 2 1 1 137672 1 1 1 1 23491 1 1 1 1 23512 1 1 1 1 23527 1 1 1 1 23539 1 1 1 1 138008 1 1",
   "1 1 23551 1 1 1 1 23558 1 1 1 1 24403 1 1 1 1 23586 1 1 1 1 14209 1 1 1 1 23648 1 1 1 1 23662 1 1 1 1",
   "23744 1 1 1 1 23693 1 1 1 1 138724 1 1 1 1 23875 1 1 1 1 138726 1 1 1 1 23918 1 1 1 1 23915 1 1 1 1",
   "23932 1 1 2 1 24033 1 2 1 1 14383 1 1 1 1 24061 1 1 1 1 24104 1 1 1 1 24125 1 1 1 1 24169 1 1 1 1 14434",
   "1 1 1 1 139651 1 1 1 1 14460 1 1 1 1 24240 1 1 1 1 24243 1 1 1 1 24246 1 1 1 1 24266 1 1 1 1 172946 1 1",
   "1 1 24318 1 1 2 1 140081 0 2 1 1 33281 1 1 2 1 24354 0 2 1 1 14535 1 1 1 1 144056 1 1 1 1 156122 1 1 1 1",
   "24418 1 1 1 1 24427 1 1 1 1 14563 1 1 1 1 24474 1 1 1 1 24525 1 1 1 1 24535 1 1 1 1 24569 1 1 1 1 24705",
   "1 1 1 1 14650 1 1 1 1 14620 1 1 1 1 24724 1 1 1 1 141012 1 1 1 1 24775 1 1 1 1 24904 1 1 2 1 24908 2 2 1",
   "1 24908 1 1 1 1 24954 1 1 1 1 24974 1 1 1 1 25010 1 1 1 1 24996 1 1 1 1 25007 1 1 1 1 25054 1 1 1 1",
   "25074 1 1 1 1 25078 1 1 1 1 25104 1 1 1 1 25115 1 1 1 1 25181 1 1 1 1 25265 1 1 1 1 25300 1 1 1 1 25424",
   "1 1 1 1 142092 1 1 1 1 25405 1 1 1 1 25340 1 1 1 1 25448 1 1 1 1 25475 1 1 1 1 25572 1 1 1 1 142321 1 1",
   "1 1 25634 1 1 1 1 25541 1 1 1 1 25513 1 1 1 1 14894 1 1 1 1 25705 1 1 1 1 25726 1 1 1 1 25757 1 1 1 1",
   "25719 1 1 1 1 14956 1 1 1 1 25935 1 1 1 1 25964 1 1 1 1 143370 1 1 1 1 26083 1 1 1 1 26360 1 1 1 1 26185",
   "1 1 1 1 15129 1 1 1 1 26257 1 1 1 1 15112 1 1 1 1 15076 1 1 1 1 20882 1 1 1 1 20885 1 1 1 1 26368 1 1 1",
   "1 26268 1 1 1 1 32941 1 1 1 1 17369 1 1 1 1 26391 1 1 1 1 26395 1 1 1 1 26401 1 1 1 1 26462 1 1 1 1",
   "26451 1 1 1 1 144323 1 1 1 1 15177 1 1 1 1 26618 1 1 1 1 26501 1 1 1 1 26706 1 1 1 1 26757 1 1 1 1",
   "144493 1 1 1 1 26766 1 1 1 1 26655 1 1 1 1 26900 1 1 1 1 15261 1 1 1 1 26946 1 1 1 1 27043 1 1 1 1 27114",
   "1 1 1 1 27304 1 1 1 1 145059 1 1 1 1 27355 1 1 1 1 15384 1 1 1 1 27425 1 1 1 1 145575 1 1 1 1 27476 1 1",
   "1 1 15438 1 1 1 1 27506 1 1 1 1 27551 1 1 2 1 27578 1 2 1 1 146061 1 1 1 1 138507 1 1 1 1 146170 1 1 1 1",
   "27726 1 1 1 1 146620 1 1 1 1 27839 1 1 1 1 27853 1 1 1 1 27751 1 1 1 1 27926 1 1 1 1 27966 1 1 1 1 28023",
   "1 1 1 1 27969 1 1 1 1 28009 1 1 1 1 28024 1 1 1 1 28037 1 1 1 1 146718 1 1 1 1 27956 1 1 1 1 28207 1 1 1",
   "1 28270 1 1 1 1 15667 1 1 1 1 28363 1 1 1 1 28359 1 1 1 1 147153 1 1 1 1 28153 1 1 1 1 28526 1 1 1 1",
   "147294 1 1 1 1 147342 1 1 1 1 28614 1 1 1 1 28729 1 1 1 1 28702 1 1 1 1 28699 1 1 1 1 15766 1 1 1 1",
   "28746 1 1 1 1 28797 1 1 1 1 28791 1 1 1 1 28845 1 1 1 1 132389 1 1 1 1 28997 1 1 1 1 148067 1 1 1 1",
   "29084 1 1 1 1 148395 1 1 1 1 29224 1 1 1 1 29237 1 1 1 1 29264 1 1 1 1 149000 1 1 1 1 29312 1 1 1 1",
   "29333 1 1 1 1 149301 1 1 1 1 149524 1 1 1 1 29562 1 1 1 1 29579 1 1 1 1 16044 1 1 1 1 29605 1 1 2 1",
   "16056 0 2 1 1 29767 1 1 1 1 29788 1 1 1 1 29809 1 1 1 1 29829 1 1 1 1 29898 1 1 1 1 16155 1 1 1 1 29988",
   "1 1 1 1 150582 1 1 1 1 30014 1 1 1 1 150674 1 1 1 1 30064 1 1 1 1 139679 1 1 1 1 30224 1 1 1 1 151457 1",
   "1 1 1 151480 1 1 1 1 151620 1 1 1 1 16380 1 1 1 1 16392 1 1 1 1 30452 1 1 1 1 151795 1 1 1 1 151794 1 1",
   "1 1 151833 1 1 1 1 151859 1 1 2 1 30494 1 2 1 1 30495 1 1 1 1 30538 1 1 1 1 16441 1 1 1 1 30603 1 1 1 1",
   "16454 1 1 1 1 16534 1 1 1 1 152605 1 1 1 1 30798 1 1 1 1 30860 1 1 1 1 30924 1 1 1 1 16611 1 1 1 1",
   "153126 1 1 1 1 31062 1 1 1 1 153242 1 1 1 1 153285 1 1 1 1 31119 1 1 1 1 31211 1 1 1 1 16687 1 1 1 1",
   "31296 1 1 1 1 31306 1 1 1 1 31311 1 1 1 1 153980 1 1 2 1 154279 0 2 1 1 31470 1 1 1 1 16898 1 1 1 1",
   "154539 1 1 1 1 31686 1 1 1 1 31689 1 1 1 1 16935 1 1 1 1 154752 1 1 1 1 31954 1 1 1 1 17056 1 1 1 1",
   "31976 1 1 1 1 31971 1 1 1 1 32000 1 1 1 1 155526 1 1 1 1 32099 1 1 1 1 17153 1 1 1 1 32199 1 1 1 1 32258",
   "1 1 1 1 32325 1 1 1 1 17204 1 1 1 1 156200 1 1 1 1 156231 1 1 1 1 17241 1 1 1 1 156377 1 1 1 1 32634 1 1",
   "1 1 156478 1 1 1 1 32661 1 1 1 1 32762 1 1 1 1 32773 1 1 1 1 156890 1 1 1 1 156963 1 1 1 1 32864 1 1 1 1",
   "157096 1 1 1 1 32880 1 1 1 1 144223 1 1 1 1 17365 1 1 1 1 32946 1 1 1 1 33027 1 1 1 1 17419 1 1 1 1",
   "33086 1 1 1 1 23221 1 1 1 1 157607 1 1 1 1 157621 1 1 1 1 144275 1 1 1 1 144284 1 1 1 1 33281 1 1 1 1",
   "33284 1 1 1 1 36766 1 1 1 1 17515 1 1 1 1 33425 1 1 1 1 33419 1 1 1 1 33437 1 1 1 1 21171 1 1 2 1 33457",
   "2 2 1 1 33469 1 1 1 1 33510 1 1 1 1 158524 1 1 1 1 33509 1 1 1 1 33565 1 1 1 1 33635 1 1 1 1 33709 1 1 1",
   "1 33571 1 1 1 1 33725 1 1 1 1 33767 1 1 1 1 33879 1 1 1 1 33619 1 1 2 1 33738 2 2 1 1 33756 1 1 1 1",
   "158774 1 1 1 1 159083 1 1 1 1 158933 1 1 1 1 17707 1 1 2 1 34033 2 2 1 1 34070 1 1 1 1 160714 1 1 1 1",
   "34148 1 1 1 1 159532 1 1 1 1 17757 1 1 1 1 17761 1 1 1 1 159665 1 1 1 1 159954 1 1 1 1 17771 1 1 1 1",
   "34384 1 1 1 1 34396 1 1 2 1 34407 2 2 1 1 34473 1 1 1 1 34440 1 1 1 1 34574 1 1 1 1 34530 1 1 1 1 34681",
   "1 1 1 1 34600 1 1 1 1 34667 1 1 1 1 34694 1 1 1 1 17879 1 1 1 1 34785 1 1 1 1 34817 1 1 1 1 17913 1 1 1",
   "1 34912 1 1 1 1 34915 1 1 1 1 161383 1 1 1 1 35031 1 1 1 1 35038 1 1 1 1 17973 1 1 1 1 35066 1 1 1 1",
   "13499 1 1 1 1 161966 1 1 1 1 162150 1 1 1 1 18110 1 1 1 1 18119 1 1 1 1 35488 1 1 1 1 35565 1 1 1 1",
   "35722 1 1 1 1 35925 1 1 1 1 162984 1 1 1 1 36011 1 1 1 1 36033 1 1 1 1 36123 1 1 1 1 36215 1 1 1 1",
   "163631 1 1 1 1 133124 1 1 1 1 36299 1 1 1 1 36284 1 1 1 1 36336 1 1 1 1 133342 1 1 1 1 36564 1 1 1 1",
   "36664 1 1 1 1 165330 1 1 1 1 165357 1 1 1 1 37012 1 1 1 1 37105 1 1 1 1 37137 1 1 1 1 165678 1 1 1 1",
   "37147 1 1 1 1 37432 1 1 2 1 37591 1 2 1 1 37500 1 1 1 1 37881 1 1 1 1 37909 1 1 1 1 166906 1 1 1 1 38283",
   "1 1 1 1 18837 1 1 1 1 38327 1 1 1 1 167287 1 1 1 1 18918 1 1 1 1 38595 1 1 1 1 23986 1 1 1 1 38691 1 1 1",
   "1 168261 1 1 1 1 168474 1 1 1 1 19054 1 1 1 1 19062 1 1 1 1 38880 1 1 1 1 168970 1 1 1 1 19122 1 1 1 1",
   "169110 1 1 2 1 38923 0 2 1 1 38953 1 1 1 1 169398 1 1 1 1 39138 1 1 1 1 19251 1 1 1 1 39209 1 1 1 1",
   "39335 1 1 1 1 39362 1 1 1 1 39422 1 1 1 1 19406 1 1 1 1 170800 1 1 1 1 39698 1 1 1 1 40000 1 1 1 1 40189",
   "1 1 1 1 19662 1 1 1 1 19693 1 1 1 1 40295 1 1 1 1 172238 1 1 1 1 19704 1 1 1 1 172293 1 1 1 1 172558 1 1",
   "1 1 172689 1 1 1 1 40635 1 1 1 1 19798 1 1 1 1 40697 1 1 1 1 40702 1 1 1 1 40709 1 1 1 1 40719 1 1 1 1",
   "40726 1 1 1 1 40763 1 1 1 1 173568 1"]

/-- Characters that are replaced by several others: the distance from the one before, how many there are, and
these. -/
def expansionRows : List String :=
  ["168 2 32 776 7 2 32 772 5 2 32 769 4 2 32 807 4 3 49 8260 52 1 3 49 8260 50 1 3 51 8260 52 114 2 105 775",
   "2 2 105 106 1 2 105 106 12 2 108 183 1 2 108 183 9 2 700 110 123 2 100 382 1 2 100 382 1 2 100 382 1 2",
   "108 106 1 2 108 106 1 2 108 106 1 2 110 106 1 2 110 106 1 2 110 106 37 2 100 122 1 2 100 122 1 2 100 122",
   "229 2 32 774 1 2 32 775 1 2 32 778 1 2 32 808 1 2 32 771 1 2 32 779 103 2 776 769 54 2 32 953 10 2 32",
   "769 1 3 32 776 769 514 2 1381 1410 238 2 1575 1652 1 2 1608 1652 1 2 1735 1652 1 2 1610 1652 736 2 2325",
   "2364 1 2 2326 2364 1 2 2327 2364 1 2 2332 2364 1 2 2337 2364 1 2 2338 2364 1 2 2347 2364 1 2 2351 2364",
   "125 2 2465 2492 1 2 2466 2492 2 2 2479 2492 84 2 2610 2620 3 2 2616 2620 35 2 2582 2620 1 2 2583 2620 1",
   "2 2588 2620 3 2 2603 2620 254 2 2849 2876 1 2 2850 2876 726 2 3661 3634 128 2 3789 3762 41 2 3755 3737 1",
   "2 3755 3745 102 2 3906 4023 10 2 3916 4023 5 2 3921 4023 5 2 3926 4023 5 2 3931 4023 13 2 3904 4021 10 2",
   "3953 3954 2 2 3953 3956 1 2 4018 3968 1 3 4018 3953 3968 1 2 4019 3968 1 3 4019 3953 3968 8 2 3953 3968",
   "18 2 3986 4023 10 2 3996 4023 5 2 4001 4023 5 2 4006 4023 5 2 4011 4023 13 2 3984 4021 3809 2 97 702 230",
   "2 7936 953 1 2 7937 953 1 2 7938 953 1 2 7939 953 1 2 7940 953 1 2 7941 953 1 2 7942 953 1 2 7943 953 1",
   "2 7936 953 1 2 7937 953 1 2 7938 953 1 2 7939 953 1 2 7940 953 1 2 7941 953 1 2 7942 953 1 2 7943 953 1",
   "2 7968 953 1 2 7969 953 1 2 7970 953 1 2 7971 953 1 2 7972 953 1 2 7973 953 1 2 7974 953 1 2 7975 953 1",
   "2 7968 953 1 2 7969 953 1 2 7970 953 1 2 7971 953 1 2 7972 953 1 2 7973 953 1 2 7974 953 1 2 7975 953 1",
   "2 8032 953 1 2 8033 953 1 2 8034 953 1 2 8035 953 1 2 8036 953 1 2 8037 953 1 2 8038 953 1 2 8039 953 1",
   "2 8032 953 1 2 8033 953 1 2 8034 953 1 2 8035 953 1 2 8036 953 1 2 8037 953 1 2 8038 953 1 2 8039 953 3",
   "2 8048 953 1 2 945 953 1 2 940 953 3 2 8118 953 5 2 945 953 1 2 32 787 2 2 32 787 1 2 32 834 1 3 32 776",
   "834 1 2 8052 953 1 2 951 953 1 2 942 953 3 2 8134 953 5 2 951 953 1 3 32 787 768 1 3 32 787 769 1 3 32",
   "787 834 14 3 32 788 768 1 3 32 788 769 1 3 32 788 834 14 3 32 776 768 1 3 32 776 769 4 2 8060 953 1 2",
   "969 953 1 2 974 953 3 2 8182 953 5 2 969 953 1 2 32 769 1 2 32 788 25 2 32 819 28 2 8242 8242 1 3 8242",
   "8242 8242 2 2 8245 8245 1 3 8245 8245 8245 5 2 33 33 2 2 32 773 9 2 63 63 1 2 63 33 1 2 33 63 14 4 8242",
   "8242 8242 8242 81 2 114 115 88 3 97 47 99 1 3 97 47 115 2 2 176 99 2 3 99 47 111 1 3 99 47 117 3 2 176",
   "102 13 2 110 111 10 2 115 109 1 3 116 101 108 1 2 116 109 25 3 102 97 120 21 3 49 8260 55 1 3 49 8260 57",
   "1 4 49 8260 49 48 1 3 49 8260 51 1 3 50 8260 51 1 3 49 8260 53 1 3 50 8260 53 1 3 51 8260 53 1 3 52 8260",
   "53 1 3 49 8260 54 1 3 53 8260 54 1 3 49 8260 56 1 3 51 8260 56 1 3 53 8260 56 1 3 55 8260 56 1 2 49 8260",
   "2 2 105 105 1 3 105 105 105 1 2 105 118 2 2 118 105 1 3 118 105 105 1 4 118 105 105 105 1 2 105 120 2 2",
   "120 105 1 3 120 105 105 6 2 105 105 1 3 105 105 105 1 2 105 118 2 2 118 105 1 3 118 105 105 1 4 118 105",
   "105 105 1 2 105 120 2 2 120 105 1 3 120 105 105 14 3 48 8260 51 163 2 8747 8747 1 3 8747 8747 8747 2 2",
   "8750 8750 1 3 8750 8750 8750 569 2 49 48 1 2 49 49 1 2 49 50 1 2 49 51 1 2 49 52 1 2 49 53 1 2 49 54 1 2",
   "49 55 1 2 49 56 1 2 49 57 1 2 50 48 1 3 40 49 41 1 3 40 50 41 1 3 40 51 41 1 3 40 52 41 1 3 40 53 41 1 3",
   "40 54 41 1 3 40 55 41 1 3 40 56 41 1 3 40 57 41 1 4 40 49 48 41 1 4 40 49 49 41 1 4 40 49 50 41 1 4 40",
   "49 51 41 1 4 40 49 52 41 1 4 40 49 53 41 1 4 40 49 54 41 1 4 40 49 55 41 1 4 40 49 56 41 1 4 40 49 57 41",
   "1 4 40 50 48 41 21 3 40 97 41 1 3 40 98 41 1 3 40 99 41 1 3 40 100 41 1 3 40 101 41 1 3 40 102 41 1 3 40",
   "103 41 1 3 40 104 41 1 3 40 105 41 1 3 40 106 41 1 3 40 107 41 1 3 40 108 41 1 3 40 109 41 1 3 40 110 41",
   "1 3 40 111 41 1 3 40 112 41 1 3 40 113 41 1 3 40 114 41 1 3 40 115 41 1 3 40 116 41 1 3 40 117 41 1 3 40",
   "118 41 1 3 40 119 41 1 3 40 120 41 1 3 40 121 41 1 3 40 122 41 1367 4 8747 8747 8747 8747 104 3 58 58 61",
   "1 2 61 61 1 3 61 61 61 102 2 10973 824 1471 2 32 12441 1 2 32 12442 3 2 12424 12426 96 2 12467 12488 257",
   "3 40 4352 41 1 3 40 4354 41 1 3 40 4355 41 1 3 40 4357 41 1 3 40 4358 41 1 3 40 4359 41 1 3 40 4361 41 1",
   "3 40 4363 41 1 3 40 4364 41 1 3 40 4366 41 1 3 40 4367 41 1 3 40 4368 41 1 3 40 4369 41 1 3 40 4370 41 1",
   "3 40 44032 41 1 3 40 45208 41 1 3 40 45796 41 1 3 40 46972 41 1 3 40 47560 41 1 3 40 48148 41 1 3 40",
   "49324 41 1 3 40 50500 41 1 3 40 51088 41 1 3 40 52264 41 1 3 40 52852 41 1 3 40 53440 41 1 3 40 54028 41",
   "1 3 40 54616 41 1 3 40 51452 41 1 4 40 50724 51204 41 1 4 40 50724 54980 41 2 3 40 19968 41 1 3 40 20108",
   "41 1 3 40 19977 41 1 3 40 22235 41 1 3 40 20116 41 1 3 40 20845 41 1 3 40 19971 41 1 3 40 20843 41 1 3",
   "40 20061 41 1 3 40 21313 41 1 3 40 26376 41 1 3 40 28779 41 1 3 40 27700 41 1 3 40 26408 41 1 3 40 37329",
   "41 1 3 40 22303 41 1 3 40 26085 41 1 3 40 26666 41 1 3 40 26377 41 1 3 40 31038 41 1 3 40 21517 41 1 3",
   "40 29305 41 1 3 40 36001 41 1 3 40 31069 41 1 3 40 21172 41 1 3 40 20195 41 1 3 40 21628 41 1 3 40 23398",
   "41 1 3 40 30435 41 1 3 40 20225 41 1 3 40 36039 41 1 3 40 21332 41 1 3 40 31085 41 1 3 40 20241 41 1 3",
   "40 33258 41 1 3 40 33267 41 13 3 112 116 101 1 2 50 49 1 2 50 50 1 2 50 51 1 2 50 52 1 2 50 53 1 2 50 54",
   "1 2 50 55 1 2 50 56 1 2 50 57 1 2 51 48 1 2 51 49 1 2 51 50 1 2 51 51 1 2 51 52 1 2 51 53 29 2 52280",
   "44256 1 2 51452 51032 52 2 51 54 1 2 51 55 1 2 51 56 1 2 51 57 1 2 52 48 1 2 52 49 1 2 52 50 1 2 52 51 1",
   "2 52 52 1 2 52 53 1 2 52 54 1 2 52 55 1 2 52 56 1 2 52 57 1 2 53 48 1 2 49 26376 1 2 50 26376 1 2 51",
   "26376 1 2 52 26376 1 2 53 26376 1 2 54 26376 1 2 55 26376 1 2 56 26376 1 2 57 26376 1 3 49 48 26376 1 3",
   "49 49 26376 1 3 49 50 26376 1 2 104 103 1 3 101 114 103 1 2 101 118 1 3 108 116 100 48 2 20196 21644 1 4",
   "12450 12497 12540 12488 1 4 12450 12523 12501 12449 1 4 12450 12531 12506 12450 1 3 12450 12540 12523 1",
   "4 12452 12491 12531 12464 1 3 12452 12531 12481 1 3 12454 12457 12531 1 5 12456 12473 12463 12540 12489",
   "1 4 12456 12540 12459 12540 1 3 12458 12531 12473 1 3 12458 12540 12512 1 3 12459 12452 12522 1 4 12459",
   "12521 12483 12488 1 4 12459 12525 12522 12540 1 3 12460 12525 12531 1 3 12460 12531 12510 1 2 12462",
   "12460 1 3 12462 12491 12540 1 4 12461 12517 12522 12540 1 4 12462 12523 12480 12540 1 2 12461 12525 1 5",
   "12461 12525 12464 12521 12512 1 6 12461 12525 12513 12540 12488 12523 1 5 12461 12525 12527 12483 12488",
   "1 3 12464 12521 12512 1 5 12464 12521 12512 12488 12531 1 5 12463 12523 12476 12452 12525 1 4 12463",
   "12525 12540 12493 1 3 12465 12540 12473 1 3 12467 12523 12490 1 3 12467 12540 12509 1 4 12469 12452",
   "12463 12523 1 5 12469 12531 12481 12540 12512 1 4 12471 12522 12531 12464 1 3 12475 12531 12481 1 3",
   "12475 12531 12488 1 3 12480 12540 12473 1 2 12487 12471 1 2 12489 12523 1 2 12488 12531 1 2 12490 12494",
   "1 3 12494 12483 12488 1 3 12495 12452 12484 1 5 12497 12540 12475 12531 12488 1 3 12497 12540 12484 1 4",
   "12496 12540 12524 12523 1 5 12500 12450 12473 12488 12523 1 3 12500 12463 12523 1 2 12500 12467 1 2",
   "12499 12523 1 5 12501 12449 12521 12483 12489 1 4 12501 12451 12540 12488 1 5 12502 12483 12471 12455",
   "12523 1 3 12501 12521 12531 1 5 12504 12463 12479 12540 12523 1 2 12506 12477 1 3 12506 12491 12498 1 3",
   "12504 12523 12484 1 3 12506 12531 12473 1 3 12506 12540 12472 1 3 12505 12540 12479 1 4 12509 12452",
   "12531 12488 1 3 12508 12523 12488 1 2 12507 12531 1 3 12509 12531 12489 1 3 12507 12540 12523 1 3 12507",
   "12540 12531 1 4 12510 12452 12463 12525 1 3 12510 12452 12523 1 3 12510 12483 12495 1 3 12510 12523",
   "12463 1 5 12510 12531 12471 12519 12531 1 4 12511 12463 12525 12531 1 2 12511 12522 1 5 12511 12522",
   "12496 12540 12523 1 2 12513 12460 1 4 12513 12460 12488 12531 1 4 12513 12540 12488 12523 1 3 12516",
   "12540 12489 1 3 12516 12540 12523 1 3 12518 12450 12531 1 4 12522 12483 12488 12523 1 2 12522 12521 1 3",
   "12523 12500 12540 1 4 12523 12540 12502 12523 1 2 12524 12512 1 5 12524 12531 12488 12466 12531 1 3",
   "12527 12483 12488 1 2 48 28857 1 2 49 28857 1 2 50 28857 1 2 51 28857 1 2 52 28857 1 2 53 28857 1 2 54",
   "28857 1 2 55 28857 1 2 56 28857 1 2 57 28857 1 3 49 48 28857 1 3 49 49 28857 1 3 49 50 28857 1 3 49 51",
   "28857 1 3 49 52 28857 1 3 49 53 28857 1 3 49 54 28857 1 3 49 55 28857 1 3 49 56 28857 1 3 49 57 28857 1",
   "3 50 48 28857 1 3 50 49 28857 1 3 50 50 28857 1 3 50 51 28857 1 3 50 52 28857 1 3 104 112 97 1 2 100 97",
   "1 2 97 117 1 3 98 97 114 1 2 111 118 1 2 112 99 1 2 100 109 1 3 100 109 50 1 3 100 109 51 1 2 105 117 1",
   "2 24179 25104 1 2 26157 21644 1 2 22823 27491 1 2 26126 27835 1 4 26666 24335 20250 31038 1 2 112 97 1 2",
   "110 97 1 2 956 97 1 2 109 97 1 2 107 97 1 2 107 98 1 2 109 98 1 2 103 98 1 3 99 97 108 1 4 107 99 97 108",
   "1 2 112 102 1 2 110 102 1 2 956 102 1 2 956 103 1 2 109 103 1 2 107 103 1 2 104 122 1 3 107 104 122 1 3",
   "109 104 122 1 3 103 104 122 1 3 116 104 122 1 2 956 108 1 2 109 108 1 2 100 108 1 2 107 108 1 2 102 109",
   "1 2 110 109 1 2 956 109 1 2 109 109 1 2 99 109 1 2 107 109 1 3 109 109 50 1 3 99 109 50 1 2 109 50 1 3",
   "107 109 50 1 3 109 109 51 1 3 99 109 51 1 2 109 51 1 3 107 109 51 1 3 109 8725 115 1 4 109 8725 115 50 1",
   "2 112 97 1 3 107 112 97 1 3 109 112 97 1 3 103 112 97 1 3 114 97 100 1 5 114 97 100 8725 115 1 6 114 97",
   "100 8725 115 50 1 2 112 115 1 2 110 115 1 2 956 115 1 2 109 115 1 2 112 118 1 2 110 118 1 2 956 118 1 2",
   "109 118 1 2 107 118 1 2 109 118 1 2 112 119 1 2 110 119 1 2 956 119 1 2 109 119 1 2 107 119 1 2 109 119",
   "1 2 107 969 1 2 109 969 2 2 98 113 1 2 99 99 1 2 99 100 1 4 99 8725 107 103 2 2 100 98 1 2 103 121 1 2",
   "104 97 1 2 104 112 1 2 105 110 1 2 107 107 1 2 107 109 1 2 107 116 1 2 108 109 1 2 108 110 1 3 108 111",
   "103 1 2 108 120 1 2 109 98 1 3 109 105 108 1 3 109 111 108 1 2 112 104 2 3 112 112 109 1 2 112 114 1 2",
   "115 114 1 2 115 118 1 2 119 98 1 3 118 8725 109 1 3 97 8725 109 1 2 49 26085 1 2 50 26085 1 2 51 26085 1",
   "2 52 26085 1 2 53 26085 1 2 54 26085 1 2 55 26085 1 2 56 26085 1 2 57 26085 1 3 49 48 26085 1 3 49 49",
   "26085 1 3 49 50 26085 1 3 49 51 26085 1 3 49 52 26085 1 3 49 53 26085 1 3 49 54 26085 1 3 49 55 26085 1",
   "3 49 56 26085 1 3 49 57 26085 1 3 50 48 26085 1 3 50 49 26085 1 3 50 50 26085 1 3 50 51 26085 1 3 50 52",
   "26085 1 3 50 53 26085 1 3 50 54 26085 1 3 50 55 26085 1 3 50 56 26085 1 3 50 57 26085 1 3 51 48 26085 1",
   "3 51 49 26085 1 3 103 97 108 50945 2 102 102 1 2 102 105 1 2 102 108 1 3 102 102 105 1 3 102 102 108 1 2",
   "115 116 1 2 115 116 13 2 1396 1398 1 2 1396 1381 1 2 1396 1387 1 2 1406 1398 1 2 1396 1389 6 2 1497 1460",
   "2 2 1522 1463 11 2 1513 1473 1 2 1513 1474 1 3 1513 1468 1473 1 3 1513 1468 1474 1 2 1488 1463 1 2 1488",
   "1464 1 2 1488 1468 1 2 1489 1468 1 2 1490 1468 1 2 1491 1468 1 2 1492 1468 1 2 1493 1468 1 2 1494 1468 2",
   "2 1496 1468 1 2 1497 1468 1 2 1498 1468 1 2 1499 1468 1 2 1500 1468 2 2 1502 1468 2 2 1504 1468 1 2 1505",
   "1468 2 2 1507 1468 1 2 1508 1468 2 2 1510 1468 1 2 1511 1468 1 2 1512 1468 1 2 1513 1468 1 2 1514 1468 1",
   "2 1493 1465 1 2 1489 1471 1 2 1499 1471 1 2 1508 1471 1 2 1488 1500 142 2 1735 1652 13 2 1574 1575 1 2",
   "1574 1575 1 2 1574 1749 1 2 1574 1749 1 2 1574 1608 1 2 1574 1608 1 2 1574 1735 1 2 1574 1735 1 2 1574",
   "1734 1 2 1574 1734 1 2 1574 1736 1 2 1574 1736 1 2 1574 1744 1 2 1574 1744 1 2 1574 1744 1 2 1574 1609 1",
   "2 1574 1609 1 2 1574 1609 5 2 1574 1580 1 2 1574 1581 1 2 1574 1605 1 2 1574 1609 1 2 1574 1610 1 2 1576",
   "1580 1 2 1576 1581 1 2 1576 1582 1 2 1576 1605 1 2 1576 1609 1 2 1576 1610 1 2 1578 1580 1 2 1578 1581 1",
   "2 1578 1582 1 2 1578 1605 1 2 1578 1609 1 2 1578 1610 1 2 1579 1580 1 2 1579 1605 1 2 1579 1609 1 2 1579",
   "1610 1 2 1580 1581 1 2 1580 1605 1 2 1581 1580 1 2 1581 1605 1 2 1582 1580 1 2 1582 1581 1 2 1582 1605 1",
   "2 1587 1580 1 2 1587 1581 1 2 1587 1582 1 2 1587 1605 1 2 1589 1581 1 2 1589 1605 1 2 1590 1580 1 2 1590",
   "1581 1 2 1590 1582 1 2 1590 1605 1 2 1591 1581 1 2 1591 1605 1 2 1592 1605 1 2 1593 1580 1 2 1593 1605 1",
   "2 1594 1580 1 2 1594 1605 1 2 1601 1580 1 2 1601 1581 1 2 1601 1582 1 2 1601 1605 1 2 1601 1609 1 2 1601",
   "1610 1 2 1602 1581 1 2 1602 1605 1 2 1602 1609 1 2 1602 1610 1 2 1603 1575 1 2 1603 1580 1 2 1603 1581 1",
   "2 1603 1582 1 2 1603 1604 1 2 1603 1605 1 2 1603 1609 1 2 1603 1610 1 2 1604 1580 1 2 1604 1581 1 2 1604",
   "1582 1 2 1604 1605 1 2 1604 1609 1 2 1604 1610 1 2 1605 1580 1 2 1605 1581 1 2 1605 1582 1 2 1605 1605 1",
   "2 1605 1609 1 2 1605 1610 1 2 1606 1580 1 2 1606 1581 1 2 1606 1582 1 2 1606 1605 1 2 1606 1609 1 2 1606",
   "1610 1 2 1607 1580 1 2 1607 1605 1 2 1607 1609 1 2 1607 1610 1 2 1610 1580 1 2 1610 1581 1 2 1610 1582 1",
   "2 1610 1605 1 2 1610 1609 1 2 1610 1610 1 2 1584 1648 1 2 1585 1648 1 2 1609 1648 1 3 32 1612 1617 1 3",
   "32 1613 1617 1 3 32 1614 1617 1 3 32 1615 1617 1 3 32 1616 1617 1 3 32 1617 1648 1 2 1574 1585 1 2 1574",
   "1586 1 2 1574 1605 1 2 1574 1606 1 2 1574 1609 1 2 1574 1610 1 2 1576 1585 1 2 1576 1586 1 2 1576 1605 1",
   "2 1576 1606 1 2 1576 1609 1 2 1576 1610 1 2 1578 1585 1 2 1578 1586 1 2 1578 1605 1 2 1578 1606 1 2 1578",
   "1609 1 2 1578 1610 1 2 1579 1585 1 2 1579 1586 1 2 1579 1605 1 2 1579 1606 1 2 1579 1609 1 2 1579 1610 1",
   "2 1601 1609 1 2 1601 1610 1 2 1602 1609 1 2 1602 1610 1 2 1603 1575 1 2 1603 1604 1 2 1603 1605 1 2 1603",
   "1609 1 2 1603 1610 1 2 1604 1605 1 2 1604 1609 1 2 1604 1610 1 2 1605 1575 1 2 1605 1605 1 2 1606 1585 1",
   "2 1606 1586 1 2 1606 1605 1 2 1606 1606 1 2 1606 1609 1 2 1606 1610 1 2 1609 1648 1 2 1610 1585 1 2 1610",
   "1586 1 2 1610 1605 1 2 1610 1606 1 2 1610 1609 1 2 1610 1610 1 2 1574 1580 1 2 1574 1581 1 2 1574 1582 1",
   "2 1574 1605 1 2 1574 1607 1 2 1576 1580 1 2 1576 1581 1 2 1576 1582 1 2 1576 1605 1 2 1576 1607 1 2 1578",
   "1580 1 2 1578 1581 1 2 1578 1582 1 2 1578 1605 1 2 1578 1607 1 2 1579 1605 1 2 1580 1581 1 2 1580 1605 1",
   "2 1581 1580 1 2 1581 1605 1 2 1582 1580 1 2 1582 1605 1 2 1587 1580 1 2 1587 1581 1 2 1587 1582 1 2 1587",
   "1605 1 2 1589 1581 1 2 1589 1582 1 2 1589 1605 1 2 1590 1580 1 2 1590 1581 1 2 1590 1582 1 2 1590 1605 1",
   "2 1591 1581 1 2 1592 1605 1 2 1593 1580 1 2 1593 1605 1 2 1594 1580 1 2 1594 1605 1 2 1601 1580 1 2 1601",
   "1581 1 2 1601 1582 1 2 1601 1605 1 2 1602 1581 1 2 1602 1605 1 2 1603 1580 1 2 1603 1581 1 2 1603 1582 1",
   "2 1603 1604 1 2 1603 1605 1 2 1604 1580 1 2 1604 1581 1 2 1604 1582 1 2 1604 1605 1 2 1604 1607 1 2 1605",
   "1580 1 2 1605 1581 1 2 1605 1582 1 2 1605 1605 1 2 1606 1580 1 2 1606 1581 1 2 1606 1582 1 2 1606 1605 1",
   "2 1606 1607 1 2 1607 1580 1 2 1607 1605 1 2 1607 1648 1 2 1610 1580 1 2 1610 1581 1 2 1610 1582 1 2 1610",
   "1605 1 2 1610 1607 1 2 1574 1605 1 2 1574 1607 1 2 1576 1605 1 2 1576 1607 1 2 1578 1605 1 2 1578 1607 1",
   "2 1579 1605 1 2 1579 1607 1 2 1587 1605 1 2 1587 1607 1 2 1588 1605 1 2 1588 1607 1 2 1603 1604 1 2 1603",
   "1605 1 2 1604 1605 1 2 1606 1605 1 2 1606 1607 1 2 1610 1605 1 2 1610 1607 1 3 1600 1614 1617 1 3 1600",
   "1615 1617 1 3 1600 1616 1617 1 2 1591 1609 1 2 1591 1610 1 2 1593 1609 1 2 1593 1610 1 2 1594 1609 1 2",
   "1594 1610 1 2 1587 1609 1 2 1587 1610 1 2 1588 1609 1 2 1588 1610 1 2 1581 1609 1 2 1581 1610 1 2 1580",
   "1609 1 2 1580 1610 1 2 1582 1609 1 2 1582 1610 1 2 1589 1609 1 2 1589 1610 1 2 1590 1609 1 2 1590 1610 1",
   "2 1588 1580 1 2 1588 1581 1 2 1588 1582 1 2 1588 1605 1 2 1588 1585 1 2 1587 1585 1 2 1589 1585 1 2 1590",
   "1585 1 2 1591 1609 1 2 1591 1610 1 2 1593 1609 1 2 1593 1610 1 2 1594 1609 1 2 1594 1610 1 2 1587 1609 1",
   "2 1587 1610 1 2 1588 1609 1 2 1588 1610 1 2 1581 1609 1 2 1581 1610 1 2 1580 1609 1 2 1580 1610 1 2 1582",
   "1609 1 2 1582 1610 1 2 1589 1609 1 2 1589 1610 1 2 1590 1609 1 2 1590 1610 1 2 1588 1580 1 2 1588 1581 1",
   "2 1588 1582 1 2 1588 1605 1 2 1588 1585 1 2 1587 1585 1 2 1589 1585 1 2 1590 1585 1 2 1588 1580 1 2 1588",
   "1581 1 2 1588 1582 1 2 1588 1605 1 2 1587 1607 1 2 1588 1607 1 2 1591 1605 1 2 1587 1580 1 2 1587 1581 1",
   "2 1587 1582 1 2 1588 1580 1 2 1588 1581 1 2 1588 1582 1 2 1591 1605 1 2 1592 1605 1 2 1575 1611 1 2 1575",
   "1611 19 3 1578 1580 1605 1 3 1578 1581 1580 1 3 1578 1581 1580 1 3 1578 1581 1605 1 3 1578 1582 1605 1 3",
   "1578 1605 1580 1 3 1578 1605 1581 1 3 1578 1605 1582 1 3 1580 1605 1581 1 3 1580 1605 1581 1 3 1581 1605",
   "1610 1 3 1581 1605 1609 1 3 1587 1581 1580 1 3 1587 1580 1581 1 3 1587 1580 1609 1 3 1587 1605 1581 1 3",
   "1587 1605 1581 1 3 1587 1605 1580 1 3 1587 1605 1605 1 3 1587 1605 1605 1 3 1589 1581 1581 1 3 1589 1581",
   "1581 1 3 1589 1605 1605 1 3 1588 1581 1605 1 3 1588 1581 1605 1 3 1588 1580 1610 1 3 1588 1605 1582 1 3",
   "1588 1605 1582 1 3 1588 1605 1605 1 3 1588 1605 1605 1 3 1590 1581 1609 1 3 1590 1582 1605 1 3 1590 1582",
   "1605 1 3 1591 1605 1581 1 3 1591 1605 1581 1 3 1591 1605 1605 1 3 1591 1605 1610 1 3 1593 1580 1605 1 3",
   "1593 1605 1605 1 3 1593 1605 1605 1 3 1593 1605 1609 1 3 1594 1605 1605 1 3 1594 1605 1610 1 3 1594 1605",
   "1609 1 3 1601 1582 1605 1 3 1601 1582 1605 1 3 1602 1605 1581 1 3 1602 1605 1605 1 3 1604 1581 1605 1 3",
   "1604 1581 1610 1 3 1604 1581 1609 1 3 1604 1580 1580 1 3 1604 1580 1580 1 3 1604 1582 1605 1 3 1604 1582",
   "1605 1 3 1604 1605 1581 1 3 1604 1605 1581 1 3 1605 1581 1580 1 3 1605 1581 1605 1 3 1605 1581 1610 1 3",
   "1605 1580 1581 1 3 1605 1580 1605 1 3 1605 1582 1580 1 3 1605 1582 1605 3 3 1605 1580 1582 1 3 1607 1605",
   "1580 1 3 1607 1605 1605 1 3 1606 1581 1605 1 3 1606 1581 1609 1 3 1606 1580 1605 1 3 1606 1580 1605 1 3",
   "1606 1580 1609 1 3 1606 1605 1610 1 3 1606 1605 1609 1 3 1610 1605 1605 1 3 1610 1605 1605 1 3 1576 1582",
   "1610 1 3 1578 1580 1610 1 3 1578 1580 1609 1 3 1578 1582 1610 1 3 1578 1582 1609 1 3 1578 1605 1610 1 3",
   "1578 1605 1609 1 3 1580 1605 1610 1 3 1580 1581 1609 1 3 1580 1605 1609 1 3 1587 1582 1609 1 3 1589 1581",
   "1610 1 3 1588 1581 1610 1 3 1590 1581 1610 1 3 1604 1580 1610 1 3 1604 1605 1610 1 3 1610 1581 1610 1 3",
   "1610 1580 1610 1 3 1610 1605 1610 1 3 1605 1605 1610 1 3 1602 1605 1610 1 3 1606 1581 1610 1 3 1602 1605",
   "1581 1 3 1604 1581 1605 1 3 1593 1605 1610 1 3 1603 1605 1610 1 3 1606 1580 1581 1 3 1605 1582 1610 1 3",
   "1604 1580 1605 1 3 1603 1605 1605 1 3 1604 1580 1605 1 3 1606 1580 1581 1 3 1580 1581 1610 1 3 1581 1580",
   "1610 1 3 1605 1580 1610 1 3 1601 1605 1610 1 3 1576 1581 1610 1 3 1603 1605 1605 1 3 1593 1580 1605 1 3",
   "1589 1605 1605 1 3 1587 1582 1610 1 3 1606 1580 1610 41 3 1589 1604 1746 1 3 1602 1604 1746 1 4 1575",
   "1604 1604 1607 1 4 1575 1603 1576 1585 1 4 1605 1581 1605 1583 1 4 1589 1604 1593 1605 1 4 1585 1587",
   "1608 1604 1 4 1593 1604 1610 1607 1 4 1608 1587 1604 1605 1 3 1589 1604 1609 1 18 1589 1604 1609 32 1575",
   "1604 1604 1607 32 1593 1604 1610 1607 32 1608 1587 1604 1605 1 8 1580 1604 32 1580 1604 1575 1604 1607 1",
   "4 1585 1740 1575 1604 77 2 32 773 1 2 32 773 1 2 32 773 1 2 32 773 36 2 32 1611 1 2 1600 1611 1 2 32",
   "1612 2 2 32 1613 2 2 32 1614 1 2 1600 1614 1 2 32 1615 1 2 1600 1615 1 2 32 1616 1 2 1600 1616 1 2 32",
   "1617 1 2 1600 1617 1 2 32 1618 1 2 1600 1618 118 2 1604 1570 1 2 1604 1570 1 2 1604 1571 1 2 1604 1571 1",
   "2 1604 1573 1 2 1604 1573 1 2 1604 1575 1 2 1604 1575 231 2 32 772 53627 2 119127 119141 1 2 119128",
   "119141 1 3 119128 119141 119150 1 3 119128 119141 119151 1 3 119128 119141 119152 1 3 119128 119141",
   "119153 1 3 119128 119141 119154 87 2 119225 119141 1 2 119226 119141 1 3 119225 119141 119150 1 3 119226",
   "119141 119150 1 3 119225 119141 119151 1 3 119226 119141 119151 8001 2 48 44 1 2 49 44 1 2 50 44 1 2 51",
   "44 1 2 52 44 1 2 53 44 1 2 54 44 1 2 55 44 1 2 56 44 1 2 57 44 6 3 40 97 41 1 3 40 98 41 1 3 40 99 41 1",
   "3 40 100 41 1 3 40 101 41 1 3 40 102 41 1 3 40 103 41 1 3 40 104 41 1 3 40 105 41 1 3 40 106 41 1 3 40",
   "107 41 1 3 40 108 41 1 3 40 109 41 1 3 40 110 41 1 3 40 111 41 1 3 40 112 41 1 3 40 113 41 1 3 40 114 41",
   "1 3 40 115 41 1 3 40 116 41 1 3 40 117 41 1 3 40 118 41 1 3 40 119 41 1 3 40 120 41 1 3 40 121 41 1 3 40",
   "122 41 1 3 12308 115 12309 3 2 99 100 1 2 119 122 28 2 104 118 1 2 109 118 1 2 115 100 1 2 115 115 1 3",
   "112 112 118 1 2 119 99 27 2 109 99 1 2 109 100 1 2 109 114 36 2 100 106 112 2 12411 12363 1 2 12467",
   "12467 63 3 12308 26412 12309 1 3 12308 19977 12309 1 3 12308 20108 12309 1 3 12308 23433 12309 1 3 12308",
   "28857 12309 1 3 12308 25171 12309 1 3 12308 30423 12309 1 3 12308 21213 12309 1 3 12308 25943 12309"]

def expandReplacements : Nat → List Nat → List (Nat × List Nat)
  | last, gap :: count :: step :: target :: targetStep :: rest =>
      (List.range count).map (fun i => (last + gap + i * step, [target + i * targetStep])) ++
        expandReplacements (last + gap) rest
  | _, _ => []

/-- Reads the expansions; every round takes at least two numbers. -/
def expandExpansions : Nat → Nat → List Nat → List (Nat × List Nat)
  | fuel + 1, last, gap :: count :: rest =>
      (last + gap, rest.take count) :: expandExpansions fuel (last + gap) (rest.drop count)
  | _, _, _ => []

def replacements : CharMap (List Nat) :=
  let single := expandReplacements 0 (replacementRows.flatMap CharSet.rowNumbers)
  let numbers := expansionRows.flatMap CharSet.rowNumbers
  let several := expandExpansions numbers.length 0 numbers
  .ofList ((single ++ several).mergeSort fun a b => a.1 ≤ b.1)

def validSet : CharSet :=
  CharSet.ofLabels (· = "V") fateRuns

def ignoredSet : CharSet :=
  CharSet.ofLabels (· = "I") fateRuns

/-- What a character becomes; nothing if it is not allowed. -/
def mapChar (c : Char) : Option (List Char) :=
  if validSet.contains c then some [c]
  else if ignoredSet.contains c then some []
  else (replacements.find? c.toNat).map fun codes => codes.map Char.ofNat

/-- What a text becomes, in the composed normal form. -/
def mapText (cs : List Char) : Option (List Char) :=
  (cs.mapM mapChar).map List.flatten

end Attest.Domain
