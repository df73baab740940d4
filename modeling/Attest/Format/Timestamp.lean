/-!
Instants written as RFC 3339 dates with times and offsets. An instant is a second of the UTC day count and
nanoseconds in it; in the second before a leap second the nanoseconds run on past a thousand million, so
that instants stay ordered by seconds first and nanoseconds second.
-/

namespace Attest

structure Timestamp where
  seconds : Int
  nanos : Nat
  deriving DecidableEq, Repr

namespace Timestamp

/-- The order of instants. -/
def before (s t : Timestamp) : Bool :=
  s.seconds < t.seconds || (s.seconds == t.seconds && s.nanos < t.nanos)

/-! ### The calendar -/

def isLeapYear (year : Nat) : Bool :=
  year % 4 == 0 && (year % 100 != 0 || year % 400 == 0)

def daysInMonth (year month : Nat) : Nat :=
  if month = 2 then (if isLeapYear year then 29 else 28)
  else if month = 4 ∨ month = 6 ∨ month = 9 ∨ month = 11 then 30
  else 31

/-- The days of the years before this one, counted from the year 0. -/
def daysBeforeYear (year : Nat) : Nat :=
  365 * year + (year + 3) / 4 - (year + 99) / 100 + (year + 399) / 400

def daysBeforeMonth (year month : Nat) : Nat :=
  ((List.range (month - 1)).map fun m => daysInMonth year (m + 1)).foldr (· + ·) 0

/-- The day count of 1970-01-01. -/
def epochDay : Nat :=
  daysBeforeYear 1970

def dayNumber (year month day : Nat) : Int :=
  (daysBeforeYear year + daysBeforeMonth year month + (day - 1) : Nat) - (epochDay : Int)

/-! ### Reading -/

def digit? (c : Char) : Option Nat :=
  if c.isDigit then some (c.toNat - '0'.toNat) else none

/-- A number of exactly `width` digits. -/
def readNumber : Nat → Nat → List Char → Option (Nat × List Char)
  | 0, n, cs => some (n, cs)
  | _ + 1, _, [] => none
  | width + 1, n, c :: cs => (digit? c).bind fun d => readNumber width (10 * n + d) cs

def readSign (sign : Char) : List Char → Option (List Char)
  | [] => none
  | c :: cs => if c = sign then some cs else none

/-- The letter between date and time, for which a blank may stand. -/
def readDivider : List Char → Option (List Char)
  | [] => none
  | c :: cs => if c = 'T' ∨ c = 't' ∨ c = ' ' then some cs else none

/-- A fraction of a second in nanoseconds; digits past the ninth are dropped. -/
def readFraction (cs : List Char) : Option (Nat × List Char) :=
  match cs with
  | '.' :: rest =>
      let digits := rest.takeWhile Char.isDigit
      if digits.isEmpty then none
      else
        let kept := (digits.take 9).foldl (fun n c => 10 * n + (c.toNat - '0'.toNat)) 0
        some (kept * Nat.pow 10 (9 - digits.length), rest.dropWhile Char.isDigit)
  | _ => some (0, cs)

/-- The offset from UTC in minutes; a true minus sign is as good as a hyphen. -/
def readOffset (cs : List Char) : Option (Int × List Char) :=
  match cs with
  | [] => none
  | c :: rest =>
      if c = 'Z' ∨ c = 'z' then some (0, rest)
      else if c = '+' ∨ c = '-' ∨ c = '\u2212' then do
        let (hours, rest) ← readNumber 2 0 rest
        let rest ← readSign ':' rest
        let (minutes, rest) ← readNumber 2 0 rest
        if hours ≤ 23 ∧ minutes ≤ 59 then
          let offset : Int := (60 * hours + minutes : Nat)
          some (if c = '+' then offset else -offset, rest)
        else none
      else none

/-- The instant a text denotes. The sixtieth second is taken for a leap second in any minute. -/
def ofText? (text : String) : Option Timestamp := do
  let (year, cs) ← readNumber 4 0 text.toList
  let cs ← readSign '-' cs
  let (month, cs) ← readNumber 2 0 cs
  let cs ← readSign '-' cs
  let (day, cs) ← readNumber 2 0 cs
  let cs ← readDivider cs
  let (hour, cs) ← readNumber 2 0 cs
  let cs ← readSign ':' cs
  let (minute, cs) ← readNumber 2 0 cs
  let cs ← readSign ':' cs
  let (second, cs) ← readNumber 2 0 cs
  let (fraction, cs) ← readFraction cs
  let (offset, cs) ← readOffset cs
  if cs.isEmpty ∧ 1 ≤ month ∧ month ≤ 12 ∧ 1 ≤ day ∧ day ≤ daysInMonth year month ∧ hour ≤ 23 ∧
      minute ≤ 59 ∧ second ≤ 60 then
    let leap := second = 60
    let clock : Int := ((hour * 60 + minute) * 60 + (if leap then 59 else second) : Nat)
    some ⟨dayNumber year month day * 86400 + clock - offset * 60,
      fraction + (if leap then 1000000000 else 0)⟩
  else none

/-! ### Writing -/

/-- A natural number with at least `width` digits. -/
def padded (width n : Nat) : String :=
  let digits := toString n
  String.ofList (List.replicate (width - digits.length) '0') ++ digits

/-- The year, month and day of a day of the 400-year cycle that begins with a first of March. -/
def cycleDate (day : Nat) : Nat × Nat × Nat :=
  let year := (day - day / 1460 + day / 36524 - day / 146096) / 365
  let rest := day - (365 * year + year / 4 - year / 100)
  let month := (5 * rest + 2) / 153
  let dayOfMonth := rest - (153 * month + 2) / 5 + 1
  if month < 10 then (year, month + 3, dayOfMonth) else (year + 1, month - 9, dayOfMonth)

def fractionText (nanos : Nat) : String :=
  if nanos = 0 then ""
  else if nanos % 1000000 = 0 then "." ++ padded 3 (nanos / 1000000)
  else if nanos % 1000 = 0 then "." ++ padded 6 (nanos / 1000)
  else "." ++ padded 9 nanos

/-- The instant in UTC, the fraction in three, six or nine digits. -/
def text (t : Timestamp) : String :=
  let days := t.seconds / 86400
  let clock := (t.seconds % 86400).toNat
  let sinceMarch := days + 719468
  let (year, month, day) := cycleDate (sinceMarch % 146097).toNat
  let year := sinceMarch / 146097 * 400 + year
  let leap := 1000000000 ≤ t.nanos
  let second := clock % 60 + (if leap then 1 else 0)
  let nanos := if leap then t.nanos - 1000000000 else t.nanos
  let yearText :=
    if 0 ≤ year ∧ year ≤ 9999 then padded 4 year.toNat
    else if year < 0 then "-" ++ padded 4 year.natAbs
    else "+" ++ padded 4 year.natAbs
  yearText ++ "-" ++ padded 2 month ++ "-" ++ padded 2 day ++ "T" ++ padded 2 (clock / 3600) ++ ":" ++
    padded 2 (clock / 60 % 60) ++ ":" ++ padded 2 second ++ fractionText nanos ++ "Z"

end Timestamp

end Attest
