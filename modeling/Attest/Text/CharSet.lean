/-!
Sets of characters as the strictly increasing list of the code points at which membership changes: below
the first of them nothing is in the set, from the first to the second everything is, and so on. A set has
one such list, and the operations on sets are one walk along both lists.
-/

namespace Attest

structure CharSet where
  changes : Array Nat
  deriving DecidableEq, Repr, Inhabited

namespace CharSet

def empty : CharSet :=
  ⟨#[]⟩

/-- Every character. -/
def full : CharSet :=
  ⟨#[0]⟩

/-- The code points from the first to the last. -/
def range (first last : Nat) : CharSet :=
  if first ≤ last then ⟨#[first, last + 1]⟩ else empty

def singleton (c : Char) : CharSet :=
  range c.toNat c.toNat

/-- The number of changes among `changes[lo, hi)` that do not lie above `n`, added to `lo`. -/
def rankBetween (changes : Array Nat) (n lo hi : Nat) : Nat :=
  if h : lo < hi then
    let mid := (lo + hi) / 2
    if changes.getD mid 0 ≤ n then rankBetween changes n (mid + 1) hi else rankBetween changes n lo mid
  else lo
termination_by hi - lo

/-- A code point is in the set when an odd number of changes lie at or below it. -/
def containsCode (s : CharSet) (n : Nat) : Bool :=
  rankBetween s.changes n 0 s.changes.size % 2 = 1

def contains (s : CharSet) (c : Char) : Bool :=
  s.containsCode c.toNat

/-! ### Operations -/

/-- Walks along both lists of changes. `inA`, `inB` and `inside` say whether the current code point is in the
first set, in the second and in the result. -/
def walk (op : Bool → Bool → Bool) : List Nat → List Nat → Bool → Bool → Bool → List Nat
  | [], [], _, _, _ => []
  | a :: as, [], inA, inB, inside =>
      change a (op (!inA) inB) inside (walk op as [] (!inA) inB (op (!inA) inB))
  | [], b :: bs, inA, inB, inside =>
      change b (op inA (!inB)) inside (walk op [] bs inA (!inB) (op inA (!inB)))
  | a :: as, b :: bs, inA, inB, inside =>
      if a < b then
        change a (op (!inA) inB) inside (walk op as (b :: bs) (!inA) inB (op (!inA) inB))
      else if b < a then
        change b (op inA (!inB)) inside (walk op (a :: as) bs inA (!inB) (op inA (!inB)))
      else
        change a (op (!inA) (!inB)) inside (walk op as bs (!inA) (!inB) (op (!inA) (!inB)))
termination_by as bs => as.length + bs.length
where
  change (n : Nat) (now before : Bool) (rest : List Nat) : List Nat :=
    if now = before then rest else n :: rest

/-- The set whose members are given by an operation on the membership in `s` and in `t`; outside both sets
the operation has to be false. -/
def combine (op : Bool → Bool → Bool) (s t : CharSet) : CharSet :=
  ⟨(walk op s.changes.toList t.changes.toList false false false).toArray⟩

def union (s t : CharSet) : CharSet :=
  combine (· || ·) s t

def inter (s t : CharSet) : CharSet :=
  combine (· && ·) s t

def diff (s t : CharSet) : CharSet :=
  combine (fun a b => a && !b) s t

def symmDiff (s t : CharSet) : CharSet :=
  combine (fun a b => a != b) s t

def compl (s : CharSet) : CharSet :=
  match s.changes.toList with
  | 0 :: rest => ⟨rest.toArray⟩
  | changes => ⟨(0 :: changes).toArray⟩

/-- The union of ranges in order of their first code points. -/
def ofSorted (ranges : List (Nat × Nat)) : CharSet :=
  ⟨join #[] ranges⟩
where
  join (changes : Array Nat) : List (Nat × Nat) → Array Nat
    | [] => changes
    | (first, last) :: rest =>
        if changes.back?.any (first ≤ ·) then
          join (changes.modify (changes.size - 1) (max · (last + 1))) rest
        else join ((changes.push first).push (last + 1)) rest

/-- The union of ranges. -/
def ofRanges (ranges : List (Nat × Nat)) : CharSet :=
  ofSorted (ranges.mergeSort fun a b => a.1 ≤ b.1)

/-- The ranges of a set, the last code point of each included. -/
def ranges (s : CharSet) : List (Nat × Nat) :=
  pairs s.changes.toList
where
  pairs : List Nat → List (Nat × Nat)
    | first :: next :: rest => (first, next - 1) :: pairs rest
    | [first] => [(first, 0x10FFFF)]
    | [] => []

/-! ### Tables -/

/-- The natural numbers of a row in which they are separated by blanks. -/
def rowNumbers (row : String) : List Nat :=
  let (done, last) := row.foldl step ([], none)
  (last.toList ++ done).reverse
where
  step : List Nat × Option Nat → Char → List Nat × Option Nat
    | (done, last), ' ' => (last.toList ++ done, none)
    | (done, last), c => (done, some (10 * last.getD 0 + (c.toNat - '0'.toNat)))

/-- The set whose changes have the given distances from each other, the first one from zero. -/
def ofGaps (rows : List String) : CharSet :=
  ⟨((rows.flatMap rowNumbers).foldl (fun (changes, last) gap => (changes.push (last + gap), last + gap))
    (#[], 0)).1⟩

/-- The labels and lengths of consecutive runs, each written as the label with the length behind it, separated
by blanks. -/
def labelledRuns (rows : List String) : List (String × Nat) :=
  rows.flatMap fun row => (row.split ' ').toList.map fun run =>
    let label := run.takeWhile fun c => !c.isDigit
    (label.toString, (run.dropWhile fun c => !c.isDigit).toNat?.getD 0)

/-- The code points in those of consecutive runs whose label is chosen. -/
def ofLabels (chosen : String → Bool) (runs : List (String × Nat)) : CharSet :=
  ofSorted (runs.foldl add ([], 0)).1.reverse
where
  add : List (Nat × Nat) × Nat → String × Nat → List (Nat × Nat) × Nat
    | (done, first), (label, length) =>
        (if chosen label then (first, first + length - 1) :: done else done, first + length)

end CharSet

end Attest
