import Attest.Number.Basic

/-!
JSON values. The members of an object are kept in the order of their keys, each key once, so that two
objects with the same members are the same list; `ofMembers` builds them from any list, the last value of
a key winning.
-/

namespace Attest

inductive Json
  | null
  | bool (value : Bool)
  | number (value : Number)
  | string (value : String)
  | array (items : List Json)
  | object (members : List (String × Json))
  deriving Repr, Inhabited

namespace Json

/-- Puts a member into an ordered list of members. -/
def insertMember (key : String) (value : Json) : List (String × Json) → List (String × Json)
  | [] => [(key, value)]
  | (k, v) :: rest =>
      if key < k then (key, value) :: (k, v) :: rest
      else if key = k then (key, value) :: rest
      else (k, v) :: insertMember key value rest

def ofMembers (members : List (String × Json)) : Json :=
  .object (members.foldl (fun ms (k, v) => insertMember k v ms) [])

/-- The member of an object with this key; nothing when the value is no object. -/
def member? (key : String) : Json → Option Json
  | .object members => members.lookup key
  | _ => none

/-- The member with this key, an absent one read as null. -/
def member (value : Json) (key : String) : Json :=
  (value.member? key).getD .null

def isNull : Json → Bool
  | .null => true
  | _ => false

def string? : Json → Option String
  | .string s => some s
  | _ => none

def number? : Json → Option Number
  | .number n => some n
  | _ => none

def array? : Json → Option (List Json)
  | .array items => some items
  | _ => none

mutual

/-- Equality of values: the same constructors, strings and members throughout, numbers by `Number.same`. -/
def same : Json → Json → Bool
  | .null, .null => true
  | .bool a, .bool b => a == b
  | .number a, .number b => a.same b
  | .string a, .string b => a == b
  | .array as, .array bs => sameItems as bs
  | .object as, .object bs => sameMembers as bs
  | _, _ => false
termination_by structural a => a

def sameItems : List Json → List Json → Bool
  | [], [] => true
  | a :: as, b :: bs => a.same b && sameItems as bs
  | _, _ => false
termination_by structural as => as

def sameMembers : List (String × Json) → List (String × Json) → Bool
  | [], [] => true
  | a :: as, b :: bs => sameMember a b && sameMembers as bs
  | _, _ => false
termination_by structural as => as

def sameMember : String × Json → String × Json → Bool
  | (k, a), (l, b) => k == l && a.same b
termination_by structural a => a

end

/-- Equality in which two numbers compare by magnitude; inside arrays and objects it is `same`. -/
def alike : Json → Json → Bool
  | .number a, .number b => a.alike b
  | a, b => a.same b

end Json

end Attest
