namespace BuildAdmission

/-- A JSON number as it is spelled: `whole` has no leading zero, `fraction` holds the digits after
the point, and a negative zero is not zero. -/
structure JsonNumber where
  negative : Bool
  whole : Nat
  fraction : List Nat
  exponent : Option Int
  deriving DecidableEq, Repr

namespace JsonNumber

def ofInt : Int → JsonNumber
  | .ofNat n => ⟨false, n, [], none⟩
  | .negSucc n => ⟨true, n + 1, [], none⟩

/-- Only a plain spelling is an integer: neither a point, nor an exponent, nor minus zero. -/
def toInt? (n : JsonNumber) : Option Int :=
  if n.fraction = [] ∧ n.exponent = none then
    if n.negative then
      if n.whole = 0 then none else some (-(n.whole : Int))
    else some n.whole
  else none

end JsonNumber

/-- The name of an object member, none if no sequence of characters spells it. -/
abbrev JsonName := Option String

/-- A JSON document as far as it can be read. `cut` stands where a text stops being JSON, so that
a decoder meets the faults of a text in reading order. `loneSurrogate` is a well-formed string
that no sequence of characters spells. Object members keep their order and repetitions. -/
inductive Json where
  | null
  | bool (b : Bool)
  | number (n : JsonNumber)
  | text (s : String)
  | loneSurrogate
  | array (items : List Json)
  | object (members : List (JsonName × Json))
  | cut

namespace Json

instance : Inhabited Json := ⟨null⟩

def int (i : Int) : Json := .number (.ofInt i)

def nat (n : Nat) : Json := .int n

mutual

def isWhole : Json → Bool
  | .cut => false
  | .array items => allWhole items
  | .object members => membersWhole members
  | _ => true

def allWhole : List Json → Bool
  | [] => true
  | v :: vs => isWhole v && allWhole vs

def membersWhole : List (JsonName × Json) → Bool
  | [] => true
  | (_, v) :: ms => isWhole v && membersWhole ms

end

/-- The value of a member, null if there is none. -/
def get (v : Json) (name : String) : Json :=
  match v with
  | .object members => (members.lookup (some name)).getD .null
  | _ => .null

end Json

end BuildAdmission
