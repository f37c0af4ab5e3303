import BuildAdmission.Codec.Record
import BuildAdmission.Decimal.Binary64

namespace BuildAdmission

inductive Variants : Type → Type 1 where
  | nil : Variants Empty
  | cons {α β : Type} (name : String) (fields : Fields α) (rest : Variants β) : Variants (α ⊕ β)

namespace Json

mutual

/-- Whether a value can be held apart from its text: every string spells characters, every number
is a finite double, and lists and objects are at most `depth` deep. -/
def isHeld (depth : Nat) : Json → Bool
  | .null | .bool _ | .text _ => true
  | .number n => n.toBinary64?.isSome
  | .loneSurrogate | .cut => false
  | .array items =>
    match depth with
    | 0 => false
    | depth + 1 => allHeld depth items
  | .object members =>
    match depth with
    | 0 => false
    | depth + 1 => membersHeld depth members

def allHeld (depth : Nat) : List Json → Bool
  | [] => true
  | v :: vs => isHeld depth v && allHeld depth vs

def membersHeld (depth : Nat) : List (JsonName × Json) → Bool
  | [] => true
  | (name, v) :: ms => name.isSome && isHeld depth v && membersHeld depth ms

end

end Json

namespace Variants

def ofMembers : {α : Type} → Variants α → String → List (JsonName × Json) → Except DecodeError α
  | _, .nil, _, _ => .error .malformed
  | _, .cons name fields rest, tag, ms =>
    if tag = name then (fields.ofMembers ms).map .inl else (rest.ofMembers tag ms).map .inr

def ofItems : {α : Type} → Variants α → String → List Json → Except DecodeError α
  | _, .nil, _, _ => .error .malformed
  | _, .cons name fields rest, tag, vs =>
    if tag = name then (fields.ofItems vs).map .inl else (rest.ofItems tag vs).map .inr

/-- The name of the form and its own members. -/
def toMembers : {α : Type} → Variants α → α → String × List (JsonName × Json)
  | _, .cons name fields _, .inl a => (name, fields.toMembers a)
  | _, .cons _ _ rest, .inr b => rest.toMembers b

end Variants

namespace Codec

variable {α : Type}

/-- A record whose member `tag` names its form. The tag may stand anywhere but only once; in a
list it comes first. Nested values go `depth` deep at most. -/
def tagged (tag : String) (depth : Nat) (vs : Variants α) : Codec α where
  encode a :=
    let (name, ms) := vs.toMembers a
    .object ((some tag, .text name) :: ms)
  decode v :=
    if v.isHeld depth then
      match v with
      | .object ms =>
        match ms.filter (·.1 = some tag) with
        | [(_, .text name)] => vs.ofMembers name (ms.filter (·.1 ≠ some tag))
        | _ => .error .malformed
      | .array (.text name :: items) => vs.ofItems name items
      | _ => .error .malformed
    else .error .malformed

end Codec

end BuildAdmission
