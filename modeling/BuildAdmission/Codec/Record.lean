import BuildAdmission.Codec.Basic

namespace BuildAdmission

/-- One field of a record. A field with a fallback may be missing from an object, and if it is
`elidable` also from a list; a hidden value is not written. -/
structure Field (α : Type) where
  name : String
  codec : Codec α
  fallback : Option α := none
  elidable : Bool := true
  hidden : α → Bool := fun _ => false

/-- The fields of a record in the order in which they are written. -/
inductive Fields : Type → Type 1 where
  | nil : Fields Unit
  | cons {α β : Type} (field : Field α) (rest : Fields β) : Fields (α × β)

namespace Fields

variable {α β : Type}

def required (name : String) (codec : Codec α) (rest : Fields β) : Fields (α × β) :=
  .cons { name, codec } rest

def optional (name : String) (codec : Codec α) (fallback : α) (rest : Fields β) : Fields (α × β) :=
  .cons { name, codec, fallback } rest

/-- A field that has no value where it is missing from an object. -/
def nullable (name : String) (codec : Codec α) (rest : Fields β) : Fields (Option α × β) :=
  .cons { name, codec := codec.option, fallback := some none, elidable := false } rest

/-- A field that is written only where it differs from its fallback. -/
def sparse [DecidableEq α] (name : String) (codec : Codec α) (fallback : α) (rest : Fields β) :
    Fields (α × β) :=
  .cons { name, codec, fallback, hidden := (· = fallback) } rest

/-- The values that were met so far. -/
def Slots : {α : Type} → Fields α → Type
  | _, .nil => Unit
  | _, .cons (α := α) _ rest => Option α × rest.Slots

def blank : {α : Type} → (fs : Fields α) → fs.Slots
  | _, .nil => ()
  | _, .cons _ rest => (none, rest.blank)

/-- Fills the slot of the named field, which must be free; none if no field has the name. -/
def fill : {α : Type} → (fs : Fields α) → fs.Slots → String → Json →
    Except DecodeError (Option fs.Slots)
  | _, .nil, _, _, _ => .ok none
  | _, .cons field rest, slots, name, v =>
    if name = field.name then
      if slots.1.isSome then .error .malformed
      else do
        let a ← field.codec.decode v
        .ok (some (some a, slots.2))
    else do
      let filled ← rest.fill slots.2 name v
      .ok (filled.map fun others => (slots.1, others))

/-- Members of other names are passed over, but they must be JSON, and each name must be spelled. -/
def fillAll (fs : Fields α) : fs.Slots → List (JsonName × Json) → Except DecodeError fs.Slots
  | slots, [] => .ok slots
  | _, (none, _) :: _ => .error .malformed
  | slots, (some name, v) :: ms => do
    match ← fs.fill slots name v with
    | some slots => fs.fillAll slots ms
    | none => if v.isWhole then fs.fillAll slots ms else .error .malformed

def finish : {α : Type} → (fs : Fields α) → fs.Slots → Except DecodeError α
  | _, .nil, _ => .ok ()
  | _, .cons field rest, slots =>
    match slots.1.or field.fallback with
    | none => .error .malformed
    | some a => (rest.finish slots.2).map (a, ·)

def ofMembers (fs : Fields α) (ms : List (JsonName × Json)) : Except DecodeError α := do
  fs.finish (← fs.fillAll fs.blank ms)

/-- A record may be written as the list of its fields; at the end elidable
fields may be left out. -/
def ofItems : {α : Type} → Fields α → List Json → Except DecodeError α
  | _, .nil, [] => .ok ()
  | _, .nil, _ :: _ => .error .malformed
  | _, .cons field rest, [] =>
    match field.fallback with
    | none => .error .malformed
    | some a => if field.elidable then (rest.ofItems []).map (a, ·) else .error .malformed
  | _, .cons field rest, v :: vs => do
    let a ← field.codec.decode v
    (rest.ofItems vs).map (a, ·)

def toMembers : {α : Type} → Fields α → α → List (JsonName × Json)
  | _, .nil, _ => []
  | _, .cons field rest, (a, b) =>
    if field.hidden a then rest.toMembers b
    else (some field.name, field.codec.encode a) :: rest.toMembers b

end Fields

namespace Codec

variable {α : Type}

def record (fs : Fields α) : Codec α where
  encode a := .object (fs.toMembers a)
  decode
    | .object ms => fs.ofMembers ms
    | .array vs => fs.ofItems vs
    | _ => .error .malformed

end Codec

end BuildAdmission
