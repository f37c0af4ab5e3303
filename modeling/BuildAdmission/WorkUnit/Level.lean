import BuildAdmission.Codec.Basic

namespace BuildAdmission

/-- The architectural layers. A unit depends on units of its own layer or of lower ones. -/
inductive Level where
  | base
  | core
  | feature
  | integration
  | application
  deriving DecidableEq, Repr

namespace Level

def rank : Level → Nat
  | base => 0
  | core => 1
  | feature => 2
  | integration => 3
  | application => 4

def name : Level → String
  | base => "base"
  | core => "core"
  | feature => "feature"
  | integration => "integration"
  | application => "application"

def all : List Level := [base, core, feature, integration, application]

def ofRank? (n : Nat) : Option Level := all.find? (rank · = n)

instance : LT Level := ⟨fun a b => a.rank < b.rank⟩

instance (a b : Level) : Decidable (a < b) := inferInstanceAs (Decidable (a.rank < b.rank))

/-- Name and rank, as in `core(1)`. -/
def describe (l : Level) : String := l.name ++ "(" ++ toString l.rank ++ ")"

/-- A level is written as its rank, a number of eight bits. -/
def codec : Codec Level where
  encode l := .nat l.rank
  decode v := do
    let n ← (Codec.range 0 256 Int.toNat Int.ofNat).decode v
    (ofRank? n).elim (.error (.levelOutOfRange n)) .ok

end Level

namespace DecodeError

/-- The rule that a level breaks; the other faults have no text of their own. -/
def message? : DecodeError → Option String
  | .malformed => none
  | .levelOutOfRange n => some ("unit level must be within 0..=4 (got " ++ toString n ++ ")")

end DecodeError

end BuildAdmission
