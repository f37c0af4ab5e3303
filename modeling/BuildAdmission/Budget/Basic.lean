import BuildAdmission.WorkUnit.Basic

namespace BuildAdmission

/-- The sum, or the greatest 64-bit number if the sum is above it. -/
def saturatingAdd (a b : UInt64) : UInt64 := .ofNat (min (a.toNat + b.toNat) (UInt64.size - 1))

/-- The sizes at which a unit enters the next tier. -/
structure Thresholds where
  optimal : UInt64
  warning : UInt64
  splitTrigger : UInt64
  emergency : UInt64
  deriving DecidableEq, Repr

inductive BudgetFault where
  | notAscending (t : Thresholds)
  | noHardLimit
  | stated (text : String)
  deriving DecidableEq, Repr

namespace BudgetFault

def message : BudgetFault → String
  | notAscending t =>
    "thresholds must be strictly ascending, got optimal=" ++ toString t.optimal.toNat ++
      " warning=" ++ toString t.warning.toNat ++
      " split_trigger=" ++ toString t.splitTrigger.toNat ++
      " emergency=" ++ toString t.emergency.toNat
  | noHardLimit => "hard_limit must be greater than 0"
  | stated text => text

end BudgetFault

namespace Thresholds

def standard : Thresholds := ⟨80000, 100000, 120000, 140000⟩

/-- Each tier begins above the one before it. -/
def Ascending (t : Thresholds) : Prop :=
  t.optimal < t.warning ∧ t.warning < t.splitTrigger ∧ t.splitTrigger < t.emergency

instance (t : Thresholds) : Decidable t.Ascending :=
  inferInstanceAs (Decidable (_ ∧ _ ∧ _))

def check (t : Thresholds) : Except BudgetFault Unit :=
  if t.Ascending then .ok () else .error (.notAscending t)

def codec : Codec Thresholds :=
  (Codec.record (.required "optimal" .uint64 <| .required "warning" .uint64 <|
    .required "split_trigger" .uint64 <| .required "emergency" .uint64 .nil)).iso
    (fun (optimal, warning, split, emergency, _) => ⟨optimal, warning, split, emergency⟩)
    (fun t => (t.optimal, t.warning, t.splitTrigger, t.emergency, ()))

end Thresholds

inductive Tier where
  | green
  | yellow
  | orange
  | red
  deriving DecidableEq, Repr

namespace Tier

def name : Tier → String
  | green => "green"
  | yellow => "yellow"
  | orange => "orange"
  | red => "red"

def all : List Tier := [green, yellow, orange, red]

def rank : Tier → Nat
  | green => 0
  | yellow => 1
  | orange => 2
  | red => 3

instance : LE Tier := ⟨fun a b => a.rank ≤ b.rank⟩

instance (a b : Tier) : Decidable (a ≤ b) := inferInstanceAs (Decidable (a.rank ≤ b.rank))

def codec : Codec Tier := .names name all

end Tier

inductive BudgetAction where
  | continue
  | planSplit
  | splitNow
  | abort
  deriving DecidableEq, Repr

namespace BudgetAction

def name : BudgetAction → String
  | «continue» => "continue"
  | planSplit => "plan_split"
  | splitNow => "split_now"
  | abort => "abort"

def all : List BudgetAction := [«continue», planSplit, splitNow, abort]

def codec : Codec BudgetAction := .names name all

end BudgetAction

def Tier.action : Tier → BudgetAction
  | green => .continue
  | yellow => .planSplit
  | orange => .splitNow
  | red => .abort

/-- The budget's answer for one task of one unit. `admitted` is the arithmetic alone. -/
structure BudgetDecision where
  tier : Tier
  action : BudgetAction
  projectedSize : UInt64
  hardLimit : UInt64
  admitted : Bool
  deriving DecidableEq, Repr

namespace BudgetDecision

def allowsLaunch (d : BudgetDecision) : Bool := d.admitted && d.action ≠ .abort

/-- Why a launch is refused; the arithmetic speaks before the tier. -/
def refusal? (d : BudgetDecision) : Option String :=
  if d.admitted then
    if d.action = .abort then some (d.tier.name ++ " tier requires a split before scheduling")
    else none
  else
    some ("projected " ++ toString d.projectedSize.toNat ++ " exceeds hard limit " ++
      toString d.hardLimit.toNat)

def codec : Codec BudgetDecision :=
  (Codec.record (.required "tier" Tier.codec <| .required "action" BudgetAction.codec <|
    .required "projected_size" .uint64 <| .required "hard_limit" .uint64 <|
    .required "admitted" .bool .nil)).iso
    (fun (tier, action, projected, limit, admitted, _) =>
      ⟨tier, action, projected, limit, admitted⟩)
    (fun d => (d.tier, d.action, d.projectedSize, d.hardLimit, d.admitted, ()))

end BudgetDecision

structure Budget where
  thresholds : Thresholds
  safetyMargin : UInt64
  hardLimit : UInt64
  deriving DecidableEq, Repr

namespace Budget

def standardMargin : UInt64 := 20000

def standardHardLimit : UInt64 := 180000

/-- The thresholds are looked at before the hard limit. -/
def new (thresholds : Thresholds) (safetyMargin hardLimit : UInt64) : Except BudgetFault Budget := do
  thresholds.check
  if hardLimit = 0 then .error .noHardLimit else .ok ⟨thresholds, safetyMargin, hardLimit⟩

def withThresholds (b : Budget) (thresholds : Thresholds) : Except BudgetFault Budget := do
  thresholds.check
  .ok { b with thresholds }

def classify (b : Budget) (size : UInt64) : Tier :=
  if size < b.thresholds.optimal then .green
  else if size < b.thresholds.warning then .yellow
  else if size < b.thresholds.emergency then .orange
  else .red

def isEmergency (b : Budget) (size : UInt64) : Bool := b.thresholds.emergency ≤ size

/-- The size that a task may lead to, the safety margin included. -/
def projected (size cost margin : UInt64) : UInt64 := saturatingAdd (saturatingAdd size cost) margin

def canAdmit (size cost margin limit : UInt64) : Bool := projected size cost margin ≤ limit

def check (b : Budget) (size cost : UInt64) : BudgetDecision where
  tier := b.classify size
  action := (b.classify size).action
  projectedSize := projected size cost b.safetyMargin
  hardLimit := b.hardLimit
  admitted := canAdmit size cost b.safetyMargin b.hardLimit

end Budget

end BuildAdmission
