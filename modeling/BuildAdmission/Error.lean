import BuildAdmission.Budget.Basic
import BuildAdmission.Time.Duration

namespace BuildAdmission

structure LevelViolation where
  source : UnitId
  sourceLevel : Level
  target : UnitId
  targetLevel : Level
  deriving DecidableEq, Repr

namespace LevelViolation

def describe (v : LevelViolation) : String :=
  v.source ++ " at " ++ v.sourceLevel.describe ++ " depends on " ++ v.target ++ " at " ++
    v.targetLevel.describe

def codec : Codec LevelViolation :=
  (Codec.record (.required "from" .text <| .required "from_level" Level.codec <|
    .required "to" .text <| .required "to_level" Level.codec .nil)).iso
    (fun (source, sourceLevel, target, targetLevel, _) =>
      ⟨source, sourceLevel, target, targetLevel⟩)
    (fun v => (v.source, v.sourceLevel, v.target, v.targetLevel, ()))

end LevelViolation

def describeCycle (cycle : List UnitId) : String := " -> ".intercalate cycle

def describeIds (ids : List UnitId) : String := ", ".intercalate ids

inductive UseCause where
  | requiredBy (ids : List UnitId)
  | running
  | stated (text : String)
  deriving DecidableEq, Repr

def UseCause.message : UseCause → String
  | requiredBy ids => "required by " ++ describeIds ids
  | running => "unit is running"
  | stated text => text

inductive SplitFault where
  | noUnits (whole : UnitId)
  | repeatedIds
  | taken (id : UnitId)
  | notDependent (id whole : UnitId)
  | outsideTarget (id : UnitId)
  | unknownDependency (id dependency : UnitId)
  | cycle (path : List UnitId)
  | level (v : LevelViolation)
  | stated (text : String)
  deriving DecidableEq, Repr

def SplitFault.message : SplitFault → String
  | noUnits whole => "split of " ++ whole ++ " produced no units"
  | repeatedIds => "duplicate unit ids in plan"
  | taken id => "unit " ++ id ++ " already exists"
  | notDependent id whole => id ++ " does not depend on " ++ whole
  | outsideTarget id => "remap target " ++ id ++ " is not part of the plan"
  | unknownDependency id dependency => id ++ " depends on unknown unit " ++ dependency
  | cycle path => "plan introduces cycle " ++ describeCycle path
  | level v => v.describe
  | stated text => text

inductive ConfigFault where
  | noConcurrency
  | noIdleTimeout
  | noStoragePaths
  | unreadable
  | stated (text : String)
  deriving DecidableEq, Repr

def ConfigFault.message : ConfigFault → String
  | noConcurrency => "concurrency_limit must be greater than 0"
  | noIdleTimeout => "idle_timeout must be greater than 0"
  | noStoragePaths => "file storage needs both registry_path and checkpoint_dir"
  | unreadable => "parse error"
  | stated text => text

inductive Refusal where
  | unknownUnit (id : UnitId)
  | duplicateUnit (id : UnitId)
  | levelViolation (v : LevelViolation)
  | cycleDetected (cycles : List (List UnitId))
  | invalidBudget (fault : BudgetFault)
  | staleIteration (id : UnitId) (attempted latest : UInt32)
  | invalidTransition (id : UnitId) (source target : Status)
  | unitInUse (id : UnitId) (cause : UseCause)
  | invalidSplit (fault : SplitFault)
  | invalidConfig (fault : ConfigFault)
  | storage (text : String)
  deriving DecidableEq, Repr

def Refusal.message : Refusal → String
  | unknownUnit id => "unknown unit: " ++ id
  | duplicateUnit id => "duplicate unit: " ++ id
  | levelViolation v => "level violation: " ++ v.describe
  | cycleDetected cycles => "cycle detected: " ++ "; ".intercalate (cycles.map describeCycle)
  | invalidBudget fault => "invalid threshold config: " ++ fault.message
  | staleIteration id attempted latest =>
    "stale checkpoint for " ++ id ++ ": iteration " ++ toString attempted.toNat ++
      " is not newer than " ++ toString latest.toNat
  | invalidTransition id source target =>
    "invalid transition for " ++ id ++ ": " ++ source.name ++ " -> " ++ target.name
  | unitInUse id cause => "unit " ++ id ++ " is in use: " ++ cause.message
  | invalidSplit fault => "invalid split plan: " ++ fault.message
  | invalidConfig fault => "invalid config: " ++ fault.message
  | storage text => "backend error: " ++ text

end BuildAdmission
