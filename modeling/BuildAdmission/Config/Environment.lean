import BuildAdmission.Config.Basic
import BuildAdmission.Files.Path
import BuildAdmission.Text.Blank
import BuildAdmission.Text.Quoted

namespace BuildAdmission

abbrev Environment := IdMap String

namespace Environment

/-- The number below `bound` that a variable holds, blanks around it apart; none if it is not set. -/
def number? (env : Environment) (bound : Nat) (key : String) :
    Except SetupError (Option Nat) :=
  match env.find? key with
  | none => .ok none
  | some raw =>
    match readNatBelow bound (trim raw.toList) with
    | .ok n => .ok (some n)
    | .error fault =>
      .error (.during (key ++ " has invalid value " ++ quoted raw) (.integer fault))

def word? (env : Environment) (key : String) : Except SetupError (Option UInt64) :=
  (env.number? UInt64.size key).map (·.map .ofNat)

def shortWord? (env : Environment) (key : String) : Except SetupError (Option UInt32) :=
  (env.number? UInt32.size key).map (·.map .ofNat)

def stateStorage? (env : Environment) : Option StorageSettings :=
  (env.find? "ORCHESTRATOR_STATE_DIR").map fun dir =>
    .file (FilePath.join dir "units.json") (FilePath.join dir "checkpoints")

end Environment

namespace Config

/-- The configuration with the variables that are set in place of its own values. The first
variable that holds no number of its range is at fault, then whatever the check finds. -/
def overriddenBy (c : Config) (env : Environment) : Except SetupError Config := do
  let concurrency ← env.word? "ORCHESTRATOR_CONCURRENCY_LIMIT"
  let retries ← env.shortWord? "ORCHESTRATOR_MAX_RETRIES"
  let idle ← env.word? "ORCHESTRATOR_IDLE_TIMEOUT_SECS"
  let optimal ← env.word? "ORCHESTRATOR_BUDGET_OPTIMAL"
  let warning ← env.word? "ORCHESTRATOR_BUDGET_WARNING"
  let split ← env.word? "ORCHESTRATOR_BUDGET_SPLIT_TRIGGER"
  let emergency ← env.word? "ORCHESTRATOR_BUDGET_EMERGENCY"
  let margin ← env.word? "ORCHESTRATOR_SAFETY_MARGIN"
  let limit ← env.word? "ORCHESTRATOR_HARD_LIMIT"
  let changed : Config :=
    { concurrencyLimit := concurrency.getD c.concurrencyLimit
      maxRetries := retries.getD c.maxRetries
      idleTimeoutSecs := idle.getD c.idleTimeoutSecs
      budget :=
        { optimal := optimal.getD c.budget.optimal
          warning := warning.getD c.budget.warning
          splitTrigger := split.getD c.budget.splitTrigger
          emergency := emergency.getD c.budget.emergency
          safetyMargin := margin.getD c.budget.safetyMargin
          hardLimit := limit.getD c.budget.hardLimit }
      storage := env.stateStorage?.getD c.storage }
  SetupError.noting "validating environment configuration" changed.check
  .ok changed

/-- The variables count that are set once `load` has taken in a settings file, if there is one. What
such a file looks like is up to `load`. -/
def withEnvironment (c : Config) (load : Environment → Environment) (env : Environment) :
    Except SetupError Config :=
  c.overriddenBy (load env)

end Config

end BuildAdmission
