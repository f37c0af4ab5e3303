import BuildAdmission.Codec.Variant
import BuildAdmission.Limits
import BuildAdmission.Text.Integer

namespace BuildAdmission

structure BudgetSettings where
  optimal : UInt64
  warning : UInt64
  splitTrigger : UInt64
  emergency : UInt64
  safetyMargin : UInt64
  hardLimit : UInt64
  deriving DecidableEq, Repr

namespace BudgetSettings

def standard : BudgetSettings :=
  let t := Thresholds.standard
  ⟨t.optimal, t.warning, t.splitTrigger, t.emergency, Budget.standardMargin,
    Budget.standardHardLimit⟩

def thresholds (b : BudgetSettings) : Thresholds :=
  ⟨b.optimal, b.warning, b.splitTrigger, b.emergency⟩

def budget (b : BudgetSettings) : Except Refusal Budget :=
  (Budget.new b.thresholds b.safetyMargin b.hardLimit).mapError .invalidBudget

def codec : Codec BudgetSettings :=
  (Codec.record (.optional "optimal" .uint64 standard.optimal <|
    .optional "warning" .uint64 standard.warning <|
    .optional "split_trigger" .uint64 standard.splitTrigger <|
    .optional "emergency" .uint64 standard.emergency <|
    .optional "safety_margin" .uint64 standard.safetyMargin <|
    .optional "hard_limit" .uint64 standard.hardLimit .nil)).iso
    (fun (optimal, warning, split, emergency, margin, limit, _) =>
      ⟨optimal, warning, split, emergency, margin, limit⟩)
    (fun b => (b.optimal, b.warning, b.splitTrigger, b.emergency, b.safetyMargin, b.hardLimit, ()))

end BudgetSettings

inductive StorageSettings where
  | inMemory
  | file (registryPath checkpointDir : String)
  deriving DecidableEq, Repr

namespace StorageSettings

/-- The storage settings stand one level inside a configuration. -/
def maxDepth : Nat := 126

def codec : Codec StorageSettings :=
  (Codec.tagged "kind" maxDepth
    (.cons "in_memory" .nil <|
    .cons "file" (.required "registry_path" .text <| .required "checkpoint_dir" .text .nil)
    .nil)).iso
    (fun
      | .inl _ => .inMemory
      | .inr (.inl (registry, checkpoints, _)) => .file registry checkpoints)
    (fun
      | .inMemory => .inl ()
      | .file registry checkpoints => .inr (.inl (registry, checkpoints, ())))

end StorageSettings

structure Config where
  concurrencyLimit : UInt64
  maxRetries : UInt32
  idleTimeoutSecs : UInt64
  budget : BudgetSettings
  storage : StorageSettings
  deriving DecidableEq, Repr

namespace Config

def standard : Config := ⟨3, 2, 1800, .standard, .inMemory⟩

/-- Every field may be missing. -/
def codec : Codec Config :=
  (Codec.record (.optional "concurrency_limit" .uint64 standard.concurrencyLimit <|
    .optional "max_retries" .uint32 standard.maxRetries <|
    .optional "idle_timeout_secs" .uint64 standard.idleTimeoutSecs <|
    .optional "budget" BudgetSettings.codec standard.budget <|
    .optional "storage" StorageSettings.codec standard.storage .nil)).iso
    (fun (concurrency, retries, idle, budget, storage, _) =>
      ⟨concurrency, retries, idle, budget, storage⟩)
    (fun c => (c.concurrencyLimit, c.maxRetries, c.idleTimeoutSecs, c.budget, c.storage, ()))

def limits (c : Config) : Limits :=
  ⟨c.concurrencyLimit, c.maxRetries, .ofSecs c.idleTimeoutSecs.toNat⟩

/-- Limits are looked at first, then the budget, then the storage. -/
def check (c : Config) : Except Refusal Unit := do
  c.limits.check
  let _ ← c.budget.budget
  match c.storage with
  | .inMemory => .ok ()
  | .file registry checkpoints =>
    if registry = "" ∨ checkpoints = "" then .error (.invalidConfig .noStoragePaths) else .ok ()

/-- A configuration as JSON, which must also pass its check. -/
def ofText (s : String) : Except Refusal Config := do
  match codec.decodeText s with
  | .error _ => .error (.invalidConfig .unreadable)
  | .ok c =>
    c.check
    .ok c

end Config

/-- Why an orchestrator cannot be set up, with what was being done when it failed. -/
inductive SetupError where
  | refusal (r : Refusal)
  | integer (fault : IntegerFault)
  | file
  | during (note : String) (cause : SetupError)

namespace SetupError

def noting {α : Type} (note : String) : Except Refusal α → Except SetupError α
  | .ok a => .ok a
  | .error r => .error (.during note (.refusal r))

def notes : SetupError → List String
  | during note cause => note :: cause.notes
  | _ => []

def root : SetupError → SetupError
  | during _ cause => cause.root
  | e => e

end SetupError

namespace Config

/-- A configuration from the file of that name, none where the file cannot be read. -/
def ofFile (name : String) (content : Option String) : Except SetupError Config :=
  match content with
  | none => .error (.during ("reading config file " ++ name) .file)
  | some s => SetupError.noting ("loading config " ++ name) (ofText s)

end Config

end BuildAdmission
