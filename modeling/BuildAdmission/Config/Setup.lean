import BuildAdmission.Config.Basic
import BuildAdmission.Scheduler.Restore

namespace BuildAdmission

namespace Config

def checked (c : Config) : Except SetupError Unit :=
  SetupError.noting "invalid orchestrator config" c.check

/-- Opens the storage that a configuration names. What was made on the way stays if that fails. -/
def openStorage (c : Config) (t : FileTree) : Except SetupError Vault × FileTree :=
  match c.storage with
  | .inMemory => (.ok (.memory .empty (.ofUnits [])), t)
  | .file registry checkpoints =>
    match LogDirectory.create t checkpoints with
    | (.error r, t) => (SetupError.noting ("opening checkpoints at " ++ checkpoints) (.error r), t)
    | (.ok logs, t) =>
      match RecordFile.create t registry with
      | (.error r, t) => (SetupError.noting ("opening registry at " ++ registry) (.error r), t)
      | (.ok records, t) => (.ok (.files t logs records), t)

variable {σ : Type} [Storage σ]

/-- A scheduler with the configured limits and budget for the units that the storage has on record. -/
def restore (c : Config) : ExceptT SetupError (StateM σ) Scheduler := fun storage =>
  match c.budget.budget with
  | .error r => (.error (.refusal r), storage)
  | .ok budget =>
    let (result, storage) := (Scheduler.restore c.limits budget).run storage
    (SetupError.noting "restoring scheduler state" result, storage)

end Config

end BuildAdmission
