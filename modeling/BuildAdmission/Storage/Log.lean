import BuildAdmission.Checkpoint.Basic
import BuildAdmission.Files.Tree

namespace BuildAdmission

/-- A failed file operation, as the caller of a store sees it. -/
def FileError.refusal : FileError → Refusal
  | .notFound => .storage "no such file"
  | .refused => .storage "file access refused"

/-- A directory with one log for each unit. A log holds one checkpoint on each line. -/
structure LogDirectory where
  path : FilePath
  deriving DecidableEq

namespace LogDirectory

/-- Opens the directory, which is made if it is missing. -/
def create (t : FileTree) (path : FilePath) : Except Refusal LogDirectory × FileTree :=
  let (result, t) := t.makeDirectory path
  ((result.mapError FileError.refusal).map fun _ => ⟨path⟩, t)

/-- The characters of a unit's name that a file name keeps. -/
def keepsChar (c : Char) : Bool := c.isAlphanum || c = '-' || c = '_' || c = '.'

def fileName (id : UnitId) : String :=
  String.ofList (id.toList.map fun c => if keepsChar c then c else '_') ++ ".jsonl"

def filePath (d : LogDirectory) (id : UnitId) : FilePath := d.path.join (fileName id)

/-- The checkpoints on the lines of a text. Lines that hold none are passed over. -/
def checkpointsIn (s : String) : List Checkpoint :=
  (splitText '\n' s).filterMap fun line => (Checkpoint.codec.decodeText line).toOption

def sortByIteration (cs : List Checkpoint) : List Checkpoint :=
  cs.mergeSort fun a b => a.iteration ≤ b.iteration

def checkpointsOf (content : ByteArray) : Except Refusal (List Checkpoint) :=
  match String.fromUTF8? content with
  | some s => .ok (checkpointsIn s)
  | none => .error (.storage "log is not valid text")

variable (d : LogDirectory) (t : FileTree)

/-- All checkpoints in the log file that the unit may share with others. -/
def readAll (id : UnitId) : Except Refusal (Option (List Checkpoint)) :=
  match t.read (d.filePath id) with
  | .ok content => (checkpointsOf content).map some
  | .error .notFound => .ok none
  | .error e => .error e.refusal

/-- The unit's checkpoints by iteration; of equals the one written later comes later. -/
def history (id : UnitId) : Except Refusal (List Checkpoint) := do
  let all ← d.readAll t id
  .ok (sortByIteration ((all.getD []).filter (·.unitId = id)))

def latest? (id : UnitId) : Except Refusal (Option Checkpoint) :=
  (d.history t id).map (·.getLast?)

def line (c : Checkpoint) : String := Checkpoint.codec.encodeText c ++ "\n"

def save (c : Checkpoint) : Except Refusal FileTree := do
  let latest ← d.latest? t c.unitId
  Checkpoint.checkNewer c.unitId c.iteration (Checkpoint.iterationOf latest)
  match t.append (d.filePath c.unitId) (line c).toUTF8 with
  | .ok t => .ok t
  | .error e => .error e.refusal

/-- Drops the unit's checkpoints. Those of other units stay, and without any the file goes. -/
def deleteAll (id : UnitId) : Except Refusal FileTree := do
  match ← d.readAll t id with
  | none => .ok t
  | some all =>
    let others := all.filter (·.unitId ≠ id)
    let changed :=
      if others.isEmpty then t.remove (d.filePath id)
      else t.write (d.filePath id) (String.join (others.map line)).toUTF8
    match changed with
    | .ok t => .ok t
    | .error e => .error e.refusal

end LogDirectory

end BuildAdmission
