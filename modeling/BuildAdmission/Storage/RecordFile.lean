import BuildAdmission.Storage.Log

namespace BuildAdmission

/-- A file that holds the records of all units. It is replaced as a whole. -/
structure RecordFile where
  path : FilePath
  deriving DecidableEq

namespace RecordFile

/-- Opens the file. The directories that lead to it are made if they are missing. -/
def create (t : FileTree) (path : FilePath) : Except Refusal RecordFile × FileTree :=
  let (result, t) := t.makeDirectory path.parent
  ((result.mapError FileError.refusal).map fun _ => ⟨path⟩, t)

def draftPath (f : RecordFile) : FilePath := f.path ++ ".tmp"

/-- A file that is missing or blank holds no records. -/
def load (f : RecordFile) (t : FileTree) : Except Refusal (List WorkUnit) :=
  match t.read f.path with
  | .error .notFound => .ok []
  | .error e => .error e.refusal
  | .ok content =>
    match String.fromUTF8? content with
    | none => .error (.storage "registry is not valid text")
    | some s =>
      if s.toList.all isWhiteSpace then .ok []
      else
        match WorkUnit.codec.list.decodeText s with
        | .ok units => .ok units
        | .error _ => .error (.storage "failed to parse registry")

/-- Writes a draft beside the file and moves it over the file. If the move fails the draft stays. -/
def flush (f : RecordFile) (t : FileTree) (units : List WorkUnit) :
    Except Refusal Unit × FileTree :=
  match t.write f.draftPath (WorkUnit.codec.list.encode units).pretty.toUTF8 with
  | .error e => (.error e.refusal, t)
  | .ok drafted =>
    match drafted.rename f.draftPath f.path with
    | .error e => (.error e.refusal, drafted)
    | .ok moved => (.ok (), moved)

end RecordFile

end BuildAdmission
