import BuildAdmission.Files.Path
import BuildAdmission.IdMap

namespace BuildAdmission

inductive FileNode where
  | file (content : ByteArray)
  | directory

/-- Why a file operation fails. Only the first is told apart. -/
inductive FileError where
  | notFound
  | refused
  deriving DecidableEq, Repr

/-- The names that lead from the working directory to a file or directory. Only in front may there be
double dots, each of which leads out of a directory. -/
abbrev Place := List String

namespace Place

def isAround (place : Place) : Bool := place.all (· = "..")

def up (place : Place) : Place := if place.isAround then place ++ [".."] else place.dropLast

end Place

/-- A tree of files. Paths start from the working directory, which is always there, as are those
around it. -/
structure FileTree where
  nodes : IdMap FileNode

namespace FileTree

def empty : FileTree := ⟨∅⟩

instance : Inhabited FileTree := ⟨empty⟩

def key (place : Place) : String := "/".intercalate place

def node? (t : FileTree) (place : Place) : Option FileNode :=
  if place.isAround then some .directory else t.nodes.find? (key place)

def put (t : FileTree) (place : Place) (node : FileNode) : FileTree :=
  ⟨t.nodes.insert (key place) node⟩

def erase (t : FileTree) (place : Place) : FileTree := ⟨t.nodes.erase (key place)⟩

/-- The place to which steps lead. Each is taken from a directory. -/
def follow (t : FileTree) (place : Place) : List FilePath.Step → Except FileError Place
  | [] => .ok place
  | step :: rest =>
    match t.node? place, step with
    | none, _ => .error .notFound
    | some (.file _), _ => .error .refused
    | some .directory, .here => t.follow place rest
    | some .directory, .up => t.follow place.up rest
    | some .directory, .name s =>
      if FilePath.maxNameBytes < s.utf8ByteSize then .error .refused
      else t.follow (place ++ [s]) rest

/-- The place that a path names, whether anything is there or not. -/
def locate (t : FileTree) (path : FilePath) : Except FileError Place :=
  if path = "" then .error .notFound
  else if path.isUsable then t.follow [] path.steps
  else .error .refused

/-- What is at a path. With a slash at its end it names a directory. -/
def find (t : FileTree) (path : FilePath) : Except FileError FileNode := do
  match t.node? (← t.locate path) with
  | none => .error .notFound
  | some .directory => .ok .directory
  | some (.file content) => if path.endsInSlash then .error .refused else .ok (.file content)

def read (t : FileTree) (path : FilePath) : Except FileError ByteArray := do
  match ← t.find path with
  | .file content => .ok content
  | .directory => .error .refused

/-- The place of a file to be written and what it holds so far. -/
def openFile (t : FileTree) (path : FilePath) : Except FileError (Place × ByteArray) := do
  let place ← t.locate path
  if path.endsInSlash then .error .refused
  else
    match t.node? place with
    | none => .ok (place, .empty)
    | some (.file content) => .ok (place, content)
    | some .directory => .error .refused

def write (t : FileTree) (path : FilePath) (content : ByteArray) : Except FileError FileTree := do
  let (place, _) ← t.openFile path
  .ok (t.put place (.file content))

def append (t : FileTree) (path : FilePath) (content : ByteArray) : Except FileError FileTree := do
  let (place, old) ← t.openFile path
  .ok (t.put place (.file (old ++ content)))

def remove (t : FileTree) (path : FilePath) : Except FileError FileTree := do
  let _ ← t.read path
  .ok (t.erase (← t.locate path))

def rename (t : FileTree) (source target : FilePath) : Except FileError FileTree := do
  let content ← t.read source
  let old ← t.locate source
  let (new, _) ← t.openFile target
  .ok ((t.erase old).put new (.file content))

/-- Makes the directories that are missing on the way. Those made before a fault stay. -/
def makeAlong (t : FileTree) (place : Place) :
    List FilePath.Step → Except FileError Unit × FileTree
  | [] => (.ok (), t)
  | .here :: rest => t.makeAlong place rest
  | .up :: rest => t.makeAlong place.up rest
  | .name s :: rest =>
    let next := place ++ [s]
    if FilePath.maxNameBytes < s.utf8ByteSize then (.error .refused, t)
    else
      match t.node? next with
      | some .directory => t.makeAlong next rest
      | some (.file _) => (.error .refused, t)
      | none => (t.put next .directory).makeAlong next rest

def findDirectory (t : FileTree) (path : FilePath) : Except FileError Unit := do
  match ← t.find path with
  | .directory => .ok ()
  | .file _ => .error .refused

/-- Makes a directory and those that lead to it. A directory that a path names by a dot at its end
must be there. -/
def makeDirectory (t : FileTree) (path : FilePath) : Except FileError Unit × FileTree :=
  if !path.isUsable then (.error .refused, t)
  else if path.steps.getLast? = some .here then
    match t.makeAlong [] path.parentSteps with
    | (.ok (), t) => (t.findDirectory path, t)
    | failed => failed
  else t.makeAlong [] path.steps

def list (t : FileTree) (path : FilePath) : List (String × FileNode) :=
  match t.findDirectory path, t.locate path with
  | .ok (), .ok place =>
    t.nodes.entries.filterMap fun (key, node) =>
      let names := splitText '/' key
      if names.dropLast = place then names.getLast?.map (·, node) else none
  | _, _ => []

end FileTree

end BuildAdmission
