namespace BuildAdmission

/-- The parts of a text between the marks. -/
def splitText (mark : Char) (s : String) : List String :=
  (s.toList.splitOn mark).map String.ofList

abbrev FilePath := String

namespace FilePath

/-- A part of a path: a name, the place itself, or the directory that holds it. -/
inductive Step where
  | name (s : String)
  | here
  | up
  deriving DecidableEq

namespace Step

def ofText (s : String) : Step := if s = "." then here else if s = ".." then up else name s

def toText : Step → String
  | name s => s
  | here => "."
  | up => ".."

end Step

/-- The parts between slashes. Empty ones say nothing. -/
def steps (path : FilePath) : List Step :=
  ((splitText '/' path).filter (· ≠ "")).map .ofText

def ofSteps (steps : List Step) : FilePath := "/".intercalate (steps.map Step.toText)

def endsInSlash (path : FilePath) : Bool := path.toList.getLast? = some '/'

def join (dir name : FilePath) : FilePath :=
  if dir = "" ∨ dir.endsInSlash then dir ++ name else dir ++ "/" ++ name

def trimSteps (steps : List Step) : List Step := (steps.reverse.dropWhile (· = .here)).reverse

/-- The way without its last name. Dots at its end do not count. -/
def parentSteps (path : FilePath) : List Step := trimSteps (trimSteps path.steps).dropLast

def parent (path : FilePath) : FilePath := ofSteps path.parentSteps

def maxBytes : Nat := 4095

/-- Names are at most 255 bytes long. -/
def maxNameBytes : Nat := 255

def isUsable (path : FilePath) : Bool :=
  path.utf8ByteSize ≤ maxBytes && !path.toList.contains (Char.ofNat 0)

end FilePath

end BuildAdmission
