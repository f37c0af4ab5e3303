import BuildAdmission.Config.Environment
import BuildAdmission.Text.Alphanumeric

/-!
A reader of settings files, so that the program can be run with one. The configuration takes any
loader in its place, and what is proved of it does not depend on this one.
-/

namespace BuildAdmission

namespace SettingsFile

inductive Quote where
  | single
  | double
  deriving DecidableEq

def Quote.char : Quote → Char
  | single => '\''
  | double => '"'

inductive Scan where
  | text
  | blank
  | escape
  | inside (quote : Quote)
  | insideEscape (quote : Quote)
  deriving DecidableEq

namespace Scan

def start (c : Char) : Scan :=
  if c = '\\' then .escape
  else if c = '"' then .inside .double
  else if c = '\'' then .inside .single
  else .text

def next : Scan → Char → Scan
  | text, c => if isWhiteSpace c ∧ c ≠ '\n' ∧ c ≠ '\r' then .blank else start c
  | blank, c => start c
  | escape, _ => .text
  | inside quote, c =>
    if c = '\\' then .insideEscape quote else if c = quote.char then .text else .inside quote
  | insideEscape quote, _ => .inside quote

end Scan

/-- The part of a line before a comment, and where the search stands at its end; no place if there
is a comment. A comment follows a single blank. -/
def scanLine (s : Scan) : List Char → List Char × Option Scan
  | [] => ([], some s)
  | c :: cs =>
    if s = .blank ∧ c = '#' then ([], none)
    else
      let (kept, last) := scanLine (s.next c) cs
      (c :: kept, last)

/-- The lines of a text, each with the line feed that ends it. -/
def splitLines : List Char → List (List Char)
  | [] => []
  | '\n' :: cs => ['\n'] :: splitLines cs
  | c :: cs =>
    match splitLines cs with
    | [] => [[c]]
    | line :: rest => (c :: line) :: rest

/-- Joins a line that ends inside quotes, in a blank or in an escape to the next. Comments are left
out, and so is a last line that would have to go on. -/
def joinLines (pending : List Char) (s : Scan) : List (List Char) → List (List Char)
  | [] => []
  | line :: rest =>
    if (trimStart (pending ++ line)).head? = some '#' then joinLines [] .text rest
    else
      match scanLine s line with
      | (kept, none) => (pending ++ kept) :: joinLines [] .text rest
      | (_, some .text) => (pending ++ line) :: joinLines [] .text rest
      | (_, some s) => joinLines (pending ++ line) s rest

/-- A mark of the byte order may stand in front. -/
def lines (content : String) : List (List Char) :=
  match content.toList with
  | '\uFEFF' :: cs => joinLines [] .text (splitLines cs)
  | cs => joinLines [] .text (splitLines cs)

/-- How a value is read on: as text, perhaps in double quotes; after a backslash there; in single
quotes; in the name of a variable, which follows a dollar sign, perhaps in braces; or after its end. -/
inductive Reading where
  | text (quoted : Bool)
  | escape (quoted : Bool)
  | single
  | name (quoted : Bool) (name : List Char)
  | braced (quoted : Bool) (name : List Char)
  | ended
  deriving DecidableEq

def escaped? (c : Char) : Option Char :=
  if c = '\\' ∨ c = '\'' ∨ c = '"' ∨ c = '$' ∨ c = ' ' then some c
  else if c = 'n' then some '\n'
  else none

def isSpacing (c : Char) : Bool := c = ' ' || c = '\t'

/-- The value on a line, with variables replaced by what they hold. It ends at a blank outside
quotes, after which only a comment may follow. The character that ends the name of a variable
stands for itself. -/
def readValue (valueOf : List Char → List Char) : Reading → List Char → Option (List Char)
  | .text quoted, [] => if quoted then none else some []
  | .escape quoted, [] => if quoted then none else some []
  | .single, [] => none
  | .name quoted name, [] => if quoted then none else some (valueOf name)
  | .braced _ _, [] => none
  | .ended, [] => some []
  | .text quoted, c :: cs =>
    if c = '$' then readValue valueOf (.name quoted []) cs
    else if c = '\\' then readValue valueOf (.escape quoted) cs
    else if c = '"' then readValue valueOf (.text !quoted) cs
    else if !quoted && c = '\'' then readValue valueOf .single cs
    else if !quoted && isSpacing c then readValue valueOf .ended cs
    else (readValue valueOf (.text quoted) cs).map (c :: ·)
  | .escape quoted, c :: cs => do
    let e ← escaped? c
    (readValue valueOf (.text quoted) cs).map (e :: ·)
  | .single, c :: cs =>
    if c = '\'' then readValue valueOf (.text false) cs
    else (readValue valueOf .single cs).map (c :: ·)
  | .name quoted name, c :: cs =>
    if isAlphanumeric c then readValue valueOf (.name quoted (name ++ [c])) cs
    else if c = '\x7b' ∧ name = [] then readValue valueOf (.braced quoted []) cs
    else if c = '$' then (readValue valueOf (.name quoted []) cs).map (valueOf name ++ ·)
    else (readValue valueOf (.text quoted) cs).map (valueOf name ++ c :: ·)
  | .braced quoted name, c :: cs =>
    if c = '\x7d' then (readValue valueOf (.text quoted) cs).map (valueOf name ++ ·)
    else readValue valueOf (.braced quoted (name ++ [c])) cs
  | .ended, c :: cs =>
    if isSpacing c then readValue valueOf .ended cs else if c = '#' then some [] else none

def isKeyStart (c : Char) : Bool := c.isAlpha || c = '_'

def isKeyChar (c : Char) : Bool := c.isAlphanum || c = '_' || c = '.'

inductive Entry where
  | blank
  | setting (key value : String)
  | malformed
  deriving DecidableEq

def readSetting (valueOf : List Char → List Char) (key cs : List Char) : Entry :=
  match trimStart cs with
  | '=' :: cs =>
    match trimStart cs with
    | '#' :: _ => .setting (String.ofList key) ""
    | cs =>
      (readValue valueOf (.text false) cs).elim .malformed fun value =>
        .setting (String.ofList key) (String.ofList value)
  | _ => .malformed

/-- A line sets a variable, or is blank or a comment. `export` may stand before the name. -/
def readLine (valueOf : List Char → List Char) (line : List Char) : Entry :=
  match trim line with
  | [] => .blank
  | '#' :: _ => .blank
  | cs =>
    let key := cs.takeWhile isKeyChar
    let rest := cs.dropWhile isKeyChar
    if !key.head?.any isKeyStart then .malformed
    else if key = "export".toList then
      match trimStart rest with
      | c :: cs =>
        if isKeyStart c then
          readSetting valueOf ((c :: cs).takeWhile isKeyChar) ((c :: cs).dropWhile isKeyChar)
        else if c = '=' then readSetting valueOf key (c :: cs)
        else .malformed
      | [] => .malformed
    else readSetting valueOf key rest

end SettingsFile

namespace Environment

/-- What a variable holds; nothing if it is not set. A name is looked up in the list of the
`name=value` texts, so one that goes on after an equals sign asks how the value goes on. -/
def valueOf (env : Environment) (name : List Char) : List Char :=
  let value := ((env.find? (String.ofList (name.takeWhile (· ≠ '=')))).getD "").toList
  match name.dropWhile (· ≠ '=') with
  | [] => value
  | _ :: start =>
    let start := start ++ ['=']
    if start.isPrefixOf value then value.drop start.length else []

def addMissing (env : Environment) (key value : String) : Environment :=
  if env.contains key then env else env.insert key value

/-- Takes in the lines of a settings file up to the first malformed one. A line may use what those
before it set. -/
def addLines (env : Environment) : List (List Char) → Environment
  | [] => env
  | line :: rest =>
    match SettingsFile.readLine env.valueOf line with
    | .blank => env.addLines rest
    | .setting key value => (env.addMissing key value).addLines rest
    | .malformed => env

end Environment

/-- Takes in a settings file with this content. -/
def SettingsFile.load (content : String) (env : Environment) : Environment :=
  env.addLines (lines content)

end BuildAdmission
