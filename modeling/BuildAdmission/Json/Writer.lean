import BuildAdmission.Json.Basic

namespace BuildAdmission

namespace JsonNumber

def signedDigits : Int → List Char
  | .ofNat n => '+' :: Nat.toDigits 10 n
  | .negSucc n => '-' :: Nat.toDigits 10 (n + 1)

/-- An exponent is written with its sign. -/
def write (n : JsonNumber) : List Char :=
  (if n.negative then ['-'] else []) ++ Nat.toDigits 10 n.whole ++
    (if n.fraction = [] then [] else '.' :: n.fraction.map Nat.digitChar) ++
    match n.exponent with
    | none => []
    | some e => 'e' :: signedDigits e

end JsonNumber

namespace Json

/-- Control characters without a short escape take four hexadecimal digits. -/
def writeChar (c : Char) : List Char :=
  if c = '"' then ['\\', '"']
  else if c = '\\' then ['\\', '\\']
  else if c = '\n' then ['\\', 'n']
  else if c = '\r' then ['\\', 'r']
  else if c = '\t' then ['\\', 't']
  else if c = '\x08' then ['\\', 'b']
  else if c = '\x0c' then ['\\', 'f']
  else if c.toNat < 32 then
    ['\\', 'u', '0', '0', Nat.digitChar (c.toNat / 16), Nat.digitChar (c.toNat % 16)]
  else [c]

def writeText (s : String) : List Char :=
  '"' :: s.toList.flatMap writeChar ++ ['"']

def loneSurrogateText : List Char := "\"\\ud800\"".toList

def writeName : JsonName → List Char
  | some name => writeText name
  | none => loneSurrogateText

def writeAtom : Json → List Char
  | .null => "null".toList
  | .bool true => "true".toList
  | .bool false => "false".toList
  | .number n => n.write
  | .text s => writeText s
  | .loneSurrogate => loneSurrogateText
  | _ => []

mutual

/-- The text without any blanks. -/
def write : Json → List Char
  | .array items => '[' :: writeItems items
  | .object members => '{' :: writeMembers members
  | v => writeAtom v

def writeItems : List Json → List Char
  | [] => [']']
  | v :: vs => write v ++ writeMoreItems vs

def writeMoreItems : List Json → List Char
  | [] => [']']
  | v :: vs => ',' :: write v ++ writeMoreItems vs

def writeMembers : List (JsonName × Json) → List Char
  | [] => ['}']
  | (name, v) :: ms => writeName name ++ ':' :: write v ++ writeMoreMembers ms

def writeMoreMembers : List (JsonName × Json) → List Char
  | [] => ['}']
  | (name, v) :: ms => ',' :: writeName name ++ ':' :: write v ++ writeMoreMembers ms

end

def compress (v : Json) : String := String.ofList (write v)

/-- A new line and two blanks for each level. -/
def newLine (depth : Nat) : List Char := '\n' :: List.replicate (2 * depth) ' '

mutual

/-- The text with one item on each line. Empty lists and objects stay on theirs. -/
def writePretty (depth : Nat) : Json → List Char
  | .array [] => ['[', ']']
  | .array (v :: vs) => '[' :: prettyItems (depth + 1) (v :: vs) ++ newLine depth ++ [']']
  | .object [] => ['{', '}']
  | .object (m :: ms) => '{' :: prettyMembers (depth + 1) (m :: ms) ++ newLine depth ++ ['}']
  | v => writeAtom v

def prettyItems (depth : Nat) : List Json → List Char
  | [] => []
  | v :: vs => newLine depth ++ writePretty depth v ++ prettyMoreItems depth vs

def prettyMoreItems (depth : Nat) : List Json → List Char
  | [] => []
  | v :: vs => ',' :: newLine depth ++ writePretty depth v ++ prettyMoreItems depth vs

def prettyMembers (depth : Nat) : List (JsonName × Json) → List Char
  | [] => []
  | (name, v) :: ms =>
    newLine depth ++ writeName name ++ ':' :: ' ' :: writePretty depth v ++ prettyMoreMembers depth ms

def prettyMoreMembers (depth : Nat) : List (JsonName × Json) → List Char
  | [] => []
  | (name, v) :: ms =>
    ',' :: newLine depth ++ writeName name ++ ':' :: ' ' :: writePretty depth v ++
      prettyMoreMembers depth ms

end

def pretty (v : Json) : String := String.ofList (writePretty 0 v)

end Json

end BuildAdmission
