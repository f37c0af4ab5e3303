import BuildAdmission.Json.Basic

namespace BuildAdmission

namespace Json

def isBlank (c : Char) : Bool := c = ' ' || c = '\n' || c = '\t' || c = '\r'

def skipBlanks (cs : List Char) : List Char := cs.dropWhile isBlank

def digitValues (cs : List Char) : List Nat := cs.map (fun c => c.toNat - '0'.toNat)

/-- The digits at the front and what follows them. -/
def spanDigits (cs : List Char) : List Char × List Char :=
  (cs.takeWhile Char.isDigit, cs.dropWhile Char.isDigit)

/-- A lone zero, or digits that do not begin with zero. -/
def readWhole (cs : List Char) : Option (Nat × List Char) :=
  match spanDigits cs with
  | ([], _) => none
  | (['0'], rest) => some (0, rest)
  | ('0' :: _, _) => none
  | (ds, rest) => some (Nat.ofDigitChars 10 ds 0, rest)

def readFraction : List Char → Option (List Nat × List Char)
  | '.' :: cs =>
    match spanDigits cs with
    | ([], _) => none
    | (ds, rest) => some (digitValues ds, rest)
  | cs => some ([], cs)

def readExponentDigits (sign : Int) (cs : List Char) : Option (Option Int × List Char) :=
  match spanDigits cs with
  | ([], _) => none
  | (ds, rest) => some (some (sign * Nat.ofDigitChars 10 ds 0), rest)

def readExponentSign : List Char → Option (Option Int × List Char)
  | '+' :: cs => readExponentDigits 1 cs
  | '-' :: cs => readExponentDigits (-1) cs
  | cs => readExponentDigits 1 cs

def readExponent : List Char → Option (Option Int × List Char)
  | 'e' :: cs => readExponentSign cs
  | 'E' :: cs => readExponentSign cs
  | cs => some (none, cs)

def readUnsigned (negative : Bool) (cs : List Char) : Option (JsonNumber × List Char) := do
  let (whole, cs) ← readWhole cs
  let (fraction, cs) ← readFraction cs
  let (exponent, cs) ← readExponent cs
  return (⟨negative, whole, fraction, exponent⟩, cs)

def readNumber : List Char → Option (JsonNumber × List Char)
  | '-' :: cs => readUnsigned true cs
  | cs => readUnsigned false cs

def hexValue (c : Char) : Option Nat :=
  if c.isDigit then some (c.toNat - '0'.toNat)
  else if 'a' ≤ c ∧ c ≤ 'f' then some (c.toNat - 'a'.toNat + 10)
  else if 'A' ≤ c ∧ c ≤ 'F' then some (c.toNat - 'A'.toNat + 10)
  else none

def hexUnit (a b c d : Char) : Option Nat := do
  return 4096 * (← hexValue a) + 256 * (← hexValue b) + 16 * (← hexValue c) + (← hexValue d)

def isHighSurrogate (n : Nat) : Bool := 0xD800 ≤ n && n < 0xDC00

def isLowSurrogate (n : Nat) : Bool := 0xDC00 ≤ n && n < 0xE000

def shortEscape : Char → Option Char
  | '"' => some '"'
  | '\\' => some '\\'
  | '/' => some '/'
  | 'b' => some '\x08'
  | 'f' => some '\x0c'
  | 'n' => some '\n'
  | 'r' => some '\r'
  | 't' => some '\t'
  | _ => none

/-- What stands in a string: a character, or half of a surrogate pair. -/
inductive Piece where
  | char (c : Char)
  | half (n : Nat)
  | stop
  deriving DecidableEq

/-- One piece of a string and what follows it, none where the text is no string. -/
def readPiece : List Char → Option (Piece × List Char)
  | '"' :: cs => some (.stop, cs)
  | '\\' :: 'u' :: a :: b :: c :: d :: cs => do
    let n ← hexUnit a b c d
    if isHighSurrogate n || isLowSurrogate n then some (.half n, cs)
    else some (.char (Char.ofNat n), cs)
  | '\\' :: e :: cs => (shortEscape e).map (fun c => (.char c, cs))
  | '\\' :: [] => none
  | c :: cs => if c.toNat < 32 then none else some (.char c, cs)
  | [] => none

/-- The pieces up to the closing quote and what follows it. -/
def readPieces : Nat → List Char → Option (List Piece × List Char)
  | 0, _ => none
  | fuel + 1, cs => do
    match ← readPiece cs with
    | (.stop, rest) => return ([], rest)
    | (p, rest) =>
      let (ps, rest) ← readPieces fuel rest
      return (p :: ps, rest)

/-- A high half followed by a low half makes a character; any other half spells none. -/
def joinPieces : List Piece → Option (List Char)
  | [] => some []
  | .char c :: ps => (joinPieces ps).map (c :: ·)
  | .half h :: .half l :: ps =>
    if isHighSurrogate h && isLowSurrogate l then
      (joinPieces ps).map (Char.ofNat (0x10000 + (h - 0xD800) * 0x400 + (l - 0xDC00)) :: ·)
    else none
  | _ => none

def readText (fuel : Nat) (cs : List Char) : Option (Option String × List Char) := do
  let (ps, rest) ← readPieces fuel cs
  return ((joinPieces ps).map String.ofList, rest)

mutual

def readValue : Nat → List Char → Json × Option (List Char)
  | 0, _ => (.cut, none)
  | fuel + 1, cs =>
    match skipBlanks cs with
    | 'n' :: 'u' :: 'l' :: 'l' :: rest => (.null, some rest)
    | 't' :: 'r' :: 'u' :: 'e' :: rest => (.bool true, some rest)
    | 'f' :: 'a' :: 'l' :: 's' :: 'e' :: rest => (.bool false, some rest)
    | '"' :: rest =>
      match readText fuel rest with
      | some (some s, rest) => (.text s, some rest)
      | some (none, rest) => (.loneSurrogate, some rest)
      | none => (.cut, none)
    | '[' :: rest =>
      match skipBlanks rest with
      | ']' :: rest => (.array [], some rest)
      | rest =>
        let (vs, rest) := readItems fuel rest
        (.array vs, rest)
    | '{' :: rest =>
      match skipBlanks rest with
      | '}' :: rest => (.object [], some rest)
      | rest =>
        let (ms, rest) := readMembers fuel rest
        (.object ms, rest)
    | rest =>
      match readNumber rest with
      | some (n, rest) => (.number n, some rest)
      | none => (.cut, none)

def readItems : Nat → List Char → List Json × Option (List Char)
  | 0, _ => ([.cut], none)
  | fuel + 1, cs =>
    match readValue fuel cs with
    | (v, none) => ([v], none)
    | (v, some rest) =>
      match skipBlanks rest with
      | ']' :: rest => ([v], some rest)
      | ',' :: rest =>
        let (vs, rest) := readItems fuel rest
        (v :: vs, rest)
      | _ => ([v, .cut], none)

def readMembers : Nat → List Char → List (JsonName × Json) × Option (List Char)
  | 0, _ => ([(none, .cut)], none)
  | fuel + 1, cs =>
    match skipBlanks cs with
    | '"' :: rest =>
      match readText fuel rest with
      | some (name, rest) =>
        match skipBlanks rest with
        | ':' :: rest =>
          match readValue fuel rest with
          | (v, none) => ([(name, v)], none)
          | (v, some rest) =>
            match skipBlanks rest with
            | '}' :: rest => ([(name, v)], some rest)
            | ',' :: rest =>
              let (ms, rest) := readMembers fuel rest
              ((name, v) :: ms, rest)
            | _ => ([(name, v), (none, .cut)], none)
        | _ => ([(none, .cut)], none)
      | none => ([(none, .cut)], none)
    | _ => ([(none, .cut)], none)

end

/-- A text read as JSON: its value and whether only blanks follow it. -/
structure Document where
  value : Json
  complete : Bool

def read (s : String) : Document :=
  let cs := s.toList
  match readValue (2 * cs.length + 2) cs with
  | (v, some rest) => ⟨v, (skipBlanks rest).isEmpty⟩
  | (v, none) => ⟨v, false⟩

end Json

end BuildAdmission
