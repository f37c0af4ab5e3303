import BuildAdmission.Codec.Basic
import BuildAdmission.Text.Blank

namespace BuildAdmission

/-- A moment in UTC: a day, counted from 1970-01-01, the second of the day, and nanoseconds. From
`10 ^ 9` nanoseconds on the moment lies in the leap second that follows. -/
structure Timestamp where
  day : Int
  second : Nat
  nanos : Nat
  deriving DecidableEq, Repr

namespace Timestamp

def epoch : Timestamp := ⟨0, 0, 0⟩

def isLeapYear (year : Int) : Bool := year % 4 = 0 && (year % 100 ≠ 0 || year % 400 = 0)

def daysInMonth (year : Int) (month : Nat) : Nat :=
  if month = 2 then (if isLeapYear year then 29 else 28)
  else if month = 4 ∨ month = 6 ∨ month = 9 ∨ month = 11 then 30
  else 31

/-- Days since 1970-01-01. Years are counted from March, so that a leap day ends its year. -/
def dayOfDate (year : Int) (month day : Nat) : Int :=
  let y := if month ≤ 2 then year - 1 else year
  let m := (month + 9) % 12
  let dayOfYear := (153 * m + 2) / 5 + day - 1
  365 * y + Int.fdiv y 4 - Int.fdiv y 100 + Int.fdiv y 400 + dayOfYear - 719468

def dateOfDay (day : Int) : Int × Nat × Nat :=
  let z := day + 719468
  let era := Int.fdiv z 146097
  let dayOfEra := (z - era * 146097).toNat
  let yearOfEra := (dayOfEra - dayOfEra / 1460 + dayOfEra / 36524 - dayOfEra / 146096) / 365
  let dayOfYear := dayOfEra - (365 * yearOfEra + yearOfEra / 4 - yearOfEra / 100)
  let m := (5 * dayOfYear + 2) / 153
  let d := dayOfYear - (153 * m + 2) / 5 + 1
  let month := if m < 10 then m + 3 else m - 9
  let year := yearOfEra + era * 400
  (if month ≤ 2 then year + 1 else year, month, d)

def padded (width n : Nat) : String :=
  let ds := Nat.toDigits 10 n
  String.ofList (List.replicate (width - ds.length) '0' ++ ds)

/-- Years outside 0 to 9999 carry a sign. -/
def yearText (year : Int) : String :=
  if 0 ≤ year ∧ year ≤ 9999 then padded 4 year.toNat
  else (if year < 0 then "-" else "+") ++ padded 4 year.natAbs

/-- The fraction of a second in three, six or nine digits, the fewest that lose nothing. -/
def fractionText (nanos : Nat) : String :=
  if nanos = 0 then ""
  else if nanos % 1_000_000 = 0 then "." ++ padded 3 (nanos / 1_000_000)
  else if nanos % 1_000 = 0 then "." ++ padded 6 (nanos / 1_000)
  else "." ++ padded 9 nanos

def toText (t : Timestamp) : String :=
  let (year, month, day) := dateOfDay t.day
  let leap := t.nanos / 1_000_000_000
  yearText year ++ "-" ++ padded 2 month ++ "-" ++ padded 2 day ++ "T" ++
    padded 2 (t.second / 3600) ++ ":" ++ padded 2 (t.second / 60 % 60) ++ ":" ++
    padded 2 (t.second % 60 + leap) ++ fractionText (t.nanos % 1_000_000_000) ++ "Z"

/-- A number of one to `most` digits after blanks. -/
def readNat (most : Nat) (cs : List Char) : Option (Nat × List Char) :=
  let cs := trimStart cs
  let ds := (cs.take most).takeWhile Char.isDigit
  if ds = [] then none else some (Nat.ofDigitChars 10 ds 0, cs.drop ds.length)

/-- A year of four digits, or of any number of digits after a sign. -/
def readYear (cs : List Char) : Option (Int × List Char) :=
  match trimStart cs with
  | '-' :: c :: cs =>
    if c.isDigit then (readNat cs.length.succ (c :: cs)).map fun (n, rest) => (-(n : Int), rest)
    else none
  | '+' :: c :: cs =>
    if c.isDigit then (readNat cs.length.succ (c :: cs)).map fun (n, rest) => ((n : Int), rest)
    else none
  | cs => (readNat 4 cs).map fun (n, rest) => ((n : Int), rest)

def readMark (mark : Char) (cs : List Char) : Option (List Char) :=
  match trimStart cs with
  | c :: rest => if c = mark then some rest else none
  | [] => none

/-- Digits after a point; those after the ninth do not count. -/
def readFraction : List Char → Option (Nat × List Char)
  | '.' :: cs =>
    let ds := cs.takeWhile Char.isDigit
    if ds = [] then none
    else
      let kept := ds.take 9
      some (Nat.ofDigitChars 10 kept 0 * Nat.pow 10 (9 - kept.length), cs.drop ds.length)
  | cs => some (0, cs)

def isUtcName (a b c : Char) : Bool :=
  (a = 'U' || a = 'u') && (b = 'T' || b = 't') && (c = 'C' || c = 'c')

def readTwoDigits : List Char → Option (Nat × List Char)
  | a :: b :: rest =>
    if a.isDigit && b.isDigit then some (Nat.ofDigitChars 10 [a, b] 0, rest) else none
  | _ => none

/-- Hours and minutes to the east after a sign. -/
def readOffset (sign : Int) (cs : List Char) : Option (Int × List Char) := do
  let (hours, cs) ← readTwoDigits cs
  let cs := cs.dropWhile fun c => c = ':' || isWhiteSpace c
  let (minutes, cs) ← readTwoDigits cs
  if minutes < 60 ∧ hours < 24 then some (sign * (hours * 3600 + minutes * 60 : Nat), cs) else none

/-- Seconds to the east of UTC. -/
def readZone (cs : List Char) : Option (Int × List Char) :=
  match trimStart cs with
  | 'Z' :: rest => some (0, rest)
  | 'z' :: rest => some (0, rest)
  | '+' :: rest => readOffset 1 rest
  | '-' :: rest => readOffset (-1) rest
  | '−' :: rest => readOffset (-1) rest
  | a :: b :: c :: rest => if isUtcName a b c then some (0, rest) else none
  | _ => none

/-- The years whose days can be counted. -/
def yearInRange (year : Int) : Bool := -262143 ≤ year && year ≤ 262142

/-- Reads a date and a time of day with an offset from UTC. Blanks may stand between the parts,
and a blank may stand for the `T`. -/
def ofText? (s : String) : Option Timestamp := do
  let (year, cs) ← readYear s.toList
  let cs ← readMark '-' cs
  let (month, cs) ← readNat 2 cs
  let cs ← readMark '-' cs
  let (day, cs) ← readNat 2 cs
  let cs ← match cs with
    | c :: rest => if c = 'T' ∨ c = 't' ∨ c = ' ' then some rest else none
    | [] => none
  let (hour, cs) ← readNat 2 cs
  let cs ← readMark ':' cs
  let (minute, cs) ← readNat 2 cs
  let cs ← readMark ':' cs
  let (second, cs) ← readNat 2 cs
  let (nanos, cs) ← readFraction cs
  let (offset, cs) ← readZone cs
  if trimStart cs = [] ∧ yearInRange year ∧ 1 ≤ month ∧ month ≤ 12 ∧ 1 ≤ day ∧
      day ≤ daysInMonth year month ∧ hour < 24 ∧ minute < 60 ∧ second ≤ 60 then
    let clock : Int := (hour * 3600 + minute * 60 + min second 59 : Nat) - offset
    let t : Timestamp :=
      ⟨dayOfDate year month day + Int.fdiv clock 86400, (Int.fmod clock 86400).toNat,
        if second = 60 then nanos + 1_000_000_000 else nanos⟩
    if yearInRange (dateOfDay t.day).1 then some t else none
  else none

def codec : Codec Timestamp where
  encode t := .text t.toText
  decode
    | .text s => (ofText? s).elim (.error .malformed) .ok
    | _ => .error .malformed

end Timestamp

end BuildAdmission
