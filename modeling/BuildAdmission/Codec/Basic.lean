import BuildAdmission.IdMap
import BuildAdmission.IdSet
import BuildAdmission.Json.Reader
import BuildAdmission.Json.Writer

namespace BuildAdmission

/-- Why a document is not a value of the type asked for. A unit level out of range is told apart
from every other fault. -/
inductive DecodeError where
  | malformed
  | levelOutOfRange (got : Nat)
  deriving DecidableEq, Repr

/-- The JSON form of a type. The first fault in reading order is the one reported. -/
structure Codec (α : Type) where
  encode : α → Json
  decode : Json → Except DecodeError α

namespace Codec

variable {α β : Type}

/-- What is written can be read back. -/
def Lossless (c : Codec α) : Prop := ∀ a, c.decode (c.encode a) = .ok a

def iso (c : Codec α) (f : α → β) (g : β → α) : Codec β where
  encode b := c.encode (g b)
  decode v := (c.decode v).map f

def text : Codec String where
  encode := .text
  decode
    | .text s => .ok s
    | _ => .error .malformed

def bool : Codec Bool where
  encode := .bool
  decode
    | .bool b => .ok b
    | _ => .error .malformed

def integer : Codec Int where
  encode := .int
  decode
    | .number n => n.toInt?.elim (.error .malformed) .ok
    | _ => .error .malformed

/-- Integers from `lo` up to but not including `hi`. -/
def range (lo hi : Int) (f : Int → α) (g : α → Int) : Codec α where
  encode a := .int (g a)
  decode v := do
    let i ← integer.decode v
    if lo ≤ i ∧ i < hi then .ok (f i) else .error .malformed

def uint32 : Codec UInt32 := range 0 UInt32.size (fun i => .ofNat i.toNat) (fun n => n.toNat)

def uint64 : Codec UInt64 := range 0 UInt64.size (fun i => .ofNat i.toNat) (fun n => n.toNat)

def int32 : Codec Int32 :=
  range Int32.minValue.toInt (Int32.maxValue.toInt + 1) Int32.ofInt Int32.toInt

/-- The number of values of 128 bits. -/
abbrev wideSize : Nat := 340282366920938463463374607431768211456

def wide : Codec (Fin wideSize) := range 0 wideSize (fun i => .ofNat _ i.toNat) (fun n => n.val)

def names [DecidableEq α] (name : α → String) (all : List α) : Codec α where
  encode a := .text (name a)
  decode
    | .text s => (all.find? (name · = s)).elim (.error .malformed) .ok
    | _ => .error .malformed

def option (c : Codec α) : Codec (Option α) where
  encode a := a.elim .null c.encode
  decode
    | .null => .ok none
    | v => (c.decode v).map some

def list (c : Codec α) : Codec (List α) where
  encode as := .array (as.map c.encode)
  decode
    | .array vs => vs.mapM c.decode
    | _ => .error .malformed

/-- A list of names, of which repetitions count once. -/
def idSet : Codec IdSet where
  encode s := .array (s.toList.map .text)
  decode v := (text.list.decode v).map IdSet.ofList

def decodeEntry (c : Codec α) : JsonName × Json → Except DecodeError (String × α)
  | (some name, v) => (c.decode v).map (name, ·)
  | (none, _) => .error .malformed

/-- An object whose keys are names; of two members with one name the later counts. -/
def idMap (c : Codec α) : Codec (IdMap α) where
  encode m := .object (m.entries.map fun e => (some e.1, c.encode e.2))
  decode
    | .object ms => (ms.mapM (decodeEntry c)).map IdMap.ofList
    | _ => .error .malformed

/-- A text must hold one value and nothing else. -/
def decodeText (c : Codec α) (s : String) : Except DecodeError α := do
  let doc := Json.read s
  let a ← c.decode doc.value
  if doc.complete then .ok a else .error .malformed

def encodeText (c : Codec α) (a : α) : String := (c.encode a).compress

end Codec

end BuildAdmission
