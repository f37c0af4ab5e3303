import BuildAdmission.Codec.Basic
import BuildAdmission.Decimal.Shortest

namespace BuildAdmission

structure Duration where
  nanos : Nat
  deriving DecidableEq, Repr

namespace Duration

def ofSecs (n : Nat) : Duration := ⟨n * 1_000_000_000⟩

def secs (d : Duration) : Nat := d.nanos / 1_000_000_000

def subsecNanos (d : Duration) : Nat := d.nanos % 1_000_000_000

/-- The digits after the point of `n / 10 ^ places`, without zeros at the end. -/
def fractionDigits (places n : Nat) : List Char :=
  let ds := Nat.toDigits 10 n
  let ds := List.replicate (places - ds.length) '0' ++ ds
  (ds.reverse.dropWhile (· = '0')).reverse

def inUnit (places : Nat) (unit : String) (nanos : Nat) : String :=
  let fraction := fractionDigits places (nanos % Nat.pow 10 places)
  toString (nanos / Nat.pow 10 places) ++
    (if fraction = [] then "" else "." ++ String.ofList fraction) ++ unit

/-- The span in the largest of seconds, milliseconds, microseconds and nanoseconds of which it
holds one. -/
def describe (d : Duration) : String :=
  if 1_000_000_000 ≤ d.nanos then inUnit 9 "s" d.nanos
  else if 1_000_000 ≤ d.nanos then inUnit 6 "ms" d.nanos
  else if 1_000 ≤ d.nanos then inUnit 3 "µs" d.nanos
  else inUnit 0 "ns" d.nanos

/-- The whole span in seconds, with `n / 10 ^ 9` for the part below a second, in doubles. -/
def toBinary64 (d : Duration) : Binary64 :=
  let part := (Binary64.ofNat d.subsecNanos).div (Binary64.powerOfTen 9)
  ((Binary64.ofNat d.secs).add? part).getD .zero

/-- Seconds rounded to whole nanoseconds, ties to even; none from `2 ^ 64` seconds on. -/
def ofBinary64? (x : Binary64) : Option Duration :=
  let (n, d) := x.toRatio
  if d * UInt64.size ≤ n then none else some ⟨roundHalfEven (n * 1_000_000_000) d⟩

/-- Numbers from `1e-5` up to `1e16` are written with a point, others with an exponent. -/
def layout (x : Scaled) : JsonNumber :=
  let ds := JsonNumber.digits x.digits
  let lead : Int := x.exponent + ds.length - 1
  if lead < -5 ∨ 16 ≤ lead then
    ⟨false, ds.headD 0, ds.tail, some lead⟩
  else if lead < 0 then
    ⟨false, 0, List.replicate (-lead - 1).toNat 0 ++ ds, none⟩
  else if 0 ≤ x.exponent then
    ⟨false, x.digits * Nat.pow 10 x.exponent.toNat, [0], none⟩
  else
    let places := (-x.exponent).toNat
    ⟨false, x.digits / Nat.pow 10 places, ds.drop (ds.length - places), none⟩

def toNumber (d : Duration) : JsonNumber :=
  let x := d.toBinary64
  if x.isZero then ⟨false, 0, [0], none⟩ else layout x.shortest

/-- Seconds that are not below zero, minus zero included. -/
def ofNumber? (n : JsonNumber) : Option Duration := do
  let x ← n.toBinary64?
  if n.negative ∧ !x.isZero then none else ofBinary64? x

/-- A span is written as its seconds. Spans that differ by less than the seconds can show are
written alike. -/
def codec : Codec Duration where
  encode d := .number d.toNumber
  decode
    | .number n => (ofNumber? n).elim (.error .malformed) .ok
    | _ => .error .malformed

end Duration

end BuildAdmission
