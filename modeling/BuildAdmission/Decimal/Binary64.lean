import BuildAdmission.Json.Basic

namespace BuildAdmission

/-- A finite double without its sign: `mantissa * 2 ^ exponent`, with `mantissa < 2 ^ 53` and
`-1074 ≤ exponent ≤ 971`. -/
structure Binary64 where
  mantissa : Nat
  exponent : Int
  deriving DecidableEq, Repr

/-- The integer nearest to `n / d`; of two neighbours at the same distance the even one. -/
def roundHalfEven (n d : Nat) : Nat :=
  let q := n / d
  let r := n % d
  if 2 * r < d then q
  else if d < 2 * r then q + 1
  else if q % 2 = 0 then q
  else q + 1

namespace Binary64

def zero : Binary64 := ⟨0, -1074⟩

def isZero (x : Binary64) : Bool := x.mantissa = 0

def power (b : Nat) (e : Int) : Nat × Nat := (b.pow e.toNat, b.pow (-e).toNat)

/-- The greatest `e` with `2 ^ e ≤ n / d`, for positive `n` and `d`. -/
def floorLog2 (n d : Nat) : Int :=
  let e : Int := n.log2 - d.log2
  let (p, q) := power 2 e
  if d * p ≤ n * q then e else e - 1

/-- The double nearest to `n / d`, ties to the even mantissa; none above the greatest double. -/
def ofRatio? (n d : Nat) : Option Binary64 :=
  if n = 0 then some zero
  else
    let e := max (floorLog2 n d - 52) (-1074)
    let (p, q) := power 2 e
    let m := roundHalfEven (n * q) (d * p)
    let x : Binary64 := if m = 1 <<< 53 then ⟨1 <<< 52, e + 1⟩ else ⟨m, e⟩
    if 971 < x.exponent then none else some x

def toRatio (x : Binary64) : Nat × Nat :=
  let (p, q) := power 2 x.exponent
  (x.mantissa * p, q)

def mul? (x y : Binary64) : Option Binary64 :=
  let (n, d) := x.toRatio
  let (n', d') := y.toRatio
  ofRatio? (n * n') (d * d')

/-- A quotient of doubles with a divisor of at least one. -/
def div (x y : Binary64) : Binary64 :=
  let (n, d) := x.toRatio
  let (n', d') := y.toRatio
  (ofRatio? (n * d') (d * n')).getD zero

def add? (x y : Binary64) : Option Binary64 :=
  let (n, d) := x.toRatio
  let (n', d') := y.toRatio
  ofRatio? (n * d' + n' * d) (d * d')

def ofNat (n : Nat) : Binary64 := (ofRatio? n 1).getD zero

def powerOfTen (k : Nat) : Binary64 := ofNat (Nat.pow 10 k)

/-- Divides by `10 ^ k`, in steps of at most 308 digits. -/
def divPowerOfTen (x : Binary64) (k : Nat) : Binary64 :=
  if k ≤ 308 then x.div (powerOfTen k)
  else if x.isZero then zero
  else divPowerOfTen (x.div (powerOfTen 308)) (k - 308)
termination_by k

/-- Multiplies by `10 ^ k`; none above the greatest double. -/
def mulPowerOfTen? (x : Binary64) (k : Nat) : Option Binary64 :=
  if k ≤ 308 then x.mul? (powerOfTen k)
  else if x.isZero then some zero
  else none

/-- Appends digits to a number as long as it keeps below `2 ^ 64`, and counts those left over. -/
def takeDigits : Nat → List Nat → Nat × Nat
  | m, [] => (m, 0)
  | m, d :: ds => if 10 * m + d < UInt64.size then takeDigits (10 * m + d) ds else (m, ds.length + 1)

end Binary64

namespace JsonNumber

def digits (n : Nat) : List Nat := (Nat.toDigits 10 n).map (fun c => c.toNat - '0'.toNat)

/-- The double that a number denotes, without its sign: the leading digits that fit in 64 bits,
as a double, scaled by one power of ten. It may be off the nearest double in its last bit. -/
def toBinary64? (n : JsonNumber) : Option Binary64 :=
  let (whole, dropped) := Binary64.takeDigits 0 (digits n.whole)
  let (m, unread) := Binary64.takeDigits whole n.fraction
  let e : Int := n.exponent.getD 0 + dropped - (n.fraction.length - unread : Nat)
  if 0 ≤ e then (Binary64.ofNat m).mulPowerOfTen? e.toNat
  else some ((Binary64.ofNat m).divPowerOfTen (-e).toNat)

end JsonNumber

end BuildAdmission
