import BuildAdmission.Decimal.Binary64

namespace BuildAdmission

/-- The decimal number `digits * 10 ^ exponent`. -/
structure Scaled where
  digits : Nat
  exponent : Int
  deriving DecidableEq, Repr

namespace Binary64

/-- The greatest `k` with `10 ^ k ≤ n / d`, for positive `n` and `d`. -/
def floorLog10 (n d : Nat) : Int :=
  if d ≤ n then ((Nat.toDigits 10 (n / d)).length : Int) - 1
  else
    let k := (Nat.toDigits 10 (d / n)).length
    if d ≤ n * Nat.pow 10 (k - 1) then -((k : Int) - 1) else -(k : Int)

/-- The nearest decimal of `count` digits that rounds to `x`, if there is one. The numbers that
round to `x` reach half way to its neighbours, both ends included if the mantissa is even. -/
def nearestOfLength? (x : Binary64) (count : Nat) : Option Scaled :=
  let (n, d) := x.toRatio
  let k := floorLog10 n d - count + 1
  let (p, q) := power 2 (x.exponent - 2)
  let (p', q') := power 10 k
  let num := p * q'
  let den := q * p'
  let value := 4 * x.mantissa * num
  let low := (4 * x.mantissa - (if x.mantissa = 1 <<< 52 ∧ -1074 < x.exponent then 1 else 2)) * num
  let high := (4 * x.mantissa + 2) * num
  let holds (c : Nat) : Bool :=
    if x.mantissa % 2 = 0 then low ≤ c * den ∧ c * den ≤ high else low < c * den ∧ c * den < high
  let c := value / den
  let below := value - c * den
  let above := (c + 1) * den - value
  let belowFirst := below < above || (below = above && c % 2 = 0)
  if holds c && (belowFirst || !holds (c + 1)) then some ⟨c, k⟩
  else if holds (c + 1) then
    if c + 1 = Nat.pow 10 count then some ⟨Nat.pow 10 (count - 1), k + 1⟩ else some ⟨c + 1, k⟩
  else none

/-- The decimal with the fewest digits that rounds to `x`, and of those the nearest. Seventeen
digits are always enough. -/
def shortest (x : Binary64) : Scaled :=
  ((List.range 17).findSome? (fun i => x.nearestOfLength? (i + 1))).getD ⟨0, 0⟩

end Binary64

end BuildAdmission
