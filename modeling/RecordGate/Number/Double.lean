/-!
# `RecordGate.Number.Double` — binary numbers of 53 digits, in exact arithmetic

A double is `mantissa · 2 ^ exponent` with a mantissa below `2 ^ 53` and an exponent of at least `-1074`. Every
operation is exact arithmetic on natural numbers followed by one rounding to the nearest double, ties going to the
even mantissa. Signs are kept apart, and the exponent has no upper end: `isFinite` tells which doubles the
64-bit format has.
-/

namespace RecordGate.Number

/-- The number `mantissa · 2 ^ exponent`. -/
structure Double where
  mantissa : Nat
  exponent : Int
  deriving DecidableEq, Repr

/-- A quotient of natural numbers. -/
structure Ratio where
  num : Nat
  den : Nat
  deriving DecidableEq, Repr

namespace Ratio

/-- The quotient times `base ^ e`. -/
def scale (r : Ratio) (base : Nat) (e : Int) : Ratio :=
  if 0 ≤ e then ⟨r.num * Nat.pow base e.toNat, r.den⟩ else ⟨r.num, r.den * Nat.pow base (-e).toNat⟩

/-- The product of two quotients. -/
def mul (r s : Ratio) : Ratio :=
  ⟨r.num * s.num, r.den * s.den⟩

/-- The quotient of two quotients. -/
def div (r s : Ratio) : Ratio :=
  ⟨r.num * s.den, r.den * s.num⟩

/-- Whether `r ≤ s`. -/
def le (r s : Ratio) : Bool :=
  r.num * s.den ≤ s.num * r.den

/-- The greatest natural number that is not greater. -/
def floor (r : Ratio) : Nat :=
  r.num / r.den

/-- The nearest natural number, the even one of two. -/
def nearest (r : Ratio) : Nat :=
  let q := r.num / r.den
  let twice := 2 * (r.num % r.den)
  if twice < r.den then q
  else if r.den < twice then q + 1
  else q + q % 2

end Ratio

namespace Double

/-- The least exponent. -/
def minExponent : Int :=
  -1074

/-- The least mantissa of 53 binary digits, which is `2 ^ 52`. -/
def leastNormal : Nat :=
  0x10000000000000

/-- The value of a double. -/
def toRatio (d : Double) : Ratio :=
  Ratio.scale ⟨d.mantissa, 1⟩ 2 d.exponent

/-- The double nearest to a quotient. -/
def round (r : Ratio) : Double :=
  if r.num == 0 then ⟨0, minExponent⟩
  else
    let guess : Int := (r.num.log2 : Int) - (r.den.log2 : Int)
    let top := if Ratio.le (Ratio.scale ⟨1, 1⟩ 2 guess) r then guess else guess - 1
    let exponent := max (top - 52) minExponent
    let mantissa := (r.scale 2 (-exponent)).nearest
    if mantissa == 2 * leastNormal then ⟨leastNormal, exponent + 1⟩ else ⟨mantissa, exponent⟩

/-- The double nearest to a natural number. -/
def ofNat (n : Nat) : Double :=
  round ⟨n, 1⟩

/-- Whether the 64-bit format has this double. -/
def isFinite (d : Double) : Bool :=
  d.exponent ≤ 971

/-- The rounded product. -/
def mul (d e : Double) : Double :=
  round (d.toRatio.mul e.toRatio)

/-- The rounded quotient. -/
def div (d e : Double) : Double :=
  round (d.toRatio.div e.toRatio)

/-- The natural number that is left when the fraction is cut off. -/
def truncate (d : Double) : Nat :=
  d.toRatio.floor

/-! ## Decimal scaling

A decimal with a large or small exponent is read in two steps: its digits are rounded, and the result is multiplied
or divided by a power of ten, which is rounded itself.
-/

/-- The greatest power of ten used in one step. -/
def maxPower : Nat :=
  308

/-- The double nearest to a power of ten. -/
def power (k : Nat) : Double :=
  ofNat (Nat.pow 10 k)

/-- Divides by `10 ^ k`, in steps of at most `10 ^ maxPower`. A zero is not divided any further. -/
def divPower (d : Double) (k : Nat) : Double :=
  if k ≤ maxPower then d.div (power k)
  else if d.mantissa == 0 then d
  else (d.div (power maxPower)).divPower (k - maxPower)
termination_by k
decreasing_by simp only [maxPower] at *; omega

/-- The double that the decimal `digits · 10 ^ exponent` is read as, unless it is too great. -/
def ofDecimal? (digits : Nat) (exponent : Int) : Option Double :=
  let d := ofNat digits
  if exponent < 0 then some (d.divPower (-exponent).toNat)
  else if d.mantissa == 0 then some d
  else if exponent.toNat ≤ maxPower then
    let product := d.mul (power exponent.toNat)
    if product.isFinite then some product else none
  else none

end Double

end RecordGate.Number
