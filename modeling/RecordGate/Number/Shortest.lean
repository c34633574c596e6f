import RecordGate.Number.Double

/-!
# `RecordGate.Number.Shortest` — the shortest decimal that reads back

The reals that round to a double form an interval. Of the decimals in it, the one with the fewest digits is
chosen, and among those the one nearest to the double. Searching one to seventeen digits suffices.

The written form is positional while the point stands at most four zeros before the digits and at most sixteen
places behind the first one, always with a fraction; beyond that, one digit stands before the point and the
exponent follows an `e`.
-/

namespace RecordGate.Number

/-- The decimal `digits · 10 ^ exponent`. -/
structure Decimal where
  digits : Nat
  exponent : Int
  deriving DecidableEq, Repr

namespace Double

/-- The reals between `low` and `high` round to the double; the ends do if its mantissa is even. -/
def interval (d : Double) : Ratio × Ratio :=
  let low : Ratio :=
    if d.mantissa == leastNormal && d.exponent > minExponent then
      Ratio.scale ⟨4 * d.mantissa - 1, 4⟩ 2 d.exponent
    else Ratio.scale ⟨2 * d.mantissa - 1, 2⟩ 2 d.exponent
  (low, Ratio.scale ⟨2 * d.mantissa + 1, 2⟩ 2 d.exponent)

/-- Whether a real rounds to the double. -/
def reads (d : Double) (r : Ratio) : Bool :=
  let (low, high) := d.interval
  if d.mantissa % 2 == 0 then low.le r && r.le high else !r.le low && !high.le r

/-- The decimal exponent `p` with `10 ^ p ≤ r < 10 ^ (p + 1)`, for a positive `r`. -/
def decimalExponent (r : Ratio) : Int :=
  let guess : Int := (Nat.repr r.num).length - (Nat.repr r.den).length
  if Ratio.le (Ratio.scale ⟨1, 1⟩ 10 guess) r then guess else guess - 1

/-- The decimal of `count` digits nearest to the double, if it reads back. -/
def withDigits? (d : Double) (count : Nat) : Option Decimal :=
  let value := d.toRatio
  let exponent := decimalExponent value - count + 1
  let scaled := value.scale 10 (-exponent)
  let candidates := [scaled.nearest, scaled.floor, scaled.floor + 1]
  (candidates.find? fun n => d.reads (Ratio.scale ⟨n, 1⟩ 10 exponent)).map (⟨·, exponent⟩)

/-- The shortest decimal that reads back. -/
def shortest (d : Double) : Decimal :=
  if d.mantissa == 0 then ⟨0, 0⟩
  else ((List.range 17).findSome? fun n => d.withDigits? (n + 1)).getD ⟨d.mantissa, 0⟩

end Double

/-- A decimal without zeros at the end of its digits. -/
def Decimal.stripped (d : Decimal) : Decimal :=
  let digits := (Nat.repr d.digits).toList
  let zeros := (digits.reverse.takeWhile (· == '0')).length
  if d.digits == 0 then ⟨0, 0⟩ else ⟨d.digits / Nat.pow 10 zeros, d.exponent + zeros⟩

/-- The written form of a decimal. -/
def Decimal.text (d : Decimal) : String :=
  let d := d.stripped
  let digits := Nat.repr d.digits
  let point : Int := digits.length + d.exponent
  if d.digits == 0 then "0.0"
  else if 0 ≤ d.exponent && point ≤ 16 then
    digits ++ String.ofList (List.replicate d.exponent.toNat '0') ++ ".0"
  else if 0 < point && point ≤ 16 then
    String.ofList (digits.toList.take point.toNat) ++ "." ++ String.ofList (digits.toList.drop point.toNat)
  else if -5 < point && point ≤ 0 then
    "0." ++ String.ofList (List.replicate (-point).toNat '0') ++ digits
  else
    let mantissa :=
      if digits.length == 1 then digits
      else String.ofList (digits.toList.take 1) ++ "." ++ String.ofList (digits.toList.drop 1)
    mantissa ++ "e" ++ toString (point - 1)

/-- The written form of a double with a sign. -/
def Double.text (negative : Bool) (d : Double) : String :=
  (if negative then "-" else "") ++ d.shortest.text

end RecordGate.Number
