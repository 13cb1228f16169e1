import PostMortem.Decimal.Binary64

/-! # The shortest decimal that reads back

* `shortest x`: of all decimals that round to the binary64 number `x`, one with the fewest digits; of those the
  nearest to `x`, and of two equally near ones the larger.
* `Scaled.plain`: a decimal written without an exponent and with at least one place.

The reals that round to `x` form an interval around it, its ends included when the mantissa is even. For one digit,
two digits, and so on, the two neighbours of `x` among the decimals with that many digits are tried; when some decimal
of the grid lies in the interval, one of the two does.
-/
set_option autoImplicit false

namespace PostMortem.Decimal

/-- The decimal `digits * 10 ^ exponent`. -/
structure Scaled where
  digits : Nat
  exponent : Int
deriving DecidableEq, Repr

/-- How `a * 10 ^ i` compares with `b * 2 ^ j`. -/
def compareScaled (a : Nat) (i : Int) (b : Nat) (j : Int) : Ordering :=
  compare (a * power 10 i * power 2 (-j)) (b * power 2 j * power 10 (-i))

namespace Binary64

/-- The least `k` with `x < 10 ^ k`, for a positive number. -/
def decimalExponent (x : Binary64) : Int :=
  let guess := ((x.mantissa.log2 : Int) + x.exponent) * 30103 / 100000
  match [guess - 1, guess, guess + 1].find? fun k => compareScaled 1 k x.mantissa x.exponent == .gt with
  | some k => k
  | none => guess + 2

/-- Whether `digits * 10 ^ exponent` rounds to `x`. Distances are counted in quarters of the last binary place. -/
def roundsTo (x : Binary64) (d : Scaled) : Bool :=
  let closed := x.mantissa % 2 = 0
  let below := if x.mantissa = leadingBit ∧ -1074 < x.exponent then 1 else 2
  let low := compareScaled d.digits d.exponent (4 * x.mantissa - below) (x.exponent - 2)
  let high := compareScaled d.digits d.exponent (4 * x.mantissa + 2) (x.exponent - 2)
  (low == .gt || (closed && low == .eq)) && (high == .lt || (closed && high == .eq))

/-- Whether `x` is nearer to `d * 10 ^ i` than to `(d + 1) * 10 ^ i`. -/
def nearerBelow (x : Binary64) (d : Nat) (i : Int) : Bool :=
  compareScaled (2 * d + 1) i (2 * x.mantissa) x.exponent == .gt

/-- The decimal with `count` digits that rounds to `x`: the nearer of two, of two equally near ones the larger. -/
def withDigits? (x : Binary64) (count : Nat) : Option Scaled :=
  let exponent := x.decimalExponent - (count : Int)
  let floor := x.mantissa * power 2 x.exponent * power 10 (-exponent) /
    (power 2 (-x.exponent) * power 10 exponent)
  let below : Scaled := ⟨floor, exponent⟩
  let above : Scaled := ⟨floor + 1, exponent⟩
  match x.roundsTo below, x.roundsTo above with
  | true, true => some (if x.nearerBelow floor exponent then below else above)
  | true, false => some below
  | false, true => some above
  | false, false => none

end Binary64

/-- The same decimal without trailing zeros, up to `fuel` of them. -/
def Scaled.trim : Nat → Scaled → Scaled
  | 0, d => d
  | fuel + 1, d =>
    if d.digits ≠ 0 ∧ d.digits % 10 = 0 then trim fuel ⟨d.digits / 10, d.exponent + 1⟩ else d

/-- The shortest decimal that rounds to `x`; seventeen digits always do. -/
def shortest (x : Binary64) : Scaled :=
  if x.mantissa = 0 then ⟨0, 0⟩
  else
    match (List.range 17).findSome? fun n => x.withDigits? (n + 1) with
    | some d => d.trim 17
    | none => ⟨0, 0⟩

/-- A decimal without an exponent, with at least one place behind the point. -/
def Scaled.plain (d : Scaled) : String :=
  let ds := Nat.toDigits 10 d.digits
  if 0 ≤ d.exponent then
    String.ofList (ds ++ List.replicate d.exponent.toNat '0' ++ ['.', '0'])
  else
    let places := (-d.exponent).toNat
    let ds := List.replicate (places + 1 - ds.length) '0' ++ ds
    String.ofList (ds.take (ds.length - places) ++ '.' :: ds.drop (ds.length - places))

end PostMortem.Decimal
