/-! # The nearest binary64 number

A finite non-negative binary64 number is `mantissa * 2 ^ exponent` with a mantissa below `2 ^ 53` and an exponent of
at least -1074.

* `nearest num den`: the binary64 number nearest to the fraction `num / den`; of two equally near ones the one with
  the even mantissa. Nothing when it would be `2 ^ 1024` or more.
* `ofDecimal digits exponent`: the same for `digits * 10 ^ exponent`.
-/
set_option autoImplicit false

namespace PostMortem.Decimal

/-- A finite non-negative binary64 number. -/
structure Binary64 where
  mantissa : Nat
  exponent : Int
deriving DecidableEq, Repr

/-- The power of a base by the part of an exponent that is above zero. -/
def power (base : Nat) (exponent : Int) : Nat := Nat.pow base exponent.toNat

/-- The quotient rounded to a whole number, a half going to the even one. -/
def roundHalfEven (num den : Nat) : Nat :=
  let q := num / den
  let twice := 2 * (num % den)
  if twice < den then q
  else if den < twice then q + 1
  else if q % 2 = 0 then q else q + 1

namespace Binary64

/-- The least mantissa of a number whose exponent is not the least one: `2 ^ 52`. -/
def leadingBit : Nat := 0x10000000000000

/-- Zero, which has the least exponent. -/
def zero : Binary64 := ⟨0, -1074⟩

/-- The largest `e` with `2 ^ e ≤ num / den`, for a positive fraction. -/
def binaryExponent (num den : Nat) : Int :=
  let e := (num.log2 : Int) - (den.log2 : Int)
  if den * power 2 e ≤ num * power 2 (-e) then e else e - 1

/-- The binary64 number nearest to a fraction, if it does not exceed the largest one. -/
def nearest (num den : Nat) : Option Binary64 :=
  if num = 0 then some zero
  else
    let exponent := max (binaryExponent num den - 52) (-1074)
    let mantissa := roundHalfEven (num * power 2 (-exponent)) (den * power 2 exponent)
    let rounded : Binary64 :=
      if mantissa = 2 * leadingBit then ⟨leadingBit, exponent + 1⟩ else ⟨mantissa, exponent⟩
    if 971 < rounded.exponent then none else some rounded

/-- The binary64 number nearest to `digits * 10 ^ exponent`. A magnitude beyond all binary64 numbers, on either side,
is recognised by its count of digits before any power is taken. -/
def ofDecimal (digits : Nat) (exponent : Int) : Option Binary64 :=
  if digits = 0 then some zero
  else
    let magnitude := exponent + ((Nat.toDigits 10 digits).length : Int)
    if 400 < magnitude then none
    else if magnitude < -400 then some zero
    else nearest (digits * power 10 exponent) (power 10 (-exponent))

end Binary64

end PostMortem.Decimal
