/-! # Upper-case hexadecimal text

* `digits n`: the base-16 digits of `n`, most significant first, with no leading zero; zero is `0`.
* `padded width n`: the same digits behind as many zeros as bring them to `width`.
* `value? cs`: the number that a list of digits stands for, base 16. None if a character is not a digit.
-/
set_option autoImplicit false

namespace PostMortem.Text.Hex

/-- The digit of a number below sixteen; letters are upper case. -/
def digit (n : Nat) : Char :=
  if n < 10 then Char.ofNat (48 + n) else Char.ofNat (55 + n)

/-- The base-16 digits of a number, most significant first. -/
def digits (n : Nat) : List Char :=
  if n < 16 then [digit n] else digits (n / 16) ++ [digit (n % 16)]
termination_by n

/-- The digits of a number, brought to at least `width` of them by zeros in front. -/
def padded (width n : Nat) : List Char :=
  List.replicate (width - (digits n).length) '0' ++ digits n

/-- The number that one digit stands for, if the character is a digit of either case. -/
def digitValue? (c : Char) : Option Nat :=
  if '0' ≤ c ∧ c ≤ '9' then some (c.toNat - 48)
  else if 'A' ≤ c ∧ c ≤ 'F' then some (c.toNat - 55)
  else if 'a' ≤ c ∧ c ≤ 'f' then some (c.toNat - 87)
  else none

/-- The number that a row of digits stands for in base 16, most significant first. -/
def value? (cs : List Char) : Option Nat :=
  cs.foldlM (fun n c => (digitValue? c).map (16 * n + ·)) 0

/-- A number behind the mark `0x`. -/
def text (n : Nat) : String :=
  "0x" ++ String.ofList (digits n)

/-- A number behind the mark `0x`, in at least `width` digits. -/
def paddedText (width n : Nat) : String :=
  "0x" ++ String.ofList (padded width n)

end PostMortem.Text.Hex
