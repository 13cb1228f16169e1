import PostMortem.Text.Printable

/-! # Quoted text

`quote s` is `s` between double quotes. A quote, a backslash, a tab, a line feed, a carriage return and the null
character are written as a backslash and one character; every other character that is not shown as it is is written
as its number in braces, in lower-case hexadecimal without leading zeros.
-/
set_option autoImplicit false

namespace PostMortem.Text.Quoted

/-- The lower-case hexadecimal digits of a number. -/
def lowerHex (n : Nat) : List Char := Nat.toDigits 16 n

/-- One character as it is written between the quotes. -/
def escape (c : Char) : List Char :=
  match c with
  | '\x00' => ['\x5c', '0']
  | '\t' => ['\x5c', 't']
  | '\n' => ['\x5c', 'n']
  | '\r' => ['\x5c', 'r']
  | '\x22' => ['\x5c', '\x22']
  | '\x5c' => ['\x5c', '\x5c']
  | c =>
    if Printable.isShown c then [c]
    else '\x5c' :: 'u' :: '\x7b' :: lowerHex c.toNat ++ ['\x7d']

def quote (s : String) : String :=
  String.ofList ('\x22' :: s.toList.flatMap escape ++ ['\x22'])

end PostMortem.Text.Quoted
