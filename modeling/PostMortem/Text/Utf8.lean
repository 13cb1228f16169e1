/-! # UTF-8

* `encode s`: the bytes of a text.
* `decode? bytes`: the text of a row of bytes, or nothing when the bytes are not UTF-8. Accepted are exactly the shortest
  forms of the Unicode scalar values: no overlong form, no surrogate, nothing above U+10FFFF.
-/
set_option autoImplicit false

namespace PostMortem.Text.Utf8

def encode (s : String) : List UInt8 :=
  s.toList.flatMap String.utf8EncodeChar

/-- The six payload bits of a continuation byte. -/
def continuation? (b : UInt8) : Option Nat :=
  if 0x80 ≤ b ∧ b < 0xC0 then some (b.toNat - 0x80) else none

/-- The scalar value with this number, if it is at least `least` and a scalar value at all. -/
def scalar? (least n : Nat) : Option Char :=
  if h : least ≤ n ∧ n.isValidChar then some (Char.ofNatAux n h.2) else none

def decodeChars? : List UInt8 → Option (List Char)
  | [] => some []
  | b :: rest =>
    if b < 0x80 then
      (decodeChars? rest).map (Char.ofNat b.toNat :: ·)
    else if b < 0xC0 then none
    else if b < 0xE0 then
      match rest with
      | b₁ :: rest => do
        let x ← continuation? b₁
        let c ← scalar? 0x80 ((b.toNat - 0xC0) * 64 + x)
        (decodeChars? rest).map (c :: ·)
      | _ => none
    else if b < 0xF0 then
      match rest with
      | b₁ :: b₂ :: rest => do
        let x ← continuation? b₁
        let y ← continuation? b₂
        let c ← scalar? 0x800 (((b.toNat - 0xE0) * 64 + x) * 64 + y)
        (decodeChars? rest).map (c :: ·)
      | _ => none
    else if b < 0xF8 then
      match rest with
      | b₁ :: b₂ :: b₃ :: rest => do
        let x ← continuation? b₁
        let y ← continuation? b₂
        let z ← continuation? b₃
        let c ← scalar? 0x10000 ((((b.toNat - 0xF0) * 64 + x) * 64 + y) * 64 + z)
        (decodeChars? rest).map (c :: ·)
      | _ => none
    else none

def decode? (bytes : List UInt8) : Option String :=
  (decodeChars? bytes).map String.ofList

end PostMortem.Text.Utf8
