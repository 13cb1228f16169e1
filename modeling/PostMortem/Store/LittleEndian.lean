/-! # Little-endian numbers

* `encode width n`: the lowest `width` bytes of `n`, the least significant first.
* `decode bytes`: the number that they stand for.
-/
set_option autoImplicit false

namespace PostMortem.LittleEndian

/-- The lowest bytes of a number, the least significant first. -/
def encode : Nat → Nat → List UInt8
  | 0, _ => []
  | width + 1, n => UInt8.ofNat (n % 256) :: encode width (n / 256)

/-- The number that bytes stand for, the least significant first. -/
def decode : List UInt8 → Nat
  | [] => 0
  | b :: rest => b.toNat + 256 * decode rest

end PostMortem.LittleEndian
