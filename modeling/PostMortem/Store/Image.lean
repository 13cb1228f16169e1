import PostMortem.Fault.Record
import PostMortem.Store.LittleEndian

/-! # The image of a record in a file

A record file has 32 bytes. All numbers are little-endian.

| bytes | field |
|---|---|
| 0 to 3 | the magic word, if a record is present |
| 4 to 7 | identifier |
| 8 to 11 | program counter |
| 12 to 15 | error code |
| 16 to 23 | info word |
| 24 to 31 | free |

Saving and clearing are programs of single byte stores, carried out one after the other, so that an operation cut off
by a reset is a prefix of its program. A save takes the magic word away before it touches a field and puts it back
last; the free bytes are left alone. A clear zeroes all bytes from the first on.

* `Image.saveStores`, `Image.clearStores`: the programs.
* `Image.decode?`: the record that an image holds.
-/
set_option autoImplicit false

namespace PostMortem

/-- The bytes of a record file. -/
abbrev Image := List UInt8

/-- The store of one byte at an offset. -/
structure ByteStore where
  offset : Nat
  value : UInt8
deriving DecidableEq, Repr

namespace Image

/-! ## Layout -/

/-- The size of a record file in bytes. -/
def size : Nat := 32

/-- The word that marks a record as present: the letters FLT1. -/
def magic : UInt32 := 0x31544C46

def magicOffset : Nat := 0

def idOffset : Nat := 4

def pcOffset : Nat := 8

def codeOffset : Nat := 12

def infoOffset : Nat := 16

/-- An image of zeros, which holds no record. -/
def blank : Image := List.replicate size 0

/-! ## Stores -/

/-- The stores that put bytes one after the other from an offset on. -/
def storesFrom (offset : Nat) : List UInt8 → List ByteStore
  | [] => []
  | b :: rest => ⟨offset, b⟩ :: storesFrom (offset + 1) rest

def wordStores (offset : Nat) (word : UInt32) : List ByteStore :=
  storesFrom offset (LittleEndian.encode 4 word.toNat)

def longStores (offset : Nat) (word : UInt64) : List ByteStore :=
  storesFrom offset (LittleEndian.encode 8 word.toNat)

def saveStores (record : FaultRecord) : List ByteStore :=
  wordStores magicOffset 0 ++ wordStores idOffset record.id.raw ++ wordStores pcOffset record.pc ++
    wordStores codeOffset record.code.raw ++ longStores infoOffset record.info ++ wordStores magicOffset magic

def clearStores : List ByteStore := storesFrom 0 blank

def apply (image : Image) (store : ByteStore) : Image := image.set store.offset store.value

def applyAll (image : Image) (stores : List ByteStore) : Image := stores.foldl apply image

def save (image : Image) (record : FaultRecord) : Image := image.applyAll (saveStores record)

def clear (image : Image) : Image := image.applyAll clearStores

/-! ## Reading -/

def slice (image : Image) (offset width : Nat) : List UInt8 := (image.drop offset).take width

def word (image : Image) (offset : Nat) : UInt32 := UInt32.ofNat (LittleEndian.decode (image.slice offset 4))

def long (image : Image) (offset : Nat) : UInt64 := UInt64.ofNat (LittleEndian.decode (image.slice offset 8))

/-- The record that an image holds, if it is marked as present. -/
def decode? (image : Image) : Option FaultRecord :=
  if image.word magicOffset = magic then
    some {
      id := ⟨image.word idOffset⟩
      pc := image.word pcOffset
      info := image.long infoOffset
      code := ⟨image.word codeOffset⟩ }
  else none

end Image

end PostMortem
