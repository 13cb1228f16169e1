import PostMortem.FileTree.Error
import PostMortem.Text.Utf8

/-! # Writers

A writer takes bytes until its room is used up. Of a piece that does not fit it takes the part that does, and then
fails; after a failure nothing more is written.

* `Writer.write`: one piece.
* `Writer.writeAll`: piece after piece up to the first failure.
* `Writer.flush`: succeeds unless the writer says otherwise.
-/
set_option autoImplicit false

namespace PostMortem

/-- A writer: what it has taken so far, and how it can fail. -/
structure Writer where
  /-- The bytes taken so far. -/
  written : List UInt8 := []
  /-- How many bytes it still takes; without end if none is given. -/
  room : Option Nat := none
  /-- The failure of a piece that does not fit. -/
  full : IoError := .custom "writer full"
  /-- The failure of a flush, if it fails. -/
  flushFailure : Option IoError := none

namespace Writer

def writeBytes (w : Writer) (bytes : List UInt8) : Except IoError Unit × Writer :=
  match w.room with
  | none => (.ok (), { w with written := w.written ++ bytes })
  | some room =>
    let taken := { w with written := w.written ++ bytes.take room, room := some (room - bytes.length) }
    if bytes.length ≤ room then (.ok (), taken) else (.error w.full, taken)

def write (w : Writer) (piece : String) : Except IoError Unit × Writer :=
  w.writeBytes (Text.Utf8.encode piece)

/-- Writes pieces of text up to the first failure. -/
def writeAll (w : Writer) : List String → Except IoError Unit × Writer
  | [] => (.ok (), w)
  | piece :: rest =>
    match w.write piece with
    | (.ok (), w) => w.writeAll rest
    | (.error e, w) => (.error e, w)

def flush (w : Writer) : Except IoError Unit :=
  match w.flushFailure with
  | none => .ok ()
  | some e => .error e

end Writer

end PostMortem
