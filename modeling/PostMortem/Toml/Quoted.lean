import PostMortem.Text.Hex
import PostMortem.Toml.Lexical

/-! # Strings in quotes

A string stands between quotation marks or apostrophes, on one line between single ones and over several lines between
three of them. Between quotation marks a backslash starts an escape. Every reader takes the characters that remain and
gives back what it read with the characters that remain then, or nothing if the string is not well formed.

* `shortString?`: a string on one line.
* `string?`: a string in one of its four forms.
-/
set_option autoImplicit false

namespace PostMortem.Toml

/-! ## Escapes -/

/-- The character of an escape by number: a Unicode scalar value in hexadecimal. -/
def numbered? (ds : List Char) : Option Char := do
  let n ← Text.Hex.value? ds
  if n.isValidChar then some (Char.ofNat n) else none

def lettered? : Char → Option Char
  | 'b' => some '\x08'
  | 't' => some '\t'
  | 'n' => some '\n'
  | 'f' => some '\x0c'
  | 'r' => some '\r'
  | 'e' => some '\x1b'
  | '\x22' => some quotation
  | '\x5c' => some backslash
  | _ => none

/-- Reads an escape whose backslash has been read. -/
def escape? : List Char → Option (Char × List Char)
  | 'x' :: a :: b :: rest => (numbered? [a, b]).map (·, rest)
  | 'u' :: a :: b :: c :: d :: rest => (numbered? [a, b, c, d]).map (·, rest)
  | 'U' :: a :: b :: c :: d :: e :: f :: g :: h :: rest => (numbered? [a, b, c, d, e, f, g, h]).map (·, rest)
  | letter :: rest => (lettered? letter).map (·, rest)
  | [] => none

/-! ## On one line -/

/-- A character put before a string that is read. -/
def prepend (cs : List Char) : List Char × List Char → List Char × List Char
  | (read, rest) => (cs ++ read, rest)

/-- Reads the rest of a string on one line, with escapes; `fuel` bounds its length. -/
def basicRest? : Nat → List Char → Option (List Char × List Char)
  | 0, _ => none
  | _, [] => none
  | fuel + 1, c :: rest =>
    if c = quotation then some ([], rest)
    else if c = backslash then do
      let (escaped, rest) ← escape? rest
      (basicRest? fuel rest).map (prepend [escaped])
    else if isPlain c then (basicRest? fuel rest).map (prepend [c])
    else none

/-- Reads a string on one line that starts here, if one does. -/
def shortString? : List Char → Option (String × List Char)
  | c :: rest =>
    if c = quotation then (basicRest? (rest.length + 1) rest).map fun (cs, rest) => (String.ofList cs, rest)
    else if c = apostrophe then
      let inside := rest.takeWhile fun c => isPlain c && c != apostrophe
      match rest.drop inside.length with
      | closing :: rest => if closing = apostrophe then some (String.ofList inside, rest) else none
      | [] => none
    else none
  | [] => none

/-! ## Over several lines -/

/-- What remains behind blanks and line ends, where at most `fuel` characters are skipped. -/
def skipFold : Nat → List Char → List Char
  | 0, s => s
  | fuel + 1, s =>
    match newline? s with
    | some rest => skipFold fuel rest
    | none =>
      match s with
      | c :: rest => if isBlank c then skipFold fuel rest else s
      | [] => []

/-- Reads the rest of a string over several lines, with escapes if the delimiter is the quotation mark. A backslash at
the end of a line joins it with the next character that is neither blank nor line end. -/
def longRest? (delimiter : Char) : Nat → List Char → Option (List Char × List Char)
  | 0, _ => none
  | fuel + 1, s =>
    match longEnd? delimiter s with
    | some result => some result
    | none =>
      match s with
      | [] => none
      | c :: rest =>
        if c = backslash ∧ delimiter = quotation then
          if (newline? (skipBlanks rest)).isSome then longRest? delimiter fuel (skipFold rest.length rest)
          else do
            let (escaped, rest) ← escape? rest
            (longRest? delimiter fuel rest).map (prepend [escaped])
        else
          match newline? s with
          | some after => (longRest? delimiter fuel after).map (prepend (s.take (s.length - after.length)))
          | none => if isPlain c then (longRest? delimiter fuel rest).map (prepend [c]) else none

/-- What remains behind a line end, if there is one. -/
def skipNewline (s : List Char) : List Char := (newline? s).getD s

def string? : List Char → Option (String × List Char)
  | a :: b :: c :: rest =>
    if a = b ∧ b = c ∧ (a = quotation ∨ a = apostrophe) then
      let body := skipNewline rest
      (longRest? a (body.length + 1) body).map fun (cs, rest) => (String.ofList cs, rest)
    else shortString? (a :: b :: c :: rest)
  | s => shortString? s

end PostMortem.Toml
