import PostMortem.Toml.Tree

/-! # The pieces of a text

Every function takes the characters that remain. Those that skip give what remains then; those that end in `Text` give
the characters of a piece that starts here, none if there is no such piece. How far a piece goes is one thing, whether
it is well formed another: that is not looked at here.

* `skipBlanks`, `lineEnd?`, `skipVoid?`: what stands between pieces: blanks, comments, line ends.
* `keyText`, `scalarText`: a key, and a scalar: a string in quotes, or a word.
-/
set_option autoImplicit false

namespace PostMortem.Toml

/-! ## Marks of the language -/

/-- The quotation mark, around a string with escapes. -/
def quotation : Char := '\x22'

def apostrophe : Char := '\x27'

def backslash : Char := '\x5c'

def openBrace : Char := '\x7b'

def closeBrace : Char := '\x7d'

/-! ## Blanks, comments and line ends -/

def isBlank (c : Char) : Bool := c == ' ' || c == '\t'

/-- A character that may stand in a comment or a string as it is: no control character but the tab. -/
def isPlain (c : Char) : Bool := c == '\t' || (0x20 ≤ c.toNat && c.toNat ≠ 0x7F)

/-- What remains behind spaces and tabs. -/
def skipBlanks (s : List Char) : List Char := s.dropWhile isBlank

/-- What remains behind a comment, if there is one. -/
def skipComment : List Char → List Char
  | '#' :: rest => rest.dropWhile isPlain
  | s => s

/-- Reads a line end: a line feed, with or without a carriage return before it. -/
def newline? : List Char → Option (List Char)
  | '\n' :: rest => some rest
  | '\r' :: '\n' :: rest => some rest
  | _ => none

/-- Reads the rest of a line on which nothing but blanks and a comment may follow. -/
def lineEnd? (s : List Char) : Option (List Char) :=
  match skipComment (skipBlanks s) with
  | [] => some []
  | rest => newline? rest

/-- What remains behind blanks, comments and line ends, from the inside of a comment or from outside. Nothing if a
character may not stand in its comment. -/
def skipVoidFrom? : Bool → List Char → Option (List Char)
  | _, [] => some []
  | _, '\n' :: rest => skipVoidFrom? false rest
  | _, '\r' :: '\n' :: rest => skipVoidFrom? false rest
  | true, c :: rest => if isPlain c then skipVoidFrom? true rest else none
  | false, c :: rest =>
    if isBlank c then skipVoidFrom? false rest
    else if c = '#' then skipVoidFrom? true rest
    else some (c :: rest)

/-- What remains behind blanks, comments and line ends. -/
def skipVoid? (s : List Char) : Option (List Char) := skipVoidFrom? false s

/-! ## Strings -/

def isQuote (c : Char) : Bool := c == quotation || c == apostrophe

/-- Reads the end of a string over several lines: three delimiters, before which one or two more may stand that belong
to the string. -/
def longEnd? (delimiter : Char) : List Char → Option (List Char × List Char)
  | a :: b :: c :: rest =>
    if a = delimiter ∧ b = delimiter ∧ c = delimiter then
      match rest with
      | d :: e :: more =>
        if d = delimiter ∧ e = delimiter then some ([d, e], more)
        else if d = delimiter then some ([d], e :: more)
        else some ([], rest)
      | [d] => if d = delimiter then some ([d], []) else some ([], rest)
      | [] => some ([], [])
    else none
  | _ => none

/-- Whether a character belongs to the backslash before it and does not end the string. -/
def isGuarded (c : Char) : Bool := c == backslash || c == quotation

/-- What remains behind the end of a string on one line. If it has none, what remains of the text from the end of the
line on. `escaped` tells whether there is a backslash before, between quotation marks. -/
def skipShort (delimiter : Char) : Bool → List Char → List Char
  | _, [] => []
  | escaped, c :: rest =>
    if escaped && isGuarded c then skipShort delimiter false rest
    else if c = delimiter then rest
    else if c = '\n' then c :: rest
    else skipShort delimiter (c == backslash && delimiter == quotation) rest

/-- What remains behind the end of a string over several lines. If it has none, nothing remains. `escaped` tells whether
there is a backslash before, between quotation marks. -/
def skipLong (delimiter : Char) : Bool → List Char → List Char
  | _, [] => []
  | escaped, c :: rest =>
    if escaped && isGuarded c then skipLong delimiter false rest
    else
      match longEnd? delimiter (c :: rest) with
      | some (_, after) => after
      | none => skipLong delimiter (c == backslash && delimiter == quotation) rest

def skipString : List Char → List Char
  | a :: b :: c :: rest => if a = b ∧ b = c then skipLong a false rest else skipShort a false (b :: c :: rest)
  | a :: rest => skipShort a false rest
  | [] => []

/-- The characters of a string, with its quotes. -/
def stringText (s : List Char) : List Char := s.take (s.length - (skipString s).length)

/-! ## Words -/

/-- A character that words are made of: none that stands between keys, values and items. -/
def isWordChar (c : Char) : Bool :=
  !(isBlank c || c == '\n' || c == '\r' || c == '=' || c == ',' || c == '#' || c == '[' || c == ']' ||
    c == openBrace || c == closeBrace)

/-- What remains of a word behind `blanks`, which were passed over last and belong to it only if it goes on. Behind
blanks it does not go on with a dot. A quote opens a string, and so ends the word, unless there is a character before it
that is neither blank nor dot: `inside`. -/
def wordFrom (inside : Bool) (blanks : List Char) : List Char → List Char
  | [] => []
  | c :: rest =>
    if isBlank c then wordFrom false (c :: blanks) rest
    else if c = '.' then if blanks.isEmpty then c :: wordFrom false [] rest else []
    else if isWordChar c && (inside || !isQuote c) then blanks.reverse ++ c :: wordFrom true [] rest
    else []

/-- The characters of a word. It goes on over the blanks between it and the next word. -/
def word (s : List Char) : List Char := wordFrom false [] s

/-! ## Keys and scalars -/

/-- The characters of a key. A key without quotes ends before a dot or a blank. -/
def keyText (s : List Char) : List Char :=
  if s.head?.any isQuote then stringText s else s.takeWhile fun c => isWordChar c && c != '.'

def scalarText (s : List Char) : List Char := if s.head?.any isQuote then stringText s else word s

end PostMortem.Toml
