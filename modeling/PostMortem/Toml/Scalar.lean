import PostMortem.Toml.Quoted

/-! # Scalars

A scalar is a string in quotes or a word. Numbers, truth values, dates and times are words; a word is taken whole and
has to be one of the forms.

* `integer?`: the whole numbers. Digits after the first may be followed by an underscore and any characters that are not
  those of a fraction or a time; whether they are digits of the number's base decides only what it stands for.
* `real?`: the numbers with a point or an exponent, and the words for infinity and for no number.
* `isDateTime`: dates, times, and both with or without an offset.
* `Scalar.ofText?`: the scalar that the characters of a scalar stand for.
-/
set_option autoImplicit false

namespace PostMortem.Toml

/-! ## Digits -/

/-- The digit of a base that a character stands for. -/
def baseDigit? (base : Nat) (c : Char) : Option Nat :=
  match Text.Hex.digitValue? c with
  | some d => if d < base then some d else none
  | none => none

/-- Whether a character is a digit of a base. -/
def isBaseDigit (base : Nat) (c : Char) : Bool := (baseDigit? base c).isSome

/-- The number that digits of a base stand for, if that is what they are. -/
def numeral? (base : Nat) (cs : List Char) : Option Nat :=
  if cs.isEmpty then none else cs.foldlM (fun n c => (baseDigit? base c).map (base * n + ·)) 0

def startsWithDigit (isDigit : Char → Bool) (cs : List Char) : Bool := cs.head?.any isDigit

/-- Whether every underscore but one in front stands between digits. -/
def isGroupedInside (isDigit : Char → Bool) : List Char → Bool
  | [] => true
  | c :: rest =>
    (rest.head? != some '_' || (isDigit c && startsWithDigit isDigit rest.tail)) && isGroupedInside isDigit rest

/-- Whether every underscore stands between digits. -/
def isGrouped (isDigit : Char → Bool) (cs : List Char) : Bool :=
  cs.head? != some '_' && isGroupedInside isDigit cs

def ungrouped (cs : List Char) : List Char := cs.filter (· != '_')

/-- A sign, if there is one, and what follows it: whether it is a minus, and the rest. -/
def sign : List Char → Bool × List Char
  | '-' :: rest => (true, rest)
  | '+' :: rest => (false, rest)
  | cs => (false, cs)

/-- A number with a minus in front, or without. -/
def signedNumber (negative : Bool) (n : Nat) : Int := if negative then -(n : Int) else n

/-! ## Numbers -/

/-- Whether this is a whole number behind its sign. A zero in front of it stands alone. -/
def isWhole (cs : List Char) : Bool :=
  match cs.dropWhile Char.isDigit with
  | [] => cs == ['0'] || (!cs.isEmpty && cs.head? != some '0')
  | '_' :: _ =>
    cs.head? != some '0' && isGrouped (isBaseDigit 16) cs &&
      cs.all fun c => c != ' ' && c != '.' && c != 'e' && c != 'E'
  | _ => false

/-- Digits behind the mark of their base. -/
def based? (base : Nat) (cs : List Char) : Option (Option Int) :=
  if (cs.all fun c => isBaseDigit base c || c == '_') && isGrouped (isBaseDigit base) cs then
    some ((numeral? base (ungrouped cs)).map Int.ofNat)
  else none

/-- A whole number: decimal with or without a sign, or with a mark for its base. -/
def integer? : List Char → Option (Option Int)
  | '0' :: 'x' :: rest => based? 16 rest
  | '0' :: 'o' :: rest => based? 8 rest
  | '0' :: 'b' :: rest => based? 2 rest
  | cs =>
    let (negative, rest) := sign cs
    if isWhole rest then some ((numeral? 10 (ungrouped rest)).map (signedNumber negative)) else none

/-- The digits of a fraction, if there is one, and what follows them. -/
def fractionDigits? : List Char → Option (List Char × List Char)
  | '.' :: rest =>
    let ds := rest.takeWhile Char.isDigit
    if ds.isEmpty then none else some (ds, rest.drop ds.length)
  | cs => some ([], cs)

/-- The exponent, if there is one, and nothing else. -/
def exponent? : List Char → Option Int
  | [] => some 0
  | c :: cs =>
    if c = 'e' ∨ c = 'E' then
      let (negative, rest) := sign cs
      (numeral? 10 rest).map (signedNumber negative)
    else none

/-- A number with a point, an exponent, or both, behind its sign. -/
def decimal? (negative : Bool) (cs : List Char) : Option Real := do
  let plain := ungrouped cs
  let whole := plain.takeWhile Char.isDigit
  if !isGrouped Char.isDigit cs || whole.isEmpty || whole.length == plain.length then none
  if cs.head? = some '0' ∧ 1 < whole.length then none
  let (fraction, rest) ← fractionDigits? (plain.drop whole.length)
  let exponent ← exponent? rest
  let digits ← numeral? 10 (whole ++ fraction)
  some (.decimal negative digits (exponent - fraction.length))

/-- A number with a point or an exponent, or one of the words for infinity and for no number. -/
def real? (cs : List Char) : Option Real :=
  let (negative, rest) := sign cs
  match rest with
  | ['i', 'n', 'f'] => some (.infinity negative)
  | ['n', 'a', 'n'] => some .nan
  | _ => decimal? negative rest

/-! ## Dates and times -/

def twoDigits? : List Char → Option (Nat × List Char)
  | a :: b :: rest => (numeral? 10 [a, b]).map (·, rest)
  | _ => none

def daysIn (year month : Nat) : Nat :=
  if month = 2 then
    if year % 4 = 0 ∧ (year % 100 ≠ 0 ∨ year % 400 = 0) then 29 else 28
  else if month = 4 ∨ month = 6 ∨ month = 9 ∨ month = 11 then 30
  else 31

def date? (cs : List Char) : Option (List Char) := do
  let (century, cs) ← twoDigits? cs
  let (year, cs) ← twoDigits? cs
  let '-' :: cs := cs | none
  let (month, cs) ← twoDigits? cs
  let '-' :: cs := cs | none
  let (day, cs) ← twoDigits? cs
  if 1 ≤ month ∧ month ≤ 12 ∧ 1 ≤ day ∧ day ≤ daysIn (100 * century + year) month then some cs else none

/-- Reads a fraction of a second, if there is one. -/
def fraction? : List Char → Option (List Char)
  | '.' :: rest => if (rest.takeWhile Char.isDigit).isEmpty then none else some (rest.dropWhile Char.isDigit)
  | cs => some cs

/-- Reads a time of day. The seconds may be left out. -/
def time? (cs : List Char) : Option (List Char) := do
  let (hour, cs) ← twoDigits? cs
  let ':' :: cs := cs | none
  let (minute, cs) ← twoDigits? cs
  let (second, cs) ← match cs with
    | ':' :: cs => do
      let (second, cs) ← twoDigits? cs
      let cs ← fraction? cs
      some (second, cs)
    | _ => some (0, cs)
  if hour ≤ 23 ∧ minute ≤ 59 ∧ second ≤ 60 then some cs else none

/-- Whether this is an offset from universal time, or nothing. -/
def isOffset : List Char → Bool
  | [] => true
  | ['Z'] => true
  | ['z'] => true
  | c :: cs =>
    (c == '+' || c == '-') &&
      match twoDigits? cs with
      | some (hour, ':' :: cs) =>
        match twoDigits? cs with
        | some (minute, []) => hour ≤ 23 && minute ≤ 59
        | _ => false
      | _ => false

/-- Whether this is a date, a time, or a date and a time with or without an offset. -/
def isDateTime (cs : List Char) : Bool :=
  match date? cs with
  | some [] => true
  | some (separator :: rest) =>
    (separator == 'T' || separator == 't' || separator == ' ') &&
      match time? rest with
      | some rest => isOffset rest
      | none => false
  | none => time? cs == some []

/-! ## Scalars -/

def ofWord? (cs : List Char) : Option Scalar :=
  if cs = ['t', 'r', 'u', 'e'] then some (.boolean true)
  else if cs = ['f', 'a', 'l', 's', 'e'] then some (.boolean false)
  else if isDateTime cs then some .dateTime
  else
    match integer? cs with
    | some n => some (.integer n)
    | none => (real? cs).map .real

/-- The scalar that the characters of a string or a word stand for. -/
def Scalar.ofText? (cs : List Char) : Option Scalar :=
  if cs.head?.any isQuote then
    match string? cs with
    | some (text, []) => some (.string text)
    | _ => none
  else ofWord? cs

end PostMortem.Toml
