import PostMortem.Log.Entry
import PostMortem.Text.Quoted

/-! # Log lines

The two forms in which a log entry without fields is written: plain, and as a JSON object. A plain line spells out the
control characters with which a terminal could be steered; a JSON object holds the message as it is.

* `LogForm.message`: what stands for the message of an entry in a log of this form.
* `LogForm.line`: the line of an entry.
-/
set_option autoImplicit false

namespace PostMortem

/-- A form of log lines. -/
inductive LogForm
  | plain | json
deriving DecidableEq, Repr

namespace LogForm

/-- A number below 256 as two lower-case hexadecimal digits. -/
def hexPair (n : Nat) : List Char := [Nat.digitChar (n / 16), Nat.digitChar (n % 16)]

/-! ## Plain lines -/

/-- The control characters of ASCII that can steer a terminal: bell, backspace, form feed, escape and delete. -/
def steering : List Char := ['\x07', '\x08', '\x0c', '\x1b', '\x7f']

/-- One character of a plain line. The control characters above ASCII can steer a terminal too. -/
def spelled (c : Char) : List Char :=
  let n := c.toNat
  if steering.contains c then '\x5c' :: 'x' :: hexPair n
  else if 0x80 ≤ n ∧ n < 0xA0 then '\x5c' :: 'u' :: '\x7b' :: Text.Quoted.lowerHex n ++ ['\x7d']
  else [c]

/-! ## JSON objects -/

def jsonChar (c : Char) : List Char :=
  match c with
  | '\x22' => ['\x5c', '\x22']
  | '\x5c' => ['\x5c', '\x5c']
  | '\x08' => ['\x5c', 'b']
  | '\t' => ['\x5c', 't']
  | '\n' => ['\x5c', 'n']
  | '\x0c' => ['\x5c', 'f']
  | '\r' => ['\x5c', 'r']
  | c => if c.toNat < 0x20 then '\x5c' :: 'u' :: '0' :: '0' :: hexPair c.toNat else [c]

def jsonString (s : String) : String := String.ofList ('\x22' :: s.toList.flatMap jsonChar ++ ['\x22'])

/-! ## Both forms -/

/-- The message of an entry as a log of this form holds it. -/
def message : LogForm → LogEntry → String
  | plain, entry => String.ofList (entry.message.toList.flatMap spelled)
  | json, entry => entry.message

def line (form : LogForm) (entry : LogEntry) : String :=
  let label := entry.severity.label
  let message := form.message entry
  match form with
  | plain => label ++ " " ++ message
  | json =>
    "\x7b" ++ jsonString "level" ++ ":" ++ jsonString label ++ "," ++ jsonString "fields" ++ ":" ++
      "\x7b" ++ jsonString "message" ++ ":" ++ jsonString message ++ "\x7d\x7d"

end LogForm

end PostMortem
