import PostMortem.Fault.Record

/-! # Report lines

A text report is a list of lines, each a label, a value and a line end of carriage return and line feed. The value is
written as it is: a file name may hold anything, line ends included.

* `Line.pieces`: a line in the pieces in which it is written.
* `Line.text`, `Report.text`: a line and a whole report as one text.
-/
set_option autoImplicit false

namespace PostMortem

/-- One line of a report. -/
inductive Line
  | title
  | identifier (id : FaultId)
  | programCounter (pc : UInt32)
  | information (word : UInt64)
  | lineNumber (line : UInt16)
  | fileName (file : String)
  | faultType (name : String)
  | errorCode (code : StatusCode)
  | noRecord
deriving DecidableEq, Repr

namespace Line

/-- What stands in front of the value. -/
def label : Line → String
  | title => "Fault report:"
  | identifier _ => "Fault identifier:  "
  | programCounter _ => "Program counter:   "
  | information _ => "Fault information: "
  | lineNumber _ => "Line Number: "
  | fileName _ => "File Name:   "
  | faultType _ => "Fault type:        "
  | errorCode _ => "Error Code:  "
  | noRecord => "No fault record."

def value : Line → String
  | title => ""
  | identifier id => id.text
  | programCounter pc => Text.Hex.text pc.toNat
  | information word => Text.Hex.text word.toNat
  | lineNumber line => toString line.toNat
  | fileName file => file
  | faultType name => name
  | errorCode code => code.text
  | noRecord => ""

def lineEnd : String := "\r\n"

/-- The pieces in which a line is written. -/
def pieces (line : Line) : List String := [line.label, line.value, lineEnd]

def text (line : Line) : String := String.join line.pieces

end Line

/-- A report: its lines in order. -/
abbrev Report := List Line

namespace Report

/-- The pieces in which a report is written. -/
def pieces (report : Report) : List String := report.flatMap Line.pieces

def text (report : Report) : String := String.join report.pieces

end Report

end PostMortem
