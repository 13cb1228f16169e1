/-! # Input and output errors

An operation on files fails for a reason of the operating system, or for one that the device itself gives as a text.
-/
set_option autoImplicit false

namespace PostMortem

/-- The reasons of the operating system that operations on a file tree can meet. -/
inductive Errno
  | noEntry | busy | alreadyExists | notDirectory | isDirectory | invalidArgument | nameTooLong | notEmpty
deriving DecidableEq, Repr

namespace Errno

def number : Errno → Nat
  | noEntry => 2
  | busy => 16
  | alreadyExists => 17
  | notDirectory => 20
  | isDirectory => 21
  | invalidArgument => 22
  | nameTooLong => 36
  | notEmpty => 39

def text : Errno → String
  | noEntry => "No such file or directory"
  | busy => "Device or resource busy"
  | alreadyExists => "File exists"
  | notDirectory => "Not a directory"
  | isDirectory => "Is a directory"
  | invalidArgument => "Invalid argument"
  | nameTooLong => "File name too long"
  | notEmpty => "Directory not empty"

end Errno

/-- Why an operation on a file or a writer failed. -/
inductive IoError
  | system (reason : Errno)
  | custom (message : String)
deriving DecidableEq, Repr

namespace IoError

def message : IoError → String
  | system reason => reason.text ++ " (os error " ++ toString reason.number ++ ")"
  | custom message => message

/-- The failure of an operation on a path that no file name can have. -/
def nullInPath : IoError := custom "file name contained an unexpected NUL byte"

end IoError

end PostMortem
