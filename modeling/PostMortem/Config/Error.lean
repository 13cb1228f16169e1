import PostMortem.Decimal.Shortest
import PostMortem.FileTree.Error
import PostMortem.Text.Quoted
import PostMortem.Toml.Error
import PostMortem.Toml.Tree

/-! # Configuration errors

A configuration is refused because its file is missing or cannot be read, because its text is not a TOML document,
because the document breaks a rule of the configuration's form at some place, or because a value that has the right
form is not an allowed one.

* `Reason`: the rules of form.
* `ConfigError`: all causes, with their wording in `ConfigError.message`.
-/
set_option autoImplicit false

namespace PostMortem

/-! ## What is found where something else is expected -/

/-- A value that is not of the expected kind. -/
inductive Found
  | scalar (value : Toml.Scalar)
  | sequence
  | map
deriving DecidableEq, Repr

/-- A number as it is shown: without an exponent, with at least one place. None if it exceeds the numbers of its
width. -/
def Toml.Real.text? : Toml.Real → Option String
  | .nan => some "NaN"
  | .infinity negative => some (if negative then "-inf" else "inf")
  | .decimal negative digits exponent =>
    (Decimal.Binary64.ofDecimal digits exponent).map fun x =>
      (if negative then "-" else "") ++ (Decimal.shortest x).plain

/-- Whether a whole number has a form with a sign in so many bits and one more. -/
def fitsSigned (bits : Nat) (n : Int) : Bool := -(Nat.pow 2 bits : Int) ≤ n && n < (Nat.pow 2 bits : Int)

/-- Whether a whole number has a form without a sign in so many bits. -/
def fitsUnsigned (bits : Nat) (n : Int) : Bool := 0 ≤ n && n < (Nat.pow 2 bits : Int)

/-- A whole number as it is shown, with the width it takes where that is more than 64 bits. None if it exceeds 128
bits. -/
def integerText? (n : Int) : Option String :=
  let text := "integer `" ++ toString n ++ "`"
  if fitsSigned 63 n || fitsUnsigned 64 n then some text
  else if fitsSigned 127 n then some (text ++ " as i128")
  else if fitsUnsigned 128 n then some (text ++ " as u128")
  else none

/-! ## Rules of form -/

/-- How a value breaks the form of a configuration. -/
inductive Reason
  | unknownField (name : String) (expected : List String)
  | missingField (name : String)
  | unknownVariant (name : String) (expected : List String)
  | invalidType (found : Found) (expected : String)
  | invalidLength (length : Nat) (expected : String)
  | notStringOrTable
  | noVariant
  | severalVariants
  | tableNotEmpty
  | arrayNotEmpty
  | notTable (found : Toml.Scalar)
deriving DecidableEq, Repr

namespace Reason

/-- A name as it is shown in a list of names. -/
def ticked (name : String) : String := "`" ++ name ++ "`"

def oneOf : List String → String
  | [] => "there are no names"
  | [a] => ticked a
  | [a, b] => ticked a ++ " or " ++ ticked b
  | names => "one of " ++ String.intercalate ", " (names.map ticked)

def kind : Toml.Scalar → String
  | .string _ => "string"
  | .integer _ => "integer"
  | .real _ => "float"
  | .boolean _ => "boolean"
  | .dateTime => "datetime"

/-- The wording for a value of the wrong kind. A number beyond its width, or none at all, has a wording of its own. -/
def wrongType (expected : String) : Found → String
  | .scalar (.string s) => describe ("string " ++ Text.Quoted.quote s)
  | .scalar (.integer n) => ((n.bind integerText?).map describe).getD "integer number overflowed"
  | .scalar (.real x) =>
    ((x.text?).map fun text => describe ("floating point `" ++ text ++ "`")).getD "floating-point number overflowed"
  | .scalar (.boolean b) => describe ("boolean `" ++ (if b then "true" else "false") ++ "`")
  | .scalar .dateTime => describe "map"
  | .sequence => describe "sequence"
  | .map => describe "map"
where
  /-- The wording around what was found. -/
  describe (found : String) : String := "invalid type: " ++ found ++ ", expected " ++ expected

/-- The wording of a rule that is broken. -/
def message : Reason → String
  | unknownField name expected => "unknown field " ++ ticked name ++ ", expected " ++ oneOf expected
  | missingField name => "missing field " ++ ticked name
  | unknownVariant name expected => "unknown variant " ++ ticked name ++ ", expected " ++ oneOf expected
  | invalidType found expected => wrongType expected found
  | invalidLength length expected => "invalid length " ++ toString length ++ ", expected " ++ expected
  | notStringOrTable => "wanted string or table"
  | noVariant => "wanted exactly 1 element, found 0 elements"
  | severalVariants => "wanted exactly 1 element, more than 1 element"
  | tableNotEmpty => "expected empty table"
  | arrayNotEmpty => "expected empty array"
  | notTable found => "expected table, found " ++ kind found

end Reason

/-- A rule of form that is broken, and where. -/
structure Violation where
  mark : Toml.Mark
  reason : Reason
deriving DecidableEq, Repr

/-! ## Errors -/

/-- Why a configuration is refused. -/
inductive ConfigError
  | fileNotFound
  | unreadable (cause : IoError)
  | notText
  | notToml (cause : Toml.DocumentError)
  | malformed (position : Toml.Position) (reason : Reason)
  | emptyServiceName
  | emptyStorePath
deriving DecidableEq, Repr

namespace ConfigError

/-- The three classes of errors. -/
inductive Class
  | fileNotFound | parse | validation
deriving DecidableEq, Repr

def kind : ConfigError → Class
  | fileNotFound => .fileNotFound
  | emptyServiceName => .validation
  | emptyStorePath => .validation
  | _ => .parse

/-- What is wrong, without the wording of the class. -/
def detail : ConfigError → String
  | fileNotFound => ""
  | unreadable cause => cause.message
  | notText => "stream did not contain valid UTF-8"
  | notToml .malformed => "TOML syntax error"
  | notToml .pathTooLong => "recursion limit\n"
  | malformed position reason =>
    "line " ++ toString position.line ++ ", column " ++ toString position.column ++ ": " ++ reason.message
  | emptyServiceName => "service_name cannot be empty"
  | emptyStorePath => "store.path cannot be empty"

def message (e : ConfigError) : String :=
  match e.kind with
  | .fileNotFound => "Configuration file not found"
  | .parse => "Failed to parse configuration: " ++ e.detail
  | .validation => "Configuration validation failed: " ++ e.detail

end ConfigError

end PostMortem
