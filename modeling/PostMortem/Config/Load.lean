import PostMortem.Config.Decode
import PostMortem.FileTree.Access
import PostMortem.Toml.Document

/-! # Loading a configuration

* `parseWith`: a configuration, or a section, from a text: whether the text is a TOML document is decided first, then
  the form.
* `SharedConfig.validate`, `FaultConfig.validate`: the values that are not allowed; the service name comes first.
* `FaultConfig.load`: a whole configuration from a file, validated.
-/
set_option autoImplicit false

namespace PostMortem

open Toml

/-! ## From a text -/

/-- Reads a text whose root table is decoded by `ofEntries`. -/
def parseWith {α : Type} (ofEntries : Mark → Entries → Decoded α) (text : List Char) : Except ConfigError α :=
  match Toml.document text with
  | .error cause => .error (.notToml cause)
  | .ok entries =>
    (ofEntries text.length entries).mapError fun violation =>
      .malformed (.ofMark text violation.mark) violation.reason

def parseBytesWith {α : Type} (ofEntries : Mark → Entries → Decoded α) (bytes : List UInt8) : Except ConfigError α :=
  match Text.Utf8.decodeChars? bytes with
  | none => .error .notText
  | some text => parseWith ofEntries text

/-! ## From a file -/

/-- What the failure to read a configuration file means. -/
def ConfigError.ofIoError : IoError → ConfigError
  | .system .noEntry => .fileNotFound
  | cause => .unreadable cause

def readWith {α : Type} (ofEntries : Mark → Entries → Decoded α) (files : FileTree) (path : String) :
    Except ConfigError α :=
  match files.read (.parse path) with
  | .error cause => .error (.ofIoError cause)
  | .ok bytes => parseBytesWith ofEntries bytes

/-! ## Values that are not allowed -/

/-- The service name must not be empty. -/
def SharedConfig.validate (config : SharedConfig) : Except ConfigError Unit :=
  if config.serviceName.isEmpty then .error .emptyServiceName else .ok ()

namespace FaultConfig

/-- The service name must not be empty, nor must the record path if there is one. -/
def validate (config : FaultConfig) : Except ConfigError Unit := do
  config.shared.validate
  if config.store.path = some "" then throw .emptyStorePath

def validated (config : FaultConfig) : Except ConfigError FaultConfig := do
  config.validate
  return config

/-- Reads a configuration from a text and validates it. -/
def ofText (text : String) : Except ConfigError FaultConfig := do
  (← parseWith ofEntries text.toList).validated

/-- Reads a configuration from a file and validates it. -/
def load (files : FileTree) (path : String) : Except ConfigError FaultConfig := do
  (← readWith ofEntries files path).validated

end FaultConfig

end PostMortem
