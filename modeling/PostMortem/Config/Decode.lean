import PostMortem.Config.Basic
import PostMortem.Config.Error

/-! # From document trees to configurations

The keys of a table are taken in the order of their names, not in that of the document, and the section under a key is
read completely when its key is reached; fields that are missing are noticed after that. A section may also be an
array, whose items are its fields in order.

* `named`: one of some names, given as a string or as a table with that one key.
* `SharedConfig.decode`, `ReportConfig.decode`, `StoreConfig.decode`: the sections.
* `FaultConfig.ofEntries`: the root table.
-/
set_option autoImplicit false

namespace PostMortem

open Toml

/-- The outcome of reading a value. -/
abbrev Decoded (α : Type) := Except Violation α

namespace Decode

/-- Puts an entry where its name belongs among sorted ones. -/
def insertSorted (entry : Key × Mark × Node) : Entries → Entries
  | [] => [entry]
  | first :: rest => if entry.1.name < first.1.name then entry :: first :: rest else first :: insertSorted entry rest

/-- The entries in the order of their names. -/
def sorted (entries : Entries) : Entries := entries.foldl (fun acc entry => insertSorted entry acc) []

/-- What is found where a value of some other kind is expected. -/
def found : Node → Found
  | .scalar value => .scalar value
  | .array _ => .sequence
  | .tables _ => .sequence
  | .table .. => .map

def string (expected : String) (mark : Mark) : Node → Decoded String
  | .scalar (.string s) => .ok s
  | node => .error ⟨mark, .invalidType (found node) expected⟩

/-- Makes sure that a value is an empty table or an empty array. -/
def empty (mark : Mark) : Node → Decoded Unit
  | .table _ [] => .ok ()
  | .table .. => .error ⟨mark, .tableNotEmpty⟩
  | .array [] => .ok ()
  | .array _ => .error ⟨mark, .arrayNotEmpty⟩
  | .tables [] => .ok ()
  | .tables _ => .error ⟨mark, .arrayNotEmpty⟩
  | .scalar value => .error ⟨mark, .notTable value⟩

def byName {α : Type} (ofName? : String → Option α) (names : List String) (mark : Mark) (name : String) : Decoded α :=
  match ofName? name with
  | some a => .ok a
  | none => .error ⟨mark, .unknownVariant name names⟩

/-- One of some names: a string, or a table with that name as its only key and nothing under it. -/
def named {α : Type} (ofName? : String → Option α) (names : List String) (mark : Mark) : Node → Decoded α
  | .scalar (.string s) => byName ofName? names mark s
  | .table _ [(key, inner, node)] => do
    let a ← byName ofName? names key.mark key.name
    empty inner node
    return a
  | .table _ [] => .error ⟨mark, .noVariant⟩
  | .table .. => .error ⟨mark, .severalVariants⟩
  | _ => .error ⟨mark, .notStringOrTable⟩

/-- A section: a table, or an array of its fields. A date stands for a table with one key of its own. -/
def sectionOf {α : Type} (name : String) (fields : List String) (ofEntries : Mark → Entries → Decoded α)
    (ofItems : Mark → List (Mark × Node) → Decoded α) (mark : Mark) : Node → Decoded α
  | .table _ entries => ofEntries mark entries
  | .array items => ofItems mark items
  | .tables items => ofItems mark items
  | .scalar .dateTime => .error ⟨mark, .unknownField "$__toml_private_datetime" fields⟩
  | .scalar value => .error ⟨mark, .invalidType (.scalar value) ("struct " ++ name)⟩

/-- An item by its number, or a default if there are not that many. -/
def item {α : Type} (items : List (Mark × Node)) (n : Nat) (decode : Mark → Node → Decoded α) (missing : Decoded α) :
    Decoded α :=
  match items[n]? with
  | some (mark, node) => decode mark node
  | none => missing

end Decode

/-! ## Named values -/

def Severity.decode : Mark → Node → Decoded Severity := Decode.named ofName? (all.map name)

def SinkKind.decode : Mark → Node → Decoded SinkKind := Decode.named ofName? (all.map name)

def Backend.decode : Mark → Node → Decoded Backend := Decode.named ofName? (all.map name)

/-! ## Sections -/

namespace SharedConfig

def fields : List String := ["log_level", "service_name"]

def decodeName : Mark → Node → Decoded String := Decode.string "a string"

/-- What has been read of the section. -/
structure Draft where
  logLevel : Option Severity := none
  serviceName : Option String := none

def Draft.add (draft : Draft) (entry : Key × Mark × Node) : Decoded Draft :=
  let (key, mark, node) := entry
  match key.name with
  | "log_level" => return { draft with logLevel := some (← Severity.decode mark node) }
  | "service_name" => return { draft with serviceName := some (← decodeName mark node) }
  | name => .error ⟨key.mark, .unknownField name fields⟩

def ofEntries (mark : Mark) (entries : Entries) : Decoded SharedConfig := do
  let draft ← (Decode.sorted entries).foldlM Draft.add {}
  match draft.serviceName with
  | some serviceName => return ⟨draft.logLevel.getD default, serviceName⟩
  | none => throw ⟨mark, .missingField "service_name"⟩

def ofItems (mark : Mark) (items : List (Mark × Node)) : Decoded SharedConfig := do
  let logLevel ← Decode.item items 0 Severity.decode (.ok default)
  let serviceName ← Decode.item items 1 decodeName
    (.error ⟨mark, .invalidLength 1 "struct SharedConfig with 2 elements"⟩)
  return ⟨logLevel, serviceName⟩

def decode : Mark → Node → Decoded SharedConfig := Decode.sectionOf "SharedConfig" fields ofEntries ofItems

end SharedConfig

namespace ReportConfig

def fields : List String := ["sink"]

def add (config : ReportConfig) (entry : Key × Mark × Node) : Decoded ReportConfig :=
  let (key, mark, node) := entry
  match key.name with
  | "sink" => return { config with sink := ← SinkKind.decode mark node }
  | name => .error ⟨key.mark, .unknownField name fields⟩

def ofEntries (_ : Mark) (entries : Entries) : Decoded ReportConfig := (Decode.sorted entries).foldlM add {}

def ofItems (_ : Mark) (items : List (Mark × Node)) : Decoded ReportConfig :=
  return ⟨← Decode.item items 0 SinkKind.decode (.ok default)⟩

def decode : Mark → Node → Decoded ReportConfig := Decode.sectionOf "ReportConfig" fields ofEntries ofItems

end ReportConfig

namespace StoreConfig

def fields : List String := ["backend", "path"]

def decodePath (mark : Mark) (node : Node) : Decoded (Option String) :=
  some <$> Decode.string "path string" mark node

def add (config : StoreConfig) (entry : Key × Mark × Node) : Decoded StoreConfig :=
  let (key, mark, node) := entry
  match key.name with
  | "backend" => return { config with backend := ← Backend.decode mark node }
  | "path" => return { config with path := ← decodePath mark node }
  | name => .error ⟨key.mark, .unknownField name fields⟩

def ofEntries (_ : Mark) (entries : Entries) : Decoded StoreConfig := (Decode.sorted entries).foldlM add {}

def ofItems (_ : Mark) (items : List (Mark × Node)) : Decoded StoreConfig :=
  return ⟨← Decode.item items 0 Backend.decode (.ok default), ← Decode.item items 1 decodePath (.ok none)⟩

def decode : Mark → Node → Decoded StoreConfig := Decode.sectionOf "StoreConfig" fields ofEntries ofItems

end StoreConfig

/-! ## The whole -/

namespace FaultConfig

def fields : List String := ["shared", "report", "store"]

/-- What has been read of the configuration. -/
structure Draft where
  shared : Option SharedConfig := none
  report : ReportConfig := {}
  store : StoreConfig := {}

def Draft.add (draft : Draft) (entry : Key × Mark × Node) : Decoded Draft :=
  let (key, mark, node) := entry
  match key.name with
  | "shared" => return { draft with shared := some (← SharedConfig.decode mark node) }
  | "report" => return { draft with report := ← ReportConfig.decode mark node }
  | "store" => return { draft with store := ← StoreConfig.decode mark node }
  | name => .error ⟨key.mark, .unknownField name fields⟩

def ofEntries (mark : Mark) (entries : Entries) : Decoded FaultConfig := do
  let draft ← (Decode.sorted entries).foldlM Draft.add {}
  match draft.shared with
  | some shared => return ⟨shared, draft.report, draft.store⟩
  | none => throw ⟨mark, .missingField "shared"⟩

end FaultConfig

end PostMortem
