/-! # Command-line arguments

Options have a long name and some a letter. Letters may stand together behind one dash; the value of an option stands
in the next word, behind an equality sign, or right behind its letter. A word that begins with a dash is no value,
unless it is the dash alone. Two dashes end the options, and no other word may follow. Nothing may be given twice, and
no value may be empty. Words are taken in order: a request for help or for the version counts when all words before it
were in order.

* `Request.parse`: what the words ask for.
-/
set_option autoImplicit false

namespace PostMortem.Inspector

/-- The options of an inspection. -/
structure Options where
  config : Option String := none
  store : Option String := none
  clear : Bool := false
  verbose : Bool := false
  json : Bool := false
deriving DecidableEq, Repr

/-- What a command line asks for. -/
inductive Request
  | inspect (options : Options)
  | help
  | version
  | misuse
deriving DecidableEq, Repr

/-- The options that take a value. -/
inductive Setting
  | config | store
deriving DecidableEq, Repr

/-- The options that take none. -/
inductive Switch
  | clear | verbose | json | help | version
deriving DecidableEq, Repr

/-- What an option is. -/
inductive Meaning
  | setting (which : Setting)
  | switch (which : Switch)
deriving DecidableEq, Repr

def Meaning.ofName? : String → Option Meaning
  | "config" => some (.setting .config)
  | "store" => some (.setting .store)
  | "clear" => some (.switch .clear)
  | "verbose" => some (.switch .verbose)
  | "json" => some (.switch .json)
  | "help" => some (.switch .help)
  | "version" => some (.switch .version)
  | _ => none

def Meaning.ofLetter? : Char → Option Meaning
  | 'c' => some (.setting .config)
  | 's' => some (.setting .store)
  | 'v' => some (.switch .verbose)
  | 'h' => some (.switch .help)
  | 'V' => some (.switch .version)
  | _ => none

/-- How reading goes on after a part of the command line: with these options, or to an end. -/
inductive Progress
  /-- All is in order so far. -/
  | ready (options : Options)
  /-- The next word has to be the value of this option. -/
  | awaiting (which : Setting) (options : Options)
  /-- What follows does not count. -/
  | over (request : Request)
deriving DecidableEq, Repr

def Options.set (o : Options) (which : Setting) (value : String) : Progress :=
  if value.isEmpty then .over .misuse
  else
    match which with
    | .config => if o.config.isSome then .over .misuse else .ready { o with config := some value }
    | .store => if o.store.isSome then .over .misuse else .ready { o with store := some value }

def Options.turnOn (o : Options) : Switch → Progress
  | .clear => if o.clear then .over .misuse else .ready { o with clear := true }
  | .verbose => if o.verbose then .over .misuse else .ready { o with verbose := true }
  | .json => if o.json then .over .misuse else .ready { o with json := true }
  | .help => .over .help
  | .version => .over .version

/-- Takes up a word with a long name, its dashes left out. -/
def Options.takeLong (o : Options) (word : List Char) : Progress :=
  let name := word.takeWhile (· != '=')
  let value? := match word.drop name.length with
    | _ :: value => some (String.ofList value)
    | [] => none
  match Meaning.ofName? (String.ofList name), value? with
  | some (.setting which), some value => o.set which value
  | some (.setting which), none => .awaiting which o
  | some (.switch which), none => o.turnOn which
  | _, _ => .over .misuse

/-- Takes up the letters behind one dash. What follows the letter of an option with a value is the value. -/
def Options.takeLetters (o : Options) : List Char → Progress
  | [] => .ready o
  | letter :: rest =>
    match Meaning.ofLetter? letter with
    | some (.switch which) =>
      match o.turnOn which with
      | .ready o => o.takeLetters rest
      | stop => stop
    | some (.setting which) =>
      match rest with
      | [] => .awaiting which o
      | '=' :: value => o.set which (String.ofList value)
      | value => o.set which (String.ofList value)
    | none => .over .misuse

/-- Whether a word is taken for options rather than for a value. -/
def looksLikeOption (word : String) : Bool :=
  match word.toList with
  | '-' :: _ :: _ => true
  | _ => false

/-- Takes up one word other than two dashes. -/
def Options.takeWord (o : Options) (word : String) : Progress :=
  match word.toList with
  | '-' :: '-' :: rest => o.takeLong rest
  | '-' :: letter :: rest => o.takeLetters (letter :: rest)
  | _ => .over .misuse

/-- Goes through the words of a command line. -/
def Progress.finish : Progress → List String → Request
  | .over request, _ => request
  | .ready o, [] => .inspect o
  | .awaiting .., [] => .misuse
  | .ready o, word :: rest =>
    if word = "--" then (if rest.isEmpty then .inspect o else .misuse)
    else finish (o.takeWord word) rest
  | .awaiting which o, word :: rest =>
    if looksLikeOption word then .misuse else finish (o.set which word) rest

/-- What the words of a command line ask for. -/
def Request.parse (words : List String) : Request := (Progress.ready {}).finish words

end PostMortem.Inspector
