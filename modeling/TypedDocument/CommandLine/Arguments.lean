/-!
# Command-line arguments

A command is followed by positional arguments and options in any order. Options with a value take it from behind an
equals sign or from the next argument; behind a lone `--` everything is positional. Anything that does not fit is a
usage error as a whole.
-/

namespace TypedDocument.CommandLine

/-- The direction of a conversion. -/
inductive Direction where
  | outbound
  | inbound
deriving DecidableEq, Repr

/-- A command with its arguments. Files are given by their paths. -/
inductive Command where
  | validate (document schema : String) (partially json : Bool)
  | create (schema : String) (initial output : Option String) (pretty : Bool)
  | convert (document schema : String) (direction : Direction) (excluded excludedInbound : List String)
      (renames : List (String × String)) (output : Option String) (pretty : Bool)
  | jsonSchema (schema : String) (output : Option String) (pretty : Bool)
  | check (document schema : String) (json : Bool)
deriving DecidableEq, Repr

/-- How often an option may be given, and what it takes. -/
inductive OptionKind where
  | flag
  /-- A path, at most once. -/
  | path
  /-- A word, at most once. -/
  | word
  /-- A text, any number of times. -/
  | texts
deriving DecidableEq, Repr

structure OptionSpec where
  name : String
  short : Option Char
  kind : OptionKind

/-- What the arguments of a command amount to before they are checked against the command. -/
structure Given where
  positional : List String := []
  options : List (String × String) := []

namespace Given

/-- The values of an option in order. -/
def values (g : Given) (name : String) : List String :=
  g.options.filterMap fun (n, v) => if n = name then some v else none

def value? (g : Given) (name : String) : Option String := (g.values name).head?

def has (g : Given) (name : String) : Bool := (g.value? name).isSome

/-- Adds a value of an option, unless the option was given before and may not be repeated. Paths are not empty. -/
def add? (g : Given) (spec : OptionSpec) (value : String) : Option Given :=
  if spec.kind ≠ .texts && g.has spec.name then none
  else if spec.kind = .path && value.isEmpty then none
  else some { g with options := g.options ++ [(spec.name, value)] }

end Given

/-- Whether an argument looks like an option; a lone hyphen does not. -/
def looksLikeOption (arg : String) : Bool :=
  match arg.toList with
  | '-' :: _ :: _ => true
  | _ => false

/-- An option as it is written: by its name or by its letter, with the value attached to it if there is one. -/
def splitOption (arg : String) (specs : List OptionSpec) : Option (OptionSpec × Option String) :=
  match arg.toList with
  | '-' :: '-' :: body =>
    let name := String.ofList (body.takeWhile (· != '='))
    let value := match body.dropWhile (· != '=') with
      | [] => none
      | _ :: v => some (String.ofList v)
    (specs.find? fun s => s.name == name).map (·, value)
  | '-' :: letter :: body =>
    let value := match body with
      | [] => none
      | '=' :: v => some (String.ofList v)
      | v => some (String.ofList v)
    (specs.find? fun s => s.short == some letter).map (·, value)
  | _ => none

/-- Sorts arguments into positional ones and options. -/
def scan (specs : List OptionSpec) : List String → Given → Option Given
  | [], g => some g
  | arg :: rest, g =>
    if arg = "--" then some { g with positional := g.positional ++ rest }
    else if !looksLikeOption arg then scan specs rest { g with positional := g.positional ++ [arg] }
    else
      match splitOption arg specs with
      | none => none
      | some (spec, some value) =>
        if spec.kind = .flag then none else (g.add? spec value).bind (scan specs rest)
      | some (spec, none) =>
        if spec.kind = .flag then (g.add? spec "").bind (scan specs rest)
        else
          match rest with
          | [] => none
          | value :: rest' =>
            if looksLikeOption value then none else (g.add? spec value).bind (scan specs rest')

def schemaOption : OptionSpec := ⟨"schema", some 's', .path⟩

def outputOptions : List OptionSpec := [⟨"output", none, .path⟩, ⟨"pretty", none, .flag⟩]

/-- A rename from its two paths around the first equals sign; neither may be empty. -/
def readRename? (s : String) : Option (String × String) :=
  let cs := s.toList
  match cs.takeWhile (· != '='), cs.dropWhile (· != '=') with
  | c :: source, _ :: d :: target => some (String.ofList (c :: source), String.ofList (d :: target))
  | _, _ => none

def readDirection? : Option String → Option Direction
  | none => some .outbound
  | some "outbound" => some .outbound
  | some "inbound" => some .inbound
  | some _ => none

/-- The only positional argument of a command; it may not be empty. -/
def onlyPositional? (g : Given) : Option String :=
  match g.positional with
  | [document] => if document.isEmpty then none else some document
  | _ => none

/-- Succeeds if there are no positional arguments. -/
def noPositional? (g : Given) : Option Unit := if g.positional.isEmpty then some () else none

/-- The command that arguments stand for. -/
def Command.ofArguments? : List String → Option Command
  | [] => none
  | name :: args =>
    match name with
    | "validate" => do
      let g ← scan [schemaOption, ⟨"partial", none, .flag⟩, ⟨"json", none, .flag⟩] args {}
      return validate (← onlyPositional? g) (← g.value? "schema") (g.has "partial") (g.has "json")
    | "create" => do
      let g ← scan (schemaOption :: ⟨"initial", none, .path⟩ :: outputOptions) args {}
      noPositional? g
      return create (← g.value? "schema") (g.value? "initial") (g.value? "output") (g.has "pretty")
    | "convert" => do
      let g ← scan (schemaOption :: ⟨"direction", none, .word⟩ :: ⟨"exclude", none, .texts⟩ ::
        ⟨"exclude-inbound", none, .texts⟩ :: ⟨"rename", none, .texts⟩ :: outputOptions) args {}
      return convert (← onlyPositional? g) (← g.value? "schema") (← readDirection? (g.value? "direction"))
        (g.values "exclude") (g.values "exclude-inbound") (← (g.values "rename").mapM readRename?)
        (g.value? "output") (g.has "pretty")
    | "json-schema" => do
      let g ← scan (schemaOption :: outputOptions) args {}
      noPositional? g
      return jsonSchema (← g.value? "schema") (g.value? "output") (g.has "pretty")
    | "check" => do
      let g ← scan [schemaOption, ⟨"json", none, .flag⟩] args {}
      return check (← onlyPositional? g) (← g.value? "schema") (g.has "json")
    | _ => none

end TypedDocument.CommandLine
