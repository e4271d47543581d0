import LinkTemplate.Text
/-!
# Arguments of the program

The arguments are first cut into flags, options with their values and positional
arguments, and the command is then made from these.  Options may stand anywhere;
`--` ends them.  A value may be attached to its option, with or without an equals
sign; one that stands by itself must not look like an option, which everything
does that begins with a hyphen and has more than that.
-/

namespace LinkTemplate.CommandLine

/-- What the program is asked to do. -/
inductive Command where
  /-- Expand a template. -/
  | expand (template : Text) (scalars lists : List Text) (paramsFile? : Option Text)
    (staged raw : Bool)
  /-- Check templates. -/
  | check (templates : List Text)
  /-- Render a search package for a query. -/
  | search (package query : Text) (json : Bool)
deriving DecidableEq, Repr

/-- Why there is no command. -/
inductive Notice where
  /-- The version was asked for. -/
  | version
  /-- Help was asked for. -/
  | help
  /-- The arguments are no command. -/
  | misuse
deriving DecidableEq, Repr

/-! ### Options -/

/-- An option of a command. -/
structure OptionSpec where
  long : Text
  short? : Option Char
  takesValue : Bool
deriving DecidableEq, Repr

/-- A part of the arguments. -/
inductive Item where
  | flag (name : Text)
  | option (name value : Text)
  | positional (value : Text)
deriving DecidableEq, Repr

/-- The option that every command has. -/
def helpOption : OptionSpec := ⟨"help".toList, some 'h', false⟩

/-- An argument looks like an option. -/
def isOptionLike : Text → Bool
  | '-' :: _ :: _ => true
  | _ => false

/-- Cuts arguments into items. -/
def items (specs : List OptionSpec) : List Text → Except Notice (List Item)
  | [] => .ok []
  | argument :: rest =>
    let next (spec : OptionSpec) (attached? : Option Text) : Except Notice (List Item) :=
      if spec = helpOption then .error (if attached?.isSome then .misuse else .help)
      else if spec.takesValue then
        match attached?, rest with
        | some value, rest => (items specs rest).map (.option spec.long value :: ·)
        | none, value :: rest =>
          if isOptionLike value then .error .misuse
          else (items specs rest).map (.option spec.long value :: ·)
        | none, [] => .error .misuse
      else if attached?.isSome then .error .misuse
      else (items specs rest).map (.flag spec.long :: ·)
    match argument with
    | ['-', '-'] => .ok (rest.map .positional)
    | '-' :: '-' :: long =>
      let (name, attached?) :=
        match Text.cutAt '=' long with
        | some (name, value) => (name, some value)
        | none => (long, none)
      match specs.find? fun spec => spec.long = name with
      | some spec => next spec attached?
      | none => .error .misuse
    | '-' :: short :: attached =>
      match specs.find? fun spec => spec.short? = some short with
      | some spec =>
        if spec = helpOption then .error .help
        else
          next spec (match attached with
            | [] => none
            | '=' :: value => some value
            | value => some value)
      | none => .error .misuse
    | _ => (items specs rest).map (.positional argument :: ·)

/-- The positional arguments. -/
def positionals (items : List Item) : List Text :=
  items.filterMap fun
    | .positional value => some value
    | _ => none

/-- The values of an option. -/
def values (name : Text) (items : List Item) : List Text :=
  items.filterMap fun
    | .option n value => if n = name then some value else none
    | _ => none

/-- Whether a flag is given; it must not be given twice. -/
def flag (name : Text) (items : List Item) : Except Notice Bool :=
  match items.countP (· = .flag name) with
  | 0 => .ok false
  | 1 => .ok true
  | _ => .error .misuse

/-- The value of an option that must not be given twice. -/
def single (name : Text) (items : List Item) : Except Notice (Option Text) :=
  match values name items with
  | [] => .ok none
  | [value] => .ok (some value)
  | _ => .error .misuse

/-- A path is not empty. -/
def path (value : Text) : Except Notice Text :=
  if value.isEmpty then .error .misuse else .ok value

/-! ### Commands -/

/-- The options of the command that expands a template. -/
def expandOptions : List OptionSpec :=
  [⟨"param".toList, some 'p', true⟩, ⟨"list".toList, some 'l', true⟩,
    ⟨"params".toList, none, true⟩, ⟨"partial".toList, none, false⟩,
    ⟨"raw".toList, none, false⟩, helpOption]

/-- Makes the command that expands a template. -/
def parseExpand (arguments : List Text) : Except Notice Command := do
  let items ← items expandOptions arguments
  let file? ← (← single "params".toList items).mapM path
  let staged ← flag "partial".toList items
  let raw ← flag "raw".toList items
  match positionals items with
  | [template] =>
    return .expand template (values "param".toList items) (values "list".toList items) file?
      staged raw
  | _ => .error .misuse

/-- Makes the command that checks templates. -/
def parseCheck (arguments : List Text) : Except Notice Command := do
  match positionals (← items [helpOption] arguments) with
  | [] => .error .misuse
  | templates => return .check templates

/-- The options of the command that renders a package. -/
def searchOptions : List OptionSpec := [⟨"json".toList, none, false⟩, helpOption]

/-- Makes the command that renders a package. -/
def parseSearch (arguments : List Text) : Except Notice Command := do
  let items ← items searchOptions arguments
  let json ← flag "json".toList items
  match positionals items with
  | [package, query] => return .search (← path package) query json
  | _ => .error .misuse

/-- An argument in front of the command asks for something. -/
def noticeOf (argument : Text) : Notice :=
  match argument with
  | '-' :: 'V' :: _ => .version
  | '-' :: 'h' :: _ => .help
  | _ =>
    if argument = "--version".toList then .version
    else if argument = "--help".toList || argument = "help".toList then .help
    else .misuse

/-- Makes the command that the arguments ask for. -/
def Command.parse : List Text → Except Notice Command
  | [] => .error .misuse
  | name :: arguments =>
    if name = "expand".toList then parseExpand arguments
    else if name = "check".toList then parseCheck arguments
    else if name = "search".toList then parseSearch arguments
    else .error (noticeOf name)

end LinkTemplate.CommandLine
