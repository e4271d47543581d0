import LinkTemplate.CommandLine.Arguments
import LinkTemplate.CommandLine.Transcript
import LinkTemplate.Package
import LinkTemplate.Params.Document
/-!
# The program

What a command writes and how it exits, as a function of its arguments and of what it
finds around it, its `Environment`.  Each command is a `Transcript`, which runs through its
steps, may be stopped by a failure between any two of them, and otherwise gives the
exit status.  A failure is reported where the program ends.  An invalid template is
no failure but a result of the check of templates, which counts it.

Where the output goes to a terminal, words are set off by escape sequences; variables of
the system can force or forbid this.

What other libraries write or decide is left to the environment: the texts of the log and
of the answers to arguments that are no command, what is wrong with a document that is
refused, and which texts are absolute URLs.
-/

namespace LinkTemplate.CommandLine

/-! ### Styles -/

/-- The ways in which a word is set off. -/
inductive Style where
  | red
  | green
  | yellow
  | cyan
  | bold
  | boldRed
deriving DecidableEq, Repr

namespace Style

/-- The parameters of the escape sequence of a style. -/
def codes : Style → Text
  | red => ['3', '1']
  | green => ['3', '2']
  | yellow => ['3', '3']
  | cyan => ['3', '6']
  | bold => ['1']
  | boldRed => ['1', ';', '3', '1']

/-- An escape sequence. -/
def sequence (codes : Text) : Text := '\x1b' :: '[' :: codes ++ ['m']

/-- The sequence that ends a style. -/
def reset : Text := sequence ['0']

/-- The text with a style put again after each sequence that ends one. -/
def resume (style : Text) : Text → Text
  | '\x1b' :: '[' :: '0' :: 'm' :: rest => reset ++ style ++ resume style rest
  | c :: rest => c :: resume style rest
  | [] => []

/-- A text in a style, if styles are used at all. -/
def paint (styled : Bool) (style : Style) (t : Text) : Text :=
  if styled then sequence style.codes ++ resume (sequence style.codes) t ++ reset else t

/-- A variable of the environment is set to something other than zero. -/
def isOn (setting? : Option Text) : Bool := setting?.any (· ≠ ['0'])

/-- Whether styles are used at all.  Forcing them wins over forbidding them, and otherwise they are
for terminals only, unless they are switched off there. -/
def areUsed (forced? forbidden? switch? : Option Text) (terminal : Bool) : Bool :=
  isOn forced? || (forbidden?.isNone && terminal && (switch?.isNone || isOn switch?))

end Style

/-! ### What a run depends on -/

/-- What a run leaves behind. -/
structure Outcome where
  exit : Nat
  stdout : Text
  stderr : Text
deriving DecidableEq, Repr

/-- The bytes of the file at a path, or the system's reason for refusing them. -/
abbrev ReadFile := Text → Except Text (List UInt8)

/-- What a run depends on besides its arguments.  Every run has an environment of its own. -/
structure Environment where
  read : ReadFile
  /-- Whether styles are used. -/
  styled : Bool
  /-- Whether a text is an absolute URL. -/
  isAbsolute : Text → Bool
  wording : Wording
  /-- What is written to the log about an event.  Events are counted from zero, since what is
  written about two of them may differ in the time. -/
  log : Nat → LogEvent → Text
  /-- How the program ends where the arguments are no command. -/
  answer : Notice → Outcome

/-- What is written to the log about events. -/
def Environment.logged (env : Environment) (events : List LogEvent) : Text :=
  (events.mapIdx env.log).flatten

/-! ### Failures -/

/-- The line that says what went wrong. -/
def errorLine (styled : Bool) (message : Text) : Text :=
  Style.boldRed.paint styled "Error:".toList ++ ' ' :: message

/-- The line that says what the user can do about it. -/
def fixLine (styled : Bool) (fix : Text) : Text :=
  "  ".toList ++ Style.yellow.paint styled "Fix:".toList ++ ' ' :: fix

/-- Why a command failed. -/
inductive Failure where
  /-- The parameters' file could not be read. -/
  | unreadable (file reason : Text)
  /-- The package could not be loaded. -/
  | package (file : Text) (cause : Error)
  | error (cause : Error)
deriving DecidableEq, Repr

namespace Failure

/-- An error with what caused it: what another program said stands behind the message once more. -/
def trace (e : Error) : Text :=
  match e.detail? with
  | some detail => e.message ++ ": ".toList ++ detail
  | none => e.message

/-- The message for a failure. -/
def message : Failure → Text
  | unreadable file reason => "reading ".toList ++ file ++ ": ".toList ++ reason
  | package file cause => "loading package ".toList ++ file ++ ": ".toList ++ trace cause
  | error cause => trace cause

/-- The error behind a failure.  There is none behind a parameters' file that could not be read:
what the system said is passed on as it is. -/
def error? : Failure → Option Error
  | unreadable .. => none
  | package _ cause => some cause
  | error cause => some cause

/-- The lines that report a failure. -/
def report (styled : Bool) (failure : Failure) : List Text :=
  errorLine styled failure.message ::
    failure.error?.toList.map fun cause => fixLine styled cause.fix

end Failure

/-- An error of the library stops a command as it is. -/
instance : MonadLift (Except Error) (Transcript Failure) where
  monadLift result := .ofResult (result.mapError .error)

@[simp] theorem liftM_error_bind {α β : Type} (cause : Error) (next : α → Transcript Failure β) :
    (liftM (Except.error cause : Except Error α) >>= next) = ⟨[], [], .error (.error cause)⟩ := rfl

@[simp] theorem liftM_ok_bind {α β : Type} (a : α) (next : α → Transcript Failure β) :
    (liftM (Except.ok a : Except Error α) >>= next) = next a := rfl

/-- How a run of the program ends: a command gives the exit status itself, a failure is reported. -/
def Outcome.ofTranscript (styled : Bool) (t : Transcript Failure Nat) : Outcome :=
  match t.result with
  | .ok exit => ⟨exit, t.stdout, t.stderr⟩
  | .error failure => ⟨1, t.stdout, t.stderr ++ unlines (failure.report styled)⟩

/-! ### Files -/

/-- The text of a file. -/
def readText (read : ReadFile) (file : Text) : Except Text Text :=
  match read file with
  | .error reason => .error reason
  | .ok bytes =>
    match Text.ofBytes? bytes with
    | some t => .ok t
    | none => .error "stream did not contain valid UTF-8".toList

/-- What follows the last point of a file's name.  A point at its start does not count. -/
def extension? (file : Text) : Option Text :=
  let name := (file.reverse.takeWhile (· ≠ '/')).reverse
  match name with
  | [] => none
  | _ :: rest =>
    if rest.contains '.' then some (rest.reverse.takeWhile (· ≠ '.')).reverse else none

/-- The parameters of a document: JSON if the extension of its file says so, YAML otherwise. -/
def documentParams (wording : Wording) (file t : Text) : Except Error Params :=
  if extension? file = some "json".toList then Params.ofJsonText wording.json t
  else Params.ofYamlText wording.yaml t

/-- Loads parameters from a file. -/
def loadParams (env : Environment) (file : Text) : Except Failure Params :=
  match readText env.read file with
  | .error reason => .error (.unreadable file reason)
  | .ok t => (documentParams env.wording file t).mapError .error

/-- Loads a package from a file. -/
def loadPackage (env : Environment) (file : Text) : Except Failure Package :=
  match readText env.read file with
  | .error reason => .error (.package file (.io reason))
  | .ok t => (Package.ofYamlText env.wording.package t).mapError (.package file)

/-! ### Assignments -/

/-- The name and the value of `name=value`; the name must not be empty. -/
def splitAssignment (input : Text) : Except Error (Text × Text) :=
  match Text.cutAt '=' input with
  | some (c :: name, value) => .ok (c :: name, value)
  | _ => .error (.assignment input)

/-- The items of a list that is written with commas; a list without text has no items. -/
def listItems (value : Text) : List Text := if value.isEmpty then [] else value.splitOn ','

/-- Binds the names of assignments, one after another, to what `toValue` makes of their values. -/
def bindAll (toValue : Text → Value) : Params → List Text → Except Error Params
  | params, [] => .ok params
  | params, input :: inputs =>
    match splitAssignment input with
    | .error e => .error e
    | .ok (name, value) => bindAll toValue (params.insert name (toValue value)) inputs

/-- Adds the assignments of the command line to parameters; lists come after scalars. -/
def collectParams (params : Params) (scalars lists : List Text) : Except Error Params :=
  match bindAll .scalar params scalars with
  | .error e => .error e
  | .ok params => bindAll (fun value => .list (listItems value)) params lists

/-! ### Commands -/

/-- The parameters of a file, if one is given. -/
def fileParams (env : Environment) : Option Text → Except Failure Params
  | none => .ok .empty
  | some file => loadParams env file

/-- The encoder that is asked for. -/
def encoderOf (raw : Bool) : Encoder := if raw then Encoder.verbatim else Encoder.percent

/-- The mode that is asked for. -/
def modeOf (staged : Bool) : Mode := if staged then .staged else .full

/-- Expands a template. -/
def runExpand (env : Environment) (source : Text) (scalars lists : List Text)
    (paramsFile? : Option Text) (staged raw : Bool) : Transcript Failure Nat := do
  let loaded ← fileParams env paramsFile?
  let params ← collectParams loaded scalars lists
  let template ← Template.parse source
  .log (env.logged [.expansion source])
  let output ← template.expand params (encoderOf raw) (modeOf staged)
  .print output
  return 0

/-- The line that says whether a text is a template. -/
def verdictLine (styled valid : Bool) (source : Text) : Text :=
  (if valid then Style.green.paint styled ['✓'] else Style.red.paint styled ['✗']) ++ ' ' :: source

/-- The line for an expression of a template. -/
def expressionLine (e : Expression) : Text := "  expression ".toList ++ e.render

/-- The line for the names of a template. -/
def namesLine (names : List Text) : Text :=
  "  variables: ".toList ++ Text.joinWith ", ".toList names

/-- The line for a name that is not standard. -/
def warningLine (styled : Bool) (l : Template.Lint) : Text :=
  "  ".toList ++ Style.yellow.paint styled "warning:".toList ++ ' ' :: l.message

/-- How the number of invalid templates is described. -/
def tally (failed total : Nat) : Text :=
  Text.ofNat failed ++ " of ".toList ++ Text.ofNat total ++ " templates invalid".toList

/-- Reports on one text, and says whether it is a template. -/
def checkTemplate (styled : Bool) (source : Text) : Transcript Failure Bool :=
  match Template.parse source with
  | .ok template => do
    .print (verdictLine styled true source)
    .printAll (template.expressions.map expressionLine)
    .print (namesLine template.names)
    .printAll (template.lint.map (warningLine styled))
    return true
  | .error e => do
    .print (verdictLine styled false source)
    .print ("  ".toList ++ e.message)
    .print (fixLine styled e.fix)
    return false

/-- Reports on texts one after another.  `failed` counts those that are no templates. -/
def checkTemplates (styled : Bool) (failed : Nat) : List Text → Transcript Failure Nat
  | [] => return failed
  | source :: sources => do
    let valid ← checkTemplate styled source
    checkTemplates styled (if valid then failed else failed + 1) sources

/-- Checks templates. -/
def runCheck (styled : Bool) (templates : List Text) : Transcript Failure Nat := do
  let failed ← checkTemplates styled 0 templates
  if 0 < failed then
    .printError (errorLine styled (tally failed templates.length))
    return 1
  else return 0

/-- A link as JSON. -/
def linkJson (l : Link) : Json :=
  .object [("name".toList, .string l.name),
    ("description".toList, l.description?.elim .null .string),
    ("query_uri".toList, .string l.uri), ("is_absolute".toList, .bool l.isAbsolute)]

/-- The line that shows a link. -/
def linkLine (styled : Bool) (l : Link) : Text :=
  "  ".toList ++ Style.cyan.paint styled l.name ++ ' ' :: l.uri

/-- Renders a package for a query. -/
def runSearch (env : Environment) (file query : Text) (json : Bool) : Transcript Failure Nat := do
  let package ← loadPackage env file
  let session := Session.start Encoder.percent
  .log (env.logged (package.events env.isAbsolute session query))
  let links ← (package.links env.isAbsolute session query).2
  if json then
    .print ((Json.array (links.map linkJson)).pretty 0)
  else
    .print (Style.bold.paint env.styled package.name)
    .printAll (links.map (linkLine env.styled))
  return 0

/-- The course of a command. -/
def Command.transcript (env : Environment) : Command → Transcript Failure Nat
  | .expand template scalars lists paramsFile? staged raw =>
    runExpand env template scalars lists paramsFile? staged raw
  | .check templates => runCheck env.styled templates
  | .search package query json => runSearch env package query json

/-- Runs a command. -/
def Command.run (env : Environment) (command : Command) : Outcome :=
  .ofTranscript env.styled (command.transcript env)

/-- Runs the program on its arguments. -/
def run (env : Environment) (arguments : List Text) : Outcome :=
  match Command.parse arguments with
  | .ok command => command.run env
  | .error notice => env.answer notice

/-- The file that a command reads. -/
def Command.file? : Command → Option Text
  | .expand _ _ _ paramsFile? _ _ => paramsFile?
  | .check _ => none
  | .search package _ _ => some package

end LinkTemplate.CommandLine
