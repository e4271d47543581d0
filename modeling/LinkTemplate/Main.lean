import LinkTemplate.CommandLine
import LinkTemplate.Main.Url
/-!
# Entry point

Reads the one file that the command names, runs the command and writes what it
leaves behind.

The parameters of a run are fixed here.  URLs are those of `Url.isAbsolute`.  The log
shows what the default level lets through, without the time, and the readers of documents
do not say what is wrong with them.  Of the help only the first line is written, and of
the description of a misuse nothing.
-/

namespace LinkTemplate.CommandLine

/-- The system's reason for refusing a file. -/
def reasonOf (e : IO.Error) : Text :=
  match e with
  | .noFileOrDirectory .. => "No such file or directory (os error 2)".toList
  | .permissionDenied .. => "Permission denied (os error 13)".toList
  | .inappropriateType .. => "Is a directory (os error 21)".toList
  | e => (toString e).toList

/-- Reads a file. -/
def readBytes (file : Text) : IO (Except Text (List UInt8)) := do
  try
    return .ok (← IO.FS.readBinFile (String.ofList file)).toList
  catch e => return .error (reasonOf e)

/-- What the default level of the log lets through. -/
def LogEvent.warning : LogEvent → Text
  | .expansion _ => []
  | .relative link =>
    unlines ["WARN expanded template is not an absolute URL resource=".toList ++ link.name ++
      " uri=".toList ++ link.uri]

/-- How the program ends where its arguments are no command. -/
def Notice.outcome : Notice → Outcome
  | .version => ⟨0, unlines ["uritemplate 0.1.0".toList], []⟩
  | .help => ⟨0, unlines ["Expand URI Templates (draft v3), fully or in stages".toList], []⟩
  | .misuse => ⟨2, [], []⟩

/-- What a run depends on, if the file that its command reads has these contents. -/
def environment (styled : Bool) (contents : Except Text (List UInt8)) : Environment where
  read := fun _ => contents
  styled
  isAbsolute := Url.isAbsolute
  wording := ⟨fun _ => [], fun _ => [], fun _ => []⟩
  log := fun _ event => LogEvent.warning event
  answer := Notice.outcome

/-- Runs the program with the file that its command reads. -/
def runWithFile (styled : Bool) (arguments : List Text) : IO Outcome := do
  let file? := (Command.parse arguments).toOption.bind Command.file?
  let contents ←
    match file? with
    | none => pure (.error [])
    | some file => readBytes file
  return run (environment styled contents) arguments

end LinkTemplate.CommandLine

/-- The program: its arguments select and shape a command. -/
def main (arguments : List String) : IO UInt32 := do
  let setting (name : String) : IO (Option LinkTemplate.Text) :=
    return (← IO.getEnv name).map String.toList
  let styled := LinkTemplate.CommandLine.Style.areUsed (← setting "CLICOLOR_FORCE")
    (← setting "NO_COLOR") (← setting "CLICOLOR") (← (← IO.getStdout).isTty)
  let outcome ← LinkTemplate.CommandLine.runWithFile styled (arguments.map String.toList)
  IO.print (String.ofList outcome.stdout)
  IO.eprint (String.ofList outcome.stderr)
  return outcome.exit.toUInt32
