import LinkTemplate.Proofs.CommandLine.Assignments
/-!
# How a command can end

A command that expands a template or renders a package is stopped at one of its stages
(`Command.Stops`), or it gets to its end and prints its results (`Command.Prints`).
Either is said in terms of the library, without the course of the command, and one of
the two is always the case (`Command.stops_or_prints`).

A command that is stopped has written no results, only to the log
(`Command.transcript_of_stops`): results are printed behind the last stage that can fail.
-/

namespace LinkTemplate

/-- A text is expanded by reading it and expanding the template. -/
theorem expandText_eq_expand {t : Text} {template : Template}
    (h : Template.parse t = .ok template) (params : Params) (encode : Encoder) (mode : Mode) :
    expandText t params encode mode = template.expand params encode mode := by
  rw [expandText, h]
  rfl

/-- A text that is expanded is a template. -/
theorem exists_parse_of_expandText {t output : Text} {params : Params} {encode : Encoder}
    {mode : Mode} (h : expandText t params encode mode = .ok output) :
    ∃ template, Template.parse t = .ok template ∧
      template.expand params encode mode = .ok output := by
  cases hparse : Template.parse t with
  | ok template => exact ⟨template, rfl, (expandText_eq_expand hparse _ _ _).symm.trans h⟩
  | error cause =>
    rw [expandText, hparse] at h
    cases h

namespace CommandLine

namespace Command

/-- The stages at which a command is stopped, what it has logged before, and the failures with which
it is stopped. -/
inductive Stops (env : Environment) : Command → Text → Failure → Prop
  /-- The parameters' file cannot be read, or is no text. -/
  | paramsFile {source file reason : Text} {scalars lists : List Text} {staged raw : Bool} :
      readText env.read file = .error reason →
      Stops env (.expand source scalars lists (some file) staged raw) [] (.unreadable file reason)
  /-- The parameters' file does not describe parameters. -/
  | paramsDocument {source file t : Text} {scalars lists : List Text} {staged raw : Bool}
      {cause : Error} : readText env.read file = .ok t →
      documentParams env.wording file t = .error cause →
      Stops env (.expand source scalars lists (some file) staged raw) [] (.error cause)
  /-- An argument is no assignment. -/
  | assignment {source : Text} {scalars lists : List Text} {file? : Option Text}
      {staged raw : Bool} {loaded : Params} {cause : Error} :
      fileParams env file? = .ok loaded → collectParams loaded scalars lists = .error cause →
      Stops env (.expand source scalars lists file? staged raw) [] (.error cause)
  /-- The template cannot be read. -/
  | template {source : Text} {scalars lists : List Text} {file? : Option Text}
      {staged raw : Bool} {loaded params : Params} {cause : Error} :
      fileParams env file? = .ok loaded → collectParams loaded scalars lists = .ok params →
      Template.parse source = .error cause →
      Stops env (.expand source scalars lists file? staged raw) [] (.error cause)
  /-- The template meets a value of the wrong kind. -/
  | expansion {source : Text} {scalars lists : List Text} {file? : Option Text}
      {staged raw : Bool} {loaded params : Params} {template : Template} {cause : Error} :
      fileParams env file? = .ok loaded → collectParams loaded scalars lists = .ok params →
      Template.parse source = .ok template →
      template.expand params (encoderOf raw) (modeOf staged) = .error cause →
      Stops env (.expand source scalars lists file? staged raw) (env.logged [.expansion source])
        (.error cause)
  /-- The package's file cannot be read, or is no text. -/
  | packageFile {file query reason : Text} {json : Bool} :
      readText env.read file = .error reason →
      Stops env (.search file query json) [] (.package file (.io reason))
  /-- The package's file does not describe a package. -/
  | packageDocument {file query t : Text} {json : Bool} {cause : Error} :
      readText env.read file = .ok t → Package.ofYamlText env.wording.package t = .error cause →
      Stops env (.search file query json) [] (.package file cause)
  /-- A resource of the package does not answer the query. -/
  | resource {file query : Text} {json : Bool} {package : Package} {cause : Error} :
      loadPackage env file = .ok package →
      (package.links env.isAbsolute (.start Encoder.percent) query).2 = .error cause →
      Stops env (.search file query json)
        (env.logged (package.events env.isAbsolute (.start Encoder.percent) query)) (.error cause)

/-- What a command logs, and the lines that it prints, where nothing stops it. -/
inductive Prints (env : Environment) : Command → Text → List Text → Prop
  /-- The expansion of the template. -/
  | expansion {source output : Text} {scalars lists : List Text} {file? : Option Text}
      {staged raw : Bool} {loaded params : Params} :
      fileParams env file? = .ok loaded → collectParams loaded scalars lists = .ok params →
      expandText source params (encoderOf raw) (modeOf staged) = .ok output →
      Prints env (.expand source scalars lists file? staged raw) (env.logged [.expansion source])
        [output]
  /-- The name of the package and its links. -/
  | links {file query : Text} {package : Package} {links : List Link} :
      loadPackage env file = .ok package →
      (package.links env.isAbsolute (.start Encoder.percent) query).2 = .ok links →
      Prints env (.search file query false)
        (env.logged (package.events env.isAbsolute (.start Encoder.percent) query))
        (Style.bold.paint env.styled package.name :: links.map (linkLine env.styled))
  /-- The links of the package as JSON. -/
  | json {file query : Text} {package : Package} {links : List Link} :
      loadPackage env file = .ok package →
      (package.links env.isAbsolute (.start Encoder.percent) query).2 = .ok links →
      Prints env (.search file query true)
        (env.logged (package.events env.isAbsolute (.start Encoder.percent) query))
        [(Json.array (links.map linkJson)).pretty 0]

section Files

variable {env : Environment} {file reason t : Text} {cause : Error}

theorem fileParams_of_unreadable (h : readText env.read file = .error reason) :
    fileParams env (some file) = .error (.unreadable file reason) := by
  rw [fileParams, loadParams, h]

theorem fileParams_of_readable (h : readText env.read file = .ok t) :
    fileParams env (some file) = (documentParams env.wording file t).mapError .error := by
  rw [fileParams, loadParams, h]

theorem loadPackage_of_unreadable (h : readText env.read file = .error reason) :
    loadPackage env file = .error (.package file (.io reason)) := by
  rw [loadPackage, h]

theorem loadPackage_of_readable (h : readText env.read file = .ok t) :
    loadPackage env file =
      (Package.ofYamlText env.wording.package t).mapError (.package file) := by
  rw [loadPackage, h]

end Files

variable {env : Environment} {command : Command} {logged : Text} {failure : Failure}
  {lines : List Text}

/-- A command that is stopped has written nothing but what it has logged. -/
theorem transcript_of_stops (h : command.Stops env logged failure) :
    command.transcript env = ⟨[], logged, .error failure⟩ := by
  cases h with
  | paramsFile hread => simp [transcript, runExpand, fileParams_of_unreadable hread]
  | paramsDocument hread hparams =>
    simp [transcript, runExpand, fileParams_of_readable hread, hparams, Except.mapError]
  | assignment hloaded hcollect => simp [transcript, runExpand, hloaded, hcollect]
  | template hloaded hcollect hparse => simp [transcript, runExpand, hloaded, hcollect, hparse]
  | expansion hloaded hcollect hparse hexpand =>
    simp [transcript, runExpand, hloaded, hcollect, hparse, hexpand]
  | packageFile hread => simp [transcript, runSearch, loadPackage_of_unreadable hread]
  | packageDocument hread hpackage =>
    simp [transcript, runSearch, loadPackage_of_readable hread, hpackage, Except.mapError]
  | resource hpackage hlinks => simp [transcript, runSearch, hpackage, hlinks]

/-- A command that is not stopped has written its results, besides what it has logged. -/
theorem transcript_of_prints (h : command.Prints env logged lines) :
    command.transcript env = ⟨unlines lines, logged, .ok 0⟩ := by
  cases h with
  | expansion hloaded hcollect hexpand =>
    obtain ⟨template, hparse, hexpand⟩ := exists_parse_of_expandText hexpand
    simp [transcript, runExpand, hloaded, hcollect, hparse, hexpand]
  | links hpackage hlinks => simp [transcript, runSearch, hpackage, hlinks]
  | json hpackage hlinks => simp [transcript, runSearch, hpackage, hlinks]

/-- A parameters' file that does not give parameters stops the command. -/
theorem stops_of_fileParams {source : Text} {scalars lists : List Text} {file? : Option Text}
    {staged raw : Bool} (h : fileParams env file? = .error failure) :
    (Command.expand source scalars lists file? staged raw).Stops env [] failure := by
  cases file? with
  | none => cases h
  | some file =>
    cases hread : readText env.read file with
    | error reason =>
      rw [fileParams_of_unreadable hread] at h
      cases h
      exact .paramsFile hread
    | ok t =>
      rw [fileParams_of_readable hread] at h
      cases hparams : documentParams env.wording file t with
      | error cause =>
        rw [hparams] at h
        cases h
        exact .paramsDocument hread hparams
      | ok loaded =>
        rw [hparams] at h
        cases h

/-- A package that is not loaded stops the command. -/
theorem stops_of_loadPackage {file query : Text} {json : Bool}
    (h : loadPackage env file = .error failure) :
    (Command.search file query json).Stops env [] failure := by
  cases hread : readText env.read file with
  | error reason =>
    rw [loadPackage_of_unreadable hread] at h
    cases h
    exact .packageFile hread
  | ok t =>
    rw [loadPackage_of_readable hread] at h
    cases hpackage : Package.ofYamlText env.wording.package t with
    | error cause =>
      rw [hpackage] at h
      cases h
      exact .packageDocument hread hpackage
    | ok package =>
      rw [hpackage] at h
      cases h

/-- The command checks templates. -/
def IsCheck : Command → Prop
  | .check _ => True
  | _ => False

/-- A command gets to its end unless it is stopped. -/
theorem stops_or_prints (env : Environment) {command : Command} (hcommand : ¬ command.IsCheck) :
    (∃ logged failure, command.Stops env logged failure) ∨
      ∃ logged lines, command.Prints env logged lines := by
  cases command with
  | check templates => exact absurd trivial hcommand
  | expand source scalars lists file? staged raw =>
    cases hloaded : fileParams env file? with
    | error failure => exact .inl ⟨_, _, stops_of_fileParams hloaded⟩
    | ok loaded =>
      cases hcollect : collectParams loaded scalars lists with
      | error cause => exact .inl ⟨_, _, .assignment hloaded hcollect⟩
      | ok params =>
        cases hparse : Template.parse source with
        | error cause => exact .inl ⟨_, _, .template hloaded hcollect hparse⟩
        | ok template =>
          cases hexpand : template.expand params (encoderOf raw) (modeOf staged) with
          | error cause => exact .inl ⟨_, _, .expansion hloaded hcollect hparse hexpand⟩
          | ok output =>
            have houtput := (expandText_eq_expand hparse _ _ _).trans hexpand
            exact .inr ⟨_, _, .expansion hloaded hcollect houtput⟩
  | search file query json =>
    cases hpackage : loadPackage env file with
    | error failure => exact .inl ⟨_, _, stops_of_loadPackage hpackage⟩
    | ok package =>
      cases hlinks : (package.links env.isAbsolute (.start Encoder.percent) query).2 with
      | error cause => exact .inl ⟨_, _, .resource hpackage hlinks⟩
      | ok links =>
        cases json with
        | false => exact .inr ⟨_, _, .links hpackage hlinks⟩
        | true => exact .inr ⟨_, _, .json hpackage hlinks⟩

/-! ### What a run leaves behind -/

/-- A failure is reported behind what was logged, and nothing else is written. -/
theorem run_of_stops (h : command.Stops env logged failure) :
    command.run env = ⟨1, [], logged ++ unlines (failure.report env.styled)⟩ := by
  rw [run, transcript_of_stops h]
  rfl

/-- Results are all that is written besides what was logged. -/
theorem run_of_prints (h : command.Prints env logged lines) :
    command.run env = ⟨0, unlines lines, logged⟩ := by
  rw [run, transcript_of_prints h]
  rfl

/-- Arguments that are accepted run their command. -/
theorem run_of_parse {arguments : List Text} (h : Command.parse arguments = .ok command) :
    CommandLine.run env arguments = command.run env := by
  rw [CommandLine.run, h]

end Command

end CommandLine

end LinkTemplate
