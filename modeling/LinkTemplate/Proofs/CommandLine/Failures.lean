import LinkTemplate.Proofs.CommandLine.Runs
/-!
# What is said about a failure

A failure is reported behind what was logged, on a line that says what went wrong, and
where an error of the library is behind it, a second line says what can be done about
that.  The first line includes what another program said about the cause, such as the
reader of a document (`Failure.detail_isSuffix_message`).  A file that
cannot be read is such an error if it is a package.  If it is a parameters' file, only
the system's reason is kept, and there is no second line.

This is the only failure without advice (`stderr_of_failed`): the one stage of a command
whose failure carries no error is `Command.Stops.paramsFile`.
-/

namespace LinkTemplate.CommandLine

/-- The error that led to a failure.  A file that could not be read is an error whatever the file
was read for. -/
def Failure.cause : Failure → Error
  | unreadable _ reason => .io reason
  | package _ cause => cause
  | error cause => cause

/-- The command names a parameters' file that cannot be read, or is no text. -/
def Command.LacksParams (read : ReadFile) : Command → Prop
  | .expand _ _ _ (some file) _ _ => ∃ reason, readText read file = .error reason
  | _ => False

section Reports

variable {env : Environment} {styled : Bool} {command : Command} {logged : Text}
  {failure : Failure}

/-- There is an error behind every failure but that of reading a parameters' file. -/
theorem Failure.error?_eq_some_iff :
    failure.error? = some failure.cause ↔ ∀ file reason, failure ≠ .unreadable file reason := by
  cases failure <;> simp [error?, cause]

/-- Two lines are more than one. -/
theorem unlines_singleton_ne {line line' : Text} : unlines [line] ≠ unlines [line, line'] := by
  simp

/-- Two lines have two line ends. -/
theorem two_le_count_unlines (line line' : Text) : 2 ≤ (unlines [line, line']).count '\n' := by
  rw [unlines_cons, unlines_cons, unlines_nil, List.count_append, List.count_cons_self,
    List.count_append, List.count_cons_self]
  omega

/-- Where an error is behind a failure, advice follows the message. -/
theorem unlines_report_eq_iff : unlines (failure.report styled) =
    unlines [errorLine styled failure.message, fixLine styled failure.cause.fix] ↔
      ∀ file reason, failure ≠ .unreadable file reason := by
  rw [← Failure.error?_eq_some_iff, Failure.report]
  cases failure with
  | unreadable file reason =>
    exact iff_of_false unlines_singleton_ne (by simp [Failure.error?])
  | package file cause => exact iff_of_true rfl rfl
  | error cause => exact iff_of_true rfl rfl

/-- Parameters are loaded from a file that can be read. -/
theorem Command.not_lacksParams_of_fileParams {template : Text} {scalars lists : List Text}
    {file? : Option Text} {staged raw : Bool} {loaded : Params}
    (h : fileParams env file? = .ok loaded) :
    ¬ (Command.expand template scalars lists file? staged raw).LacksParams env.read := by
  cases file? with
  | none => exact id
  | some file =>
    rintro ⟨reason, hread⟩
    cases h.symm.trans (fileParams_of_unreadable hread)

/-- Where the parameters' file cannot be read, this is what stops the command. -/
theorem Command.Stops.lacksParams_iff (h : command.Stops env logged failure) :
    command.LacksParams env.read ↔ ∃ file reason, failure = .unreadable file reason := by
  cases h with
  | paramsFile hread => exact iff_of_true ⟨_, hread⟩ ⟨_, _, rfl⟩
  | paramsDocument hread hparams =>
    refine iff_of_false ?_ (by simp)
    rintro ⟨reason, hreason⟩
    cases hread.symm.trans hreason
  | assignment hloaded hcollect =>
    exact iff_of_false (not_lacksParams_of_fileParams hloaded) (by simp)
  | template hloaded hcollect hparse =>
    exact iff_of_false (not_lacksParams_of_fileParams hloaded) (by simp)
  | expansion hloaded hcollect hparse hexpand =>
    exact iff_of_false (not_lacksParams_of_fileParams hloaded) (by simp)
  | packageFile hread => exact iff_of_false id (by simp)
  | packageDocument hread hpackage => exact iff_of_false id (by simp)
  | resource hpackage hlinks => exact iff_of_false id (by simp)

/-- Nothing is logged before the parameters' file is read. -/
theorem Command.Stops.logged_eq_nil {file reason : Text}
    (h : command.Stops env logged (.unreadable file reason)) : logged = [] := by
  cases h
  rfl

/-- What another program said about the cause stands at the end of the message. -/
theorem Failure.detail_isSuffix_message {detail : Text} (failure : Failure)
    (h : failure.cause.detail? = some detail) : detail <:+ failure.message := by
  have htrace : ∀ e : Error, e.detail? = some detail → detail <:+ trace e := by
    intro e he
    rw [trace, he]
    exact List.suffix_append _ _
  cases failure with
  | unreadable file reason =>
    cases h
    exact List.suffix_append _ _
  | package file cause => exact (htrace cause h).trans (List.suffix_append _ _)
  | error cause => exact htrace cause h

end Reports

/-- **What is said about a failure.**  Take any arguments that ask for an expansion or a search, and
any files.  If the run exits with 1, a stage of the command was stopped by a failure.  The error
output is what was logged before, behind it the line with the message for this failure, which ends
with what another program said about the cause, if one did, and behind this the line with the advice
on the error that led to it, if and only if it is not the parameters' file that cannot be read.  If
it is, the error output is the line with the message alone. -/
theorem stderr_of_failed (env : Environment) {arguments : List Text} {command : Command}
    (hparse : Command.parse arguments = .ok command) (hcommand : ¬ command.IsCheck)
    (hexit : (run env arguments).exit = 1) :
    ∃ logged failure, command.Stops env logged failure ∧
      (∀ detail, failure.cause.detail? = some detail → detail <:+ failure.message) ∧
      ((run env arguments).stderr = logged ++
          unlines [errorLine env.styled failure.message, fixLine env.styled failure.cause.fix] ↔
        ¬ command.LacksParams env.read) ∧
      (command.LacksParams env.read →
        (run env arguments).stderr = unlines [errorLine env.styled failure.message]) := by
  rw [Command.run_of_parse hparse] at hexit ⊢
  obtain ⟨logged, failure, hstops⟩ | ⟨logged, lines, hprints⟩ :=
    command.stops_or_prints env hcommand
  · refine ⟨logged, failure, hstops, fun detail => failure.detail_isSuffix_message, ?_, ?_⟩
    · rw [Command.run_of_stops hstops, List.append_cancel_left_eq, unlines_report_eq_iff,
        hstops.lacksParams_iff]
      simp
    · intro hlacks
      obtain ⟨file, reason, rfl⟩ := hstops.lacksParams_iff.1 hlacks
      rw [Command.run_of_stops hstops, hstops.logged_eq_nil]
      rfl
  · rw [Command.run_of_prints hprints] at hexit
    cases hexit

/-- A query meets a link that is no absolute URL and then a resource that fails.  The first is
logged, and the failure of the second is reported behind this, with advice. -/
theorem stderr_of_failed_package :
    let package : Text := ("\x7bname: p, query_param: q, resources: [" ++
      "\x7bname: a, template: /a\x7d, \x7bname: b, template: '\x7b-list|,|q\x7d'\x7d]\x7d").toList
    let env : Environment := {
      read := fun _ => .ok (Text.bytes package)
      styled := false
      isAbsolute := fun t => t.contains ':'
      wording := ⟨id, id, id⟩
      log := fun _ event =>
        match event with
        | .expansion _ => []
        | .relative link => unlines ["WARN ".toList ++ link.uri]
      answer := fun _ => ⟨2, [], []⟩ }
    let arguments : List Text := ["search".toList, "p.yaml".toList, ['x']]
    (run env arguments).exit = 1 ∧ "WARN /a\nError: ".toList <+: (run env arguments).stderr ∧
      ∃ logged failure, (Command.search "p.yaml".toList ['x'] false).Stops env logged failure ∧
        (run env arguments).stderr = logged ++
          unlines [errorLine false failure.message, fixLine false failure.cause.fix] := by
  intro package env arguments
  have hparse : Command.parse arguments = .ok (.search "p.yaml".toList ['x'] false) := by
    decide +kernel
  obtain ⟨hexit, hwarned⟩ : (run env arguments).exit = 1 ∧
      "WARN /a\nError: ".toList <+: (run env arguments).stderr := by decide +kernel
  obtain ⟨logged, failure, hstops, -, hstderr, -⟩ := stderr_of_failed env hparse id hexit
  exact ⟨hexit, hwarned, logged, failure, hstops, hstderr.2 id⟩

/-- **A failure without advice.**  A run that does not find its parameters' file exits with 1, and
no line of advice follows the message. -/
theorem run_missing_params_file :
    let env : Environment := {
      read := fun _ => .error "No such file or directory (os error 2)".toList
      styled := false
      isAbsolute := fun t => t.contains ':'
      wording := ⟨id, id, id⟩
      log := fun _ _ => []
      answer := fun _ => ⟨2, [], []⟩ }
    let outcome := run env ["expand".toList, "\x7ba\x7d".toList, "--params".toList, "p.yaml".toList]
    outcome = ⟨1, [], "Error: reading p.yaml: No such file or directory (os error 2)\n".toList⟩ ∧
      ∀ message fix, outcome.stderr ≠ unlines [errorLine false message, fixLine false fix] := by
  intro env outcome
  have houtcome : outcome =
      ⟨1, [], "Error: reading p.yaml: No such file or directory (os error 2)\n".toList⟩ := by
    decide +kernel
  refine ⟨houtcome, fun message fix heq => ?_⟩
  have hcount : outcome.stderr.count '\n' < 2 := by
    rw [houtcome]
    decide +kernel
  rw [heq] at hcount
  exact Nat.not_le.2 hcount (two_le_count_unlines _ _)

end LinkTemplate.CommandLine
