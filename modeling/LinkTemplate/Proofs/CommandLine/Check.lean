import LinkTemplate.Proofs.CommandLine.Runs
import LinkTemplate.Proofs.Template.Mismatch
import LinkTemplate.Proofs.Template.Spans
/-!
# Checking templates

The check of a text reads it and expands nothing.  This says as much as an expansion
without parameters would: an expansion of a template fails only at a name that is bound
to something (`Template.exists_expandText_empty`), so it fails exactly if the text is
not read, and then with the error of the reading.

Texts are checked one after another.  Nothing is carried from one to the next but the
number of those that are no templates (`checkTemplates_eq`).  So the output of a check is
the outputs of the checks of its parts (`check_agrees_with_expand`).
-/

namespace LinkTemplate

/-! ### Errors of reading -/

/-- The error is about how an expression is written. -/
def Error.IsSyntax : Error → Prop
  | .malformed .. | .arity .. | .unknownOperator _ => True
  | _ => False

namespace Expression

/-- An operator refuses names for their number. -/
theorem isSyntax_of_ofOperator {op : Operator} {arg : Text} {names : List Text} {fault : Error}
    (h : ofOperator op arg names = .error fault) : fault.IsSyntax := by
  unfold ofOperator at h
  split at h
  all_goals cases h
  trivial

/-- An operator is refused for its name. -/
theorem isSyntax_of_lookupOperator {name : Text} {fault : Error}
    (h : lookupOperator name = .error fault) : fault.IsSyntax := by
  unfold lookupOperator at h
  split at h
  · cases h
  · cases h
    trivial

/-- What follows a `-` is refused for how it is written. -/
theorem isSyntax_of_parseApplication {b rest : Text} {fault : Error}
    (h : parseApplication b rest = .error fault) : fault.IsSyntax := by
  unfold parseApplication at h
  split at h
  · split at h
    · cases h
      exact isSyntax_of_lookupOperator (by assumption)
    · dsimp only at h
      split at h
      · cases h
        trivial
      · exact isSyntax_of_ofOperator h
  · cases h
    trivial

/-- A body is refused for how it is written. -/
theorem isSyntax_of_parse {b : Text} {fault : Error} (h : parse b = .error fault) :
    fault.IsSyntax := by
  unfold parse at h
  split at h
  · exact isSyntax_of_parseApplication h
  · cases h

end Expression

namespace Template

/-- A text is refused for how one of its expressions is written. -/
theorem isSyntax_of_parse {t : Text} {fault : Error} (h : parse t = .error fault) :
    fault.IsSyntax := by
  have hbodies : (Text.bodies none t).mapM Expression.parse = .error fault := by
    rw [← map_expressions_parse, h]
    rfl
  obtain ⟨_, b, _, _, _, hb⟩ := mapM_eq_error_iff.1 hbodies
  exact Expression.isSyntax_of_parse hb

/-- Where nothing is bound, every template is expanded. -/
theorem exists_expandText_empty {t : Text} {template : Template} (h : parse t = .ok template)
    (encode : Encoder) (mode : Mode) : ∃ output, expandText t .empty encode mode = .ok output := by
  cases hexpand : expandText t .empty encode mode with
  | ok output => exact ⟨output, rfl⟩
  | error fault =>
    obtain ⟨e, -, hfault⟩ :=
      List.exists_of_findSome?_eq_some ((expandText_eq_error_iff h).1 hexpand)
    obtain ⟨name, hrejects⟩ := Expression.isSome_fault?_iff.1 (Option.isSome_of_eq_some hfault)
    exact absurd (TextMap.get?_empty name) hrejects.get?_ne_none

end Template

namespace CommandLine

/-- Another program has nothing to say about an error of reading. -/
theorem Failure.trace_of_isSyntax {fault : Error} (h : fault.IsSyntax) :
    trace fault = fault.message := by
  cases fault with
  | malformed _ _ | arity _ _ | unknownOperator _ => rfl
  | typeMismatch _ _ | assignment _ | json _ _ | yaml _ | io _ => exact h.elim

/-! ### The check of one text -/

/-- The output calls the text a template on its first line. -/
def CallsValid (styled : Bool) (t stdout : Text) : Prop :=
  ∃ lines, stdout = unlines (verdictLine styled true t :: lines)

/-- The output calls the text no template, and gives the text of an error and advice. -/
def CallsInvalid (styled : Bool) (t message fix stdout : Text) : Prop :=
  stdout = unlines [verdictLine styled false t, "  ".toList ++ message, fixLine styled fix]

section Check

variable {styled : Bool} {t message fix stdout : Text} {template : Template} {fault : Error}

/-- The two verdicts begin with different marks. -/
theorem verdictLine_append_ne (styled : Bool) (t rest rest' : Text) :
    verdictLine styled false t ++ rest ≠ verdictLine styled true t ++ rest' := by
  cases styled with
  | false => simp [verdictLine, Style.paint]
  | true => simp [verdictLine, Style.paint, Style.sequence, Style.codes]

/-- An output does not call a text both. -/
theorem CallsInvalid.not_callsValid (h : CallsInvalid styled t message fix stdout) :
    ¬ CallsValid styled t stdout := by
  rintro ⟨lines, hlines⟩
  rw [h, unlines_cons, unlines_cons (verdictLine styled true t)] at hlines
  exact verdictLine_append_ne styled t _ _ hlines

/-- A template is called valid. -/
theorem callsValid_of_parse (styled : Bool) (h : Template.parse t = .ok template) :
    CallsValid styled t (checkTemplate styled t).stdout := by
  refine ⟨template.expressions.map expressionLine ++ namesLine template.names ::
    template.lint.map (warningLine styled), ?_⟩
  rw [checkTemplate, h]
  simp

/-- A text that is not read is called invalid, with the error of the reading. -/
theorem callsInvalid_of_parse_error (styled : Bool) (h : Template.parse t = .error fault) :
    CallsInvalid styled t fault.message fault.fix (checkTemplate styled t).stdout := by
  rw [CallsInvalid, checkTemplate, h]
  simp

/-- A text is checked to the end, and nothing is written to the error output. -/
theorem checkTemplate_eq (styled : Bool) (t : Text) : checkTemplate styled t =
    ⟨(checkTemplate styled t).stdout, [], .ok (Template.parse t).isOk⟩ := by
  unfold checkTemplate
  cases Template.parse t with
  | ok template => simp [Except.isOk, Except.toBool]
  | error fault => simp [Except.isOk, Except.toBool]

end Check

/-! ### The check of many texts -/

/-- The number of texts that are no templates. -/
def invalidCount (templates : List Text) : Nat :=
  templates.countP fun t => !(Template.parse t).isOk

theorem invalidCount_append (templates templates' : List Text) :
    invalidCount (templates ++ templates') = invalidCount templates + invalidCount templates' :=
  List.countP_append

theorem invalidCount_cons (t : Text) (templates : List Text) :
    invalidCount (t :: templates) =
      (if (Template.parse t).isOk then 0 else 1) + invalidCount templates := by
  rw [invalidCount, List.countP_cons, Nat.add_comm]
  cases (Template.parse t).isOk <;> rfl

/-- Texts are checked one after another, and those that are no templates are counted. -/
theorem checkTemplates_eq (styled : Bool) (failed : Nat) (templates : List Text) :
    checkTemplates styled failed templates =
      ⟨templates.flatMap fun t => (checkTemplate styled t).stdout, [],
        .ok (failed + invalidCount templates)⟩ := by
  induction templates generalizing failed with
  | nil => rfl
  | cons t templates ih =>
    rw [checkTemplates, checkTemplate_eq, Transcript.mk_ok_bind, ih, invalidCount_cons]
    cases (Template.parse t).isOk with
    | true => simp
    | false => simp [Nat.add_assoc]

/-- The exit status and the error output of a check come from the number of texts that are no
templates. -/
theorem run_check (env : Environment) (templates : List Text) :
    (Command.check templates).run env =
      ⟨if 0 < invalidCount templates then 1 else 0,
        templates.flatMap fun t => (checkTemplate env.styled t).stdout,
        if 0 < invalidCount templates then
          unlines [errorLine env.styled (tally (invalidCount templates) templates.length)]
        else []⟩ := by
  rw [Command.run, Command.transcript, runCheck, checkTemplates_eq]
  by_cases h : 0 < invalidCount templates <;> simp [h, Outcome.ofTranscript]

/-! ### The check and the expansion -/

section Expansion

variable {env : Environment} {t : Text} {template : Template} {fault : Error}

/-- A single text is reported on as in every check that it is part of. -/
theorem stdout_check_singleton : ((Command.check [t]).run env).stdout =
    (checkTemplate env.styled t).stdout := by
  rw [run_check, List.flatMap_singleton]

/-- A template is expanded without parameters. -/
theorem exit_expand_of_parse (h : Template.parse t = .ok template) (staged raw : Bool) :
    ((Command.expand t [] [] none staged raw).run env).exit = 0 := by
  obtain ⟨output, hexpand⟩ :=
    Template.exists_expandText_empty h (encoderOf raw) (modeOf staged)
  have hprints : (Command.expand t [] [] none staged raw).Prints env
      (env.logged [.expansion t]) [output] :=
    .expansion rfl rfl hexpand
  rw [Command.run_of_prints hprints]

/-- An expansion of a text that is not read is stopped by the error of the reading. -/
theorem run_expand_of_parse_error (h : Template.parse t = .error fault) (staged raw : Bool) :
    (Command.expand t [] [] none staged raw).run env =
      ⟨1, [], unlines [errorLine env.styled fault.message, fixLine env.styled fault.fix]⟩ := by
  have hstops : (Command.expand t [] [] none staged raw).Stops env [] (.error fault) :=
    .template rfl rfl h
  have hmessage : (Failure.error fault).message = fault.message :=
    Failure.trace_of_isSyntax (Template.isSyntax_of_parse h)
  rw [Command.run_of_stops hstops, Failure.report, hmessage]
  rfl

end Expansion

/-- **A check reports on every text and agrees with the expansion.**  The output of a check is the
outputs of the checks of its parts, and so is the number of texts that are no templates.  If this
number is positive, the exit status is 1 and the error output is the line that gives the number and
that of all texts; otherwise the exit status is 0 and the error output is empty.  A text is called
valid exactly if its expansion without parameters exits with 0, in either mode and with either
encoder.  A text that is not called valid is called invalid, with the text of the error that its
expansion reports. -/
theorem check_agrees_with_expand (env : Environment) :
    (∀ xs ys : List Text,
      ((Command.check (xs ++ ys)).run env).stdout =
        ((Command.check xs).run env).stdout ++
          ((Command.check ys).run env).stdout ∧
      invalidCount (xs ++ ys) = invalidCount xs + invalidCount ys) ∧
    (∀ templates : List Text,
      (checkTemplates env.styled 0 templates).result = .ok (invalidCount templates) ∧
      (((Command.check templates).run env).exit = 1 ↔ 0 < invalidCount templates) ∧
      (0 < invalidCount templates → ((Command.check templates).run env).stderr =
        unlines [errorLine env.styled (tally (invalidCount templates) templates.length)]) ∧
      (invalidCount templates = 0 → ((Command.check templates).run env).exit = 0 ∧
        ((Command.check templates).run env).stderr = [])) ∧
    ∀ (t : Text) (staged raw : Bool),
      let report := ((Command.check [t]).run env).stdout
      let outcome := (Command.expand t [] [] none staged raw).run env
      (CallsValid env.styled t report ↔ invalidCount [t] = 0) ∧
      (CallsValid env.styled t report ↔ outcome.exit = 0) ∧
      (¬ CallsValid env.styled t report → ∃ message fix,
        CallsInvalid env.styled t message fix report ∧
        outcome = ⟨1, [], unlines [errorLine env.styled message, fixLine env.styled fix]⟩) := by
  refine ⟨fun xs ys => ⟨?_, invalidCount_append xs ys⟩, fun templates => ?_, fun t staged raw => ?_⟩
  · rw [run_check, run_check, run_check]
    exact List.flatMap_append
  · rw [run_check, checkTemplates_eq]
    refine ⟨congrArg Except.ok (Nat.zero_add _), by simp [Nat.pos_iff_ne_zero], fun h => if_pos h,
      fun h => ?_⟩
    simp [h]
  · intro report outcome
    have hcount : invalidCount [t] = if (Template.parse t).isOk then 0 else 1 :=
      invalidCount_cons t []
    have hreport : report = (checkTemplate env.styled t).stdout := stdout_check_singleton
    rw [hcount, hreport]
    cases h : Template.parse t with
    | ok template =>
      have hvalid := callsValid_of_parse env.styled h
      exact ⟨iff_of_true hvalid rfl, iff_of_true hvalid (exit_expand_of_parse h staged raw),
        fun hnot => absurd hvalid hnot⟩
    | error fault =>
      have hinvalid := callsInvalid_of_parse_error env.styled h
      have houtcome : outcome =
          ⟨1, [], unlines [errorLine env.styled fault.message, fixLine env.styled fault.fix]⟩ :=
        run_expand_of_parse_error h staged raw
      rw [houtcome]
      exact ⟨iff_of_false hinvalid.not_callsValid Nat.one_ne_zero,
        iff_of_false hinvalid.not_callsValid Nat.one_ne_zero,
        fun _ => ⟨fault.message, fault.fix, hinvalid, rfl⟩⟩

/-- Of two texts one is a template, and the other names an unknown operator. -/
theorem check_agrees_with_expand_unknown :
    let env : Environment := {
      read := fun _ => .error "No such file or directory (os error 2)".toList
      styled := false
      isAbsolute := fun t => t.contains ':'
      wording := ⟨id, id, id⟩
      log := fun _ _ => "TRACE evaluating expression\n".toList
      answer := fun _ => ⟨2, [], []⟩ }
    let unknown : Text := "\x7b-nop|x|a\x7d".toList
    let templates : List Text := ["\x7ba\x7d".toList, unknown]
    let report := ((Command.check [unknown]).run env).stdout
    0 < invalidCount templates ∧ ((Command.check templates).run env).exit = 1 ∧
      ((Command.check templates).run env).stderr =
        "Error: 1 of 2 templates invalid\n".toList ∧
      ¬ CallsValid false unknown report ∧
      ∃ message fix, CallsInvalid false unknown message fix report ∧
        (Command.expand unknown [] [] none true false).run env =
          ⟨1, [], unlines [errorLine false message, fixLine false fix]⟩ := by
  intro env unknown templates report
  obtain ⟨-, hstatus, hexpand⟩ := check_agrees_with_expand env
  obtain ⟨-, hexit, hstderr, -⟩ := hstatus templates
  obtain ⟨hcount, -, hinvalid⟩ := hexpand unknown true false
  have hpos : 0 < invalidCount templates := by decide +kernel
  have hnot : ¬ CallsValid false unknown report := by
    rw [hcount]
    decide +kernel
  refine ⟨hpos, hexit.2 hpos, (hstderr hpos).trans ?_, hnot, hinvalid hnot⟩
  decide +kernel

end CommandLine

end LinkTemplate
