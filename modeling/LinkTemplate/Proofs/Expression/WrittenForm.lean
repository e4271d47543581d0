import LinkTemplate.Proofs.Template.Scan
/-!
# The written form of expressions

An expression is a name, or an operator applied to an argument and to as many
names as the operator takes (`Expression.wellFormed_iff`).  It is well formed if
nothing in it is taken for something else when it is read: the argument and the
names hold no separator, no name of an operator is empty, and a bare name does not
start with a dash.

Writing and reading are a bijection between the well-formed expressions and the
texts that can be read as an expression (`Expression.read_write_round_trip`).  A
template that is the written form of one expression and holds no other closing
brace is read as that expression alone.
-/

namespace LinkTemplate

namespace Expression

variable {op : Operator} {arg : Text} {names : List Text} {e : Expression}

/-! ### Operators and their names -/

/-- An operator applied to an argument and to names is the expression with these parts. -/
theorem ofOperator_eq_ok_iff :
    ofOperator op arg names = .ok e ↔
      e.operator? = some op ∧ e.argument? = some arg ∧ e.names = names := by
  constructor
  · intro h
    unfold ofOperator at h
    split at h <;> cases h <;> exact ⟨rfl, rfl, rfl⟩
  · rintro ⟨hop, harg, rfl⟩
    cases e with
    | bare name => cases hop
    | opt _ _ | neg _ _ | join _ _ | prepend _ _ | append _ _ | list _ _ =>
      cases hop
      cases harg
      rfl

/-- An expression whose operator takes one variable mentions one name. -/
theorem length_names_of_takesSingle (hop : e.operator? = some op)
    (hsingle : op.takesSingle = true) : e.names.length = 1 := by
  cases e with
  | bare name => rfl
  | prepend _ _ | append _ _ | list _ _ => rfl
  | opt _ _ | neg _ _ | join _ _ =>
    cases hop
    cases hsingle

/-- An operator can be applied to as many names as it takes. -/
theorem exists_ofOperator (hlength : op.takesSingle = true → names.length = 1) :
    ∃ e, ofOperator op arg names = .ok e := by
  cases op with
  | opt => exact ⟨opt arg names, rfl⟩
  | neg => exact ⟨neg arg names, rfl⟩
  | join => exact ⟨join arg names, rfl⟩
  | prepend =>
    obtain ⟨name, rfl⟩ := List.length_eq_one_iff.1 (hlength rfl)
    exact ⟨prepend arg name, rfl⟩
  | append =>
    obtain ⟨name, rfl⟩ := List.length_eq_one_iff.1 (hlength rfl)
    exact ⟨append arg name, rfl⟩
  | list =>
    obtain ⟨name, rfl⟩ := List.length_eq_one_iff.1 (hlength rfl)
    exact ⟨list arg name, rfl⟩

/-- The well-formed expressions are the names that do not start with a dash, and the operators that
are applied to what they can be applied to. -/
theorem wellFormed_iff :
    e.WellFormed ↔ (∃ name, e = bare name ∧ name.head? ≠ some '-') ∨
      ∃ op arg, e.operator? = some op ∧ e.argument? = some arg ∧ IsApplicable arg e.names ∧
        (op.takesSingle = true → e.names.length = 1) := by
  constructor
  · intro h
    have happlied : ∀ op arg, e.operator? = some op → e.argument? = some arg →
        IsApplicable arg e.names → ∃ op arg, e.operator? = some op ∧ e.argument? = some arg ∧
          IsApplicable arg e.names ∧ (op.takesSingle = true → e.names.length = 1) :=
      fun op arg hop harg happ => ⟨op, arg, hop, harg, happ, length_names_of_takesSingle hop⟩
    cases e with
    | bare name => exact .inl ⟨name, rfl, h⟩
    | opt _ _ | neg _ _ | join _ _ | prepend _ _ | append _ _ | list _ _ =>
      exact .inr (happlied _ _ rfl rfl h)
  · rintro (⟨name, rfl, hname⟩ | ⟨op, arg, hop, harg, happ, -⟩)
    · exact hname
    · exact wellFormed_of_ofOperator (ofOperator_eq_ok_iff.2 ⟨hop, harg, rfl⟩) happ

/-! ### The braces of the written form -/

/-- Without its braces, what stands between them is left. -/
theorem dropLast_tail_render (e : Expression) : e.render.tail.dropLast = e.body := by
  rw [render, braced, List.cons_append, List.tail_cons, List.dropLast_concat]

/-- If the last character of the written form is its only closing brace, there is none between the
braces. -/
theorem close_notMem_body_of_count (h : e.render.count '}' = 1) : '}' ∉ e.body := by
  have hcount : e.render.count '}' = e.body.count '}' + 1 := by
    simp [render, braced]
  have hbody : e.body.count '}' = 0 := by omega
  exact List.count_eq_zero.1 hbody

/-- A text that is the written form of one expression is read as that expression. -/
theorem parse_render (h : e.Embeddable) : Template.parse e.render = .ok ⟨[.expression e]⟩ := by
  have hlegible : Segment.Legible [.expression e] := .expression h .nil
  have hsource : Segment.sourceOf [.expression e] = e.render := List.append_nil _
  rw [← hsource, Template.parse_source_of_legible hlegible]
  rfl

/-- **Reading and writing expressions.**  What was read is well formed and writes its text between
braces; what is well formed is read back from between its braces, so no two texts are read as one
expression.  The well-formed expressions are the names that do not start with a dash and the
operators with an argument without a bar and with as many operands as they take, and each of these
is one.  If the written form has a body and its only closing brace is the last character, a template
that consists of it is that expression alone. -/
theorem read_write_round_trip :
    (∀ e : Expression, e.WellFormed ↔ (∃ name, e = bare name ∧ name.head? ≠ some '-') ∨
        ∃ op arg, e.operator? = some op ∧ e.argument? = some arg ∧ IsApplicable arg e.names ∧
          (op.takesSingle = true → e.names.length = 1)) ∧
      (∀ (op : Operator) (arg : Text) (names : List Text), IsApplicable arg names →
        (op.takesSingle = true → names.length = 1) → ∃ e : Expression,
          e.operator? = some op ∧ e.argument? = some arg ∧ e.names = names ∧ e.WellFormed) ∧
      (∀ b e, parse b = .ok e → e.WellFormed ∧ e.render = '{' :: b ++ ['}']) ∧
      (∀ e : Expression, e.WellFormed → parse e.render.tail.dropLast = .ok e) ∧
      (∀ b b' e, parse b = .ok e → parse b' = .ok e → b = b') ∧
      (∀ e : Expression, e.WellFormed → e.body ≠ [] → e.render.count '}' = 1 →
        Template.parse e.render = .ok ⟨[.expression e]⟩) ∧
      (∀ b e op, parse b = .ok e → e.operator? = some op → op.takesSingle = true →
        ∃ name, e.names = [name]) := by
  refine ⟨fun e => wellFormed_iff, ?_, ?_, ?_, ?_, ?_, ?_⟩
  · intro op arg names happ hlength
    obtain ⟨e, he⟩ : ∃ e, ofOperator op arg names = .ok e := exists_ofOperator hlength
    obtain ⟨hop, harg, hnames⟩ := ofOperator_eq_ok_iff.1 he
    exact ⟨e, hop, harg, hnames, wellFormed_of_ofOperator he happ⟩
  · intro b e h
    obtain ⟨hwf, rfl⟩ := parse_eq_ok_iff.1 h
    exact ⟨hwf, rfl⟩
  · intro e hwf
    rw [dropLast_tail_render]
    exact parse_body hwf
  · intro b b' e h h'
    have hbody : e.body = b := (parse_eq_ok_iff.1 h).2
    have hbody' : e.body = b' := (parse_eq_ok_iff.1 h').2
    exact hbody.symm.trans hbody'
  · intro e hwf hne hcount
    exact parse_render ⟨hwf, hne, close_notMem_body_of_count hcount⟩
  · intro b e op _ hop hsingle
    exact List.length_eq_one_iff.1 (length_names_of_takesSingle hop hsingle)

/-- Commas in an argument and braces, dashes and equality signs in names do no harm. -/
theorem read_write_round_trip_join :
    let e : Expression := join [',', '{', ','] [['-', 'a', '='], ['{', 'b']]
    e.WellFormed ∧ e.body ≠ [] ∧ e.render.count '}' = 1 ∧
      parse e.render.tail.dropLast = .ok e ∧
      Template.parse e.render = .ok ⟨[.expression e]⟩ := by
  intro e
  obtain ⟨hiff, -, -, hread, -, htemplate, -⟩ := read_write_round_trip
  have happ : IsApplicable [',', '{', ','] [['-', 'a', '='], ['{', 'b']] :=
    { bar_notMem := by decide
      names_ne_nil := by decide
      isOperand := by
        have hoperand : ∀ name ∈ [['-', 'a', '='], ['{', 'b']],
            name ≠ [] ∧ '|' ∉ name ∧ ',' ∉ name := by decide
        intro name hname
        obtain ⟨hne, hbar, hcomma⟩ := hoperand name hname
        exact ⟨hne, hbar, hcomma⟩ }
  have hwf : e.WellFormed := (hiff e).2 (.inr ⟨.join, _, rfl, rfl, happ, nofun⟩)
  have hne : e.body ≠ [] := List.cons_ne_nil _ _
  have hcount : e.render.count '}' = 1 := by decide
  exact ⟨hwf, hne, hcount, hread e hwf, htemplate e hwf hne hcount⟩

end Expression

end LinkTemplate
