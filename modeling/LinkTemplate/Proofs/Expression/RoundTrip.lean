import LinkTemplate.Expression
/-!
# Reading back what an expression writes

`Expression.parse` and `Expression.body` are inverse to each other.  Reading
accepts exactly the bodies of the `WellFormed` expressions, and the body that was
read is the one the result writes.

Inside a template a body has to fit between braces as well: it is not empty and
holds no closing brace.  `Embeddable` collects what a braced expression needs in
order to be found again.
-/

namespace LinkTemplate

namespace Text

/-- No part of a split holds the character that was split at. -/
theorem notMem_of_mem_splitOn {c : Char} {t part : Text} (h : part ∈ t.splitOn c) : c ∉ part := by
  induction t generalizing part with
  | nil =>
    have hpart : part = [] := by simpa using h
    simp [hpart]
  | cons d t ih =>
    rw [List.splitOn_cons_eq_if_modifyHead] at h
    by_cases hd : d = c
    · rw [if_pos (by simp [hd]), List.mem_cons] at h
      rcases h with rfl | h
      · simp
      · exact ih h
    · rw [if_neg (by simp [hd])] at h
      cases hs : t.splitOn c with
      | nil => exact absurd hs (List.splitOn_ne_nil c t)
      | cons first rest =>
        rw [hs, List.modifyHead_cons, List.mem_cons] at h
        rcases h with rfl | h
        · have hfirst : c ∉ first := ih (by simp [hs])
          simp [hfirst, Ne.symm hd]
        · exact ih (by simp [hs, h])

/-- Up to the separator, the characters of a joined text are those of its parts. -/
theorem mem_joinWith_iff {c d : Char} (h : c ≠ d) {parts : List Text} :
    c ∈ joinWith [d] parts ↔ ∃ part ∈ parts, c ∈ part := by
  induction parts with
  | nil => simp
  | cons part parts ih =>
    cases parts with
    | nil => simp
    | cons next parts =>
      rw [joinWith_cons_cons]
      simp only [List.mem_append, ih, List.mem_cons, List.not_mem_nil, h, or_false]
      constructor
      · rintro (hc | ⟨p, hp, hc⟩)
        · exact ⟨part, .inl rfl, hc⟩
        · exact ⟨p, .inr hp, hc⟩
      · rintro ⟨p, rfl | hp, hc⟩
        · exact .inl hc
        · exact .inr ⟨p, hp, hc⟩

end Text

namespace Expression

/-! ### Well-formed expressions -/

/-- A name that can stand in the variable list of an operator. -/
structure IsOperand (name : Text) : Prop where
  ne_nil : name ≠ []
  bar_notMem : '|' ∉ name
  comma_notMem : ',' ∉ name

/-- An argument and names to which an operator can be applied. -/
structure IsApplicable (arg : Text) (names : List Text) : Prop where
  bar_notMem : '|' ∉ arg
  names_ne_nil : names ≠ []
  isOperand : ∀ name ∈ names, IsOperand name

/-- The expression can be written and read back: nothing in it is taken for a separator, and a bare
name is not taken for an operator. -/
def WellFormed : Expression → Prop
  | bare name => name.head? ≠ some '-'
  | opt arg names | neg arg names | join arg names => IsApplicable arg names
  | prepend arg name | append arg name | list arg name => IsApplicable arg [name]

/-- Some of the names to which an operator can be applied, if there are any, will do as well. -/
theorem IsApplicable.mono {arg : Text} {names run : List Text} (h : IsApplicable arg names)
    (hne : run ≠ []) (hsub : ∀ name ∈ run, name ∈ names) : IsApplicable arg run where
  bar_notMem := h.bar_notMem
  names_ne_nil := hne
  isOperand name hname := h.isOperand name (hsub name hname)

/-- The characters of a body, those of its separators left aside. -/
theorem mem_applicationBody_iff {c : Char} (hdash : c ≠ '-') (hbar : c ≠ '|') (hcomma : c ≠ ',')
    {op : Operator} {arg : Text} {names : List Text} :
    c ∈ applicationBody op arg names ↔ c ∈ op.name ∨ c ∈ arg ∨ ∃ name ∈ names, c ∈ name := by
  rw [← Text.mem_joinWith_iff hcomma]
  simp [applicationBody, hdash, hbar]

/-- Splitting what follows the dash gives the operator, the argument and the names. -/
theorem splitOn_applicationBody {arg : Text} {names : List Text} (h : IsApplicable arg names)
    (op : Operator) :
    (op.name ++ '|' :: arg ++ '|' :: Text.joinWith [','] names).splitOn '|' =
      [op.name, arg, Text.joinWith [','] names] := by
  have hop : '|' ∉ op.name := by cases op <;> decide
  have hnames : '|' ∉ Text.joinWith [','] names := by
    rw [Text.mem_joinWith_iff (by decide)]
    rintro ⟨name, hname, hbar⟩
    exact (h.isOperand name hname).bar_notMem hbar
  rw [List.append_assoc, List.cons_append, List.splitOn_append_cons_self_of_not_mem hop,
    List.splitOn_append_cons_self_of_not_mem h.bar_notMem, List.splitOn_eq_singleton hnames]

/-! ### Reading after writing -/

/-- An operator that is applied to names is read back, up to the arity rule. -/
theorem parse_applicationBody {arg : Text} {names : List Text} (h : IsApplicable arg names)
    (op : Operator) : parse (applicationBody op arg names) = ofOperator op arg names := by
  have hcommas : (Text.joinWith [','] names).splitOn ',' = names :=
    List.splitOn_intercalate ',' (fun name hname => (h.isOperand name hname).comma_notMem)
      h.names_ne_nil
  have hempty : names.contains [] = false := by
    have hmem : [] ∉ names := fun hnil => (h.isOperand [] hnil).ne_nil rfl
    simpa using hmem
  change parseApplication _ (op.name ++ '|' :: arg ++ '|' :: Text.joinWith [','] names) = _
  rw [parseApplication, splitOn_applicationBody h op]
  simp only [lookupOperator, Operator.ofName?_name, hcommas, hempty]
  rfl

/-- A well-formed expression is read back from its body. -/
theorem parse_body {e : Expression} (h : e.WellFormed) : parse e.body = .ok e := by
  cases e with
  | bare name =>
    cases name with
    | nil => rfl
    | cons c name =>
      have hc : c ≠ '-' := by simpa [WellFormed] using h
      unfold body parse
      split
      · rename_i heq
        exact absurd (List.cons.inj heq).1 hc
      · rfl
  | opt arg names => exact parse_applicationBody h .opt
  | neg arg names => exact parse_applicationBody h .neg
  | prepend arg name => exact parse_applicationBody h .prepend
  | append arg name => exact parse_applicationBody h .append
  | join arg names => exact parse_applicationBody h .join
  | list arg name => exact parse_applicationBody h .list

/-! ### Writing after reading -/

/-- What an operator applied to names writes is what it was made from. -/
theorem body_of_ofOperator {op : Operator} {arg : Text} {names : List Text} {e : Expression}
    (h : ofOperator op arg names = .ok e) : e.body = applicationBody op arg names := by
  unfold ofOperator at h
  split at h <;> cases h <;> rfl

/-- An operator applied to names to which it can be applied is well formed. -/
theorem wellFormed_of_ofOperator {op : Operator} {arg : Text} {names : List Text} {e : Expression}
    (h : ofOperator op arg names = .ok e) (happ : IsApplicable arg names) : e.WellFormed := by
  unfold ofOperator at h
  split at h <;> cases h <;> exact happ

/-- What was read from an operator body is well formed and writes the body again. -/
theorem of_parseApplication {b rest : Text} {e : Expression}
    (h : parseApplication b rest = .ok e) : e.WellFormed ∧ e.body = '-' :: rest := by
  unfold parseApplication at h
  split at h
  · rename_i name arg operands hsplit
    split at h
    · cases h
    · rename_i op hop
      have hname : name = op.name := by
        unfold lookupOperator at hop
        split at hop
        · rename_i found hfound
          cases hop
          exact Operator.ofName?_eq_some_iff.1 hfound
        · cases hop
      simp only at h
      split at h
      · cases h
      · rename_i hempty
        have hnames : Text.joinWith [','] (operands.splitOn ',') = operands :=
          List.intercalate_splitOn ','
        have hbar : ∀ part ∈ [name, arg, operands], '|' ∉ part := fun part hpart =>
          Text.notMem_of_mem_splitOn (hsplit ▸ hpart)
        have happ : IsApplicable arg (operands.splitOn ',') :=
          { bar_notMem := hbar arg (by simp)
            names_ne_nil := List.splitOn_ne_nil ',' operands
            isOperand := fun operand hoperand =>
              { ne_nil := by
                  rintro rfl
                  exact hempty (by simpa using hoperand)
                bar_notMem := fun hmem => hbar operands (by simp) (by
                  rw [← hnames]
                  exact (Text.mem_joinWith_iff (by decide)).2 ⟨operand, hoperand, hmem⟩)
                comma_notMem := Text.notMem_of_mem_splitOn hoperand } }
        refine ⟨wellFormed_of_ofOperator h happ, ?_⟩
        have hrest : Text.joinWith ['|'] [name, arg, operands] = rest := by
          rw [← hsplit]
          exact List.intercalate_splitOn '|'
        rw [body_of_ofOperator h, applicationBody, hnames, ← hrest, hname]
        simp
  · cases h

/-- Reading succeeds on the bodies of well-formed expressions only, and each is the body of what was
read from it. -/
theorem parse_eq_ok_iff {b : Text} {e : Expression} :
    parse b = .ok e ↔ e.WellFormed ∧ e.body = b := by
  constructor
  · intro h
    unfold parse at h
    split at h
    · exact of_parseApplication h
    · rename_i hdash
      cases h
      refine ⟨?_, rfl⟩
      intro hhead
      cases b with
      | nil => cases hhead
      | cons c rest =>
        cases hhead
        exact hdash rest rfl
  · rintro ⟨hwf, rfl⟩
    exact parse_body hwf

/-! ### Expressions between braces -/

/-- The expression can stand between the braces of a template. -/
structure Embeddable (e : Expression) : Prop where
  wellFormed : e.WellFormed
  body_ne_nil : e.body ≠ []
  close_notMem : '}' ∉ e.body

/-- A closing brace in an operator body is one of the argument or of a name. -/
theorem close_notMem_applicationBody_iff {op : Operator} {arg : Text} {names : List Text} :
    '}' ∉ applicationBody op arg names ↔ '}' ∉ arg ∧ ∀ name ∈ names, '}' ∉ name := by
  have hop : '}' ∉ op.name := by cases op <;> decide
  rw [mem_applicationBody_iff (by decide) (by decide) (by decide)]
  simp [hop]

/-- A well-formed application can be embedded if its argument and its names hold no closing
brace. -/
theorem embeddable_of_body (op : Operator) {arg : Text} {names : List Text} {e : Expression}
    (hwf : e.WellFormed) (hbody : e.body = applicationBody op arg names) (harg : '}' ∉ arg)
    (hnames : ∀ name ∈ names, '}' ∉ name) : e.Embeddable where
  wellFormed := hwf
  body_ne_nil := hbody ▸ List.cons_ne_nil _ _
  close_notMem := hbody ▸ close_notMem_applicationBody_iff.2 ⟨harg, hnames⟩

/-- What was read from the body of a braced chunk can be embedded again. -/
theorem embeddable_of_parse {b : Text} {e : Expression} (h : parse b = .ok e) (hne : b ≠ [])
    (hclose : '}' ∉ b) : e.Embeddable := by
  obtain ⟨hwf, rfl⟩ := parse_eq_ok_iff.1 h
  exact ⟨hwf, hne, hclose⟩

end Expression

end LinkTemplate
