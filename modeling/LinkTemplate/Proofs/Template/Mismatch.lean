import LinkTemplate.Proofs.Template.Residual
/-!
# When an expansion fails

A template that was read can fail to expand for one reason only: an expression finds
a value of the wrong kind.  Which expressions find one is decided by the parameters
alone (`Expression.fault?`).  So the two modes, and all encoders, stop at the same
expression and at the same name of it, although they write different texts on the way
and go through a `-join` by different loops (`Segment.error?_expandAll`).

The error is that of the leftmost expression with such a name, and within that
expression of the first such name (`expandText_eq_error_iff_rejects`).
-/

namespace LinkTemplate

/-! ### Values of the wrong kind -/

/-- What has to be expected of a value in order to use it. -/
def Value.kind : Value → Expectation
  | scalar _ => .single
  | list _ => .list

namespace Params

variable {params : Params} {name : Text} {fault : Error}

/-- The error of looking up a name that is bound to a value of another kind than is expected. -/
def fault? (params : Params) (expected : Expectation) (name : Text) : Option Error :=
  if (params.get? name).any (fun v => v.kind ≠ expected) then some (.typeMismatch name expected)
  else none

/-- The error names what was looked up and says what was expected of it. -/
theorem eq_typeMismatch_of_fault? {expected : Expectation}
    (h : params.fault? expected name = some fault) : fault = .typeMismatch name expected := by
  unfold fault? at h
  split at h
  · exact (Option.some.inj h).symm
  · cases h

/-- A single value is missed where there is a list. -/
theorem fault?_single_isSome_iff :
    (params.fault? .single name).isSome ↔ ∃ items, params.get? name = some (.list items) := by
  unfold fault?
  rcases params.get? name with _ | text | items <;> simp [Value.kind]

/-- A list is missed where there is a single value. -/
theorem fault?_list_isSome_iff :
    (params.fault? .list name).isSome ↔ ∃ text, params.get? name = some (.scalar text) := by
  unfold fault?
  rcases params.get? name with _ | text | items <;> simp [Value.kind]

/-- A look-up for a single value fails where there is a list. -/
theorem single_eq_error_iff :
    params.single name = .error fault ↔ params.fault? .single name = some fault := by
  unfold single fault?
  rcases params.get? name with _ | text | items <;> simp [Value.kind]

/-- A look-up for a list fails where there is a single value. -/
theorem items_eq_error_iff :
    params.items name = .error fault ↔ params.fault? .list name = some fault := by
  unfold items fault?
  rcases params.get? name with _ | text | items <;> simp [Value.kind]

/-- A look-up for a single value that does not fail finds no list. -/
theorem fault?_eq_none_of_single {found : Option Text} (h : params.single name = .ok found) :
    params.fault? .single name = none := by
  by_contra hfault
  obtain ⟨fault, hfault⟩ := Option.ne_none_iff_exists'.1 hfault
  cases h.symm.trans (single_eq_error_iff.2 hfault)

end Params

/-! ### Where an emission stops -/

namespace Emission

/-- The result is an error where the emission was stopped. -/
theorem result_eq_error_iff {a : Emission} {fault : Error} :
    a.result = .error fault ↔ a.error? = some fault := by
  obtain ⟨t, _ | e⟩ := a <;> simp [result]

/-- Of two emissions, one after the other, the first error counts. -/
theorem error?_andThen (a b : Emission) : (a.andThen b).error? = a.error?.or b.error? := by
  obtain ⟨t, _ | e⟩ := a <;> rfl

/-- What was looked up is written unless the look-up failed. -/
theorem error?_ofLookup {α : Type} {found : Except Error (Option α)} {form : α → Text}
    {otherwise : Text} {expected : Option Error}
    (h : ∀ fault, found = .error fault ↔ expected = some fault) :
    (ofLookup found form otherwise).error? = expected := by
  cases expected with
  | some fault =>
    rw [(h fault).2 rfl]
    rfl
  | none =>
    rcases found with fault | _ | x
    · cases (h fault).1 rfl
    · rfl
    · rfl

end Emission

/-! ### Where an expression stops -/

namespace Expression

variable {params : Params} {encode : Encoder} {separator : Text} {e : Expression}

/-- What an expression expects of the values of its names; `-opt` and `-neg` only ask whether they
are present. -/
def expectation? : Expression → Option Expectation
  | bare _ | prepend .. | append .. | join .. => some .single
  | list .. => some .list
  | opt .. | neg .. => none

/-- The error of the first name of an expression with a value of the wrong kind. -/
def fault? (e : Expression) (params : Params) : Option Error :=
  e.expectation?.bind fun expected => e.names.findSome? (params.fault? expected)

/-- The pairs of a full expansion stop at the first name that is bound to a list. -/
theorem error?_joinFull (filled : Bool) (names : List Text) :
    (joinFull params encode separator filled names).error? =
      names.findSome? (params.fault? .single) := by
  induction names generalizing filled with
  | nil => rfl
  | cons name names ih =>
    rw [joinFull, List.findSome?_cons]
    rcases hsingle : params.single name with fault | _ | value
    · rw [Params.single_eq_error_iff.1 hsingle]
      rfl
    · rw [Params.fault?_eq_none_of_single hsingle]
      exact ih filled
    · rw [Params.fault?_eq_none_of_single hsingle]
      exact ih true

/-- The pairs of a staged expansion stop at the first name that is bound to a list, whatever run of
missing names precedes it. -/
theorem error?_joinStaged (filled : Bool) (run names : List Text) :
    (joinStaged params encode separator filled run names).error? =
      names.findSome? (params.fault? .single) := by
  induction names generalizing filled run with
  | nil => rfl
  | cons name names ih =>
    rw [joinStaged, List.findSome?_cons]
    rcases hsingle : params.single name with fault | _ | value
    · rw [Params.single_eq_error_iff.1 hsingle]
      rfl
    · rw [Params.fault?_eq_none_of_single hsingle]
      exact ih filled (run ++ [name])
    · rw [Params.fault?_eq_none_of_single hsingle]
      exact ih true []

/-- An expansion of an expression stops at its first name with a value of the wrong kind, in either
mode and with every encoder. -/
theorem error?_expand (e : Expression) (params : Params) (encode : Encoder) (mode : Mode) :
    (e.expand params encode mode).error? = e.fault? params := by
  have hsingle : ∀ {name : Text} {form : Text → Text} {otherwise : Text},
      (Emission.ofLookup (params.single name) form otherwise).error? =
        [name].findSome? (params.fault? .single) := by
    intro name form otherwise
    rw [List.findSome?_singleton]
    exact Emission.error?_ofLookup fun fault => Params.single_eq_error_iff
  cases e with
  | bare name => exact hsingle
  | prepend arg name => exact hsingle
  | append arg name => exact hsingle
  | list arg name =>
    refine (Emission.error?_ofLookup fun fault => Params.items_eq_error_iff).trans ?_
    exact List.findSome?_singleton.symm
  | opt arg names => rfl
  | neg arg names => rfl
  | join separator names =>
    cases mode with
    | full => exact error?_joinFull false names
    | staged => exact error?_joinStaged false [] names

/-! ### Names that are rejected -/

/-- The expression mentions the name and cannot use what it is bound to: a list, or for `-list` a
single value. -/
def Rejects (e : Expression) (params : Params) (name : Text) : Prop :=
  name ∈ e.names ∧
    match e with
    | bare _ | prepend .. | append .. | join .. => ∃ items, params.get? name = some (.list items)
    | list .. => ∃ text, params.get? name = some (.scalar text)
    | opt .. | neg .. => False

/-- A name that is rejected is bound. -/
theorem Rejects.get?_ne_none {name : Text} (h : e.Rejects params name) :
    params.get? name ≠ none := by
  intro hnone
  obtain ⟨-, hvalue⟩ := h
  cases e with
  | bare _ | prepend _ _ | append _ _ | join _ _ | list _ _ =>
    obtain ⟨_, hbound⟩ := hvalue
    cases hnone.symm.trans hbound
  | opt _ _ | neg _ _ => exact hvalue

/-- Of the names of the expression the first that it rejects gives the error. -/
def Fails (e : Expression) (params : Params) (fault : Error) : Prop :=
  ∃ before name after expected, e.names = before ++ name :: after ∧
    (∀ n ∈ before, ¬ e.Rejects params n) ∧ e.Rejects params name ∧
    e.expectation? = some expected ∧ fault = .typeMismatch name expected

/-- Looking up one of its names as the expression expects it fails where the name is rejected. -/
theorem rejects_iff_fault? {expected : Expectation} {name : Text}
    (he : e.expectation? = some expected) :
    e.Rejects params name ↔ name ∈ e.names ∧ (params.fault? expected name).isSome := by
  cases e with
  | bare _ | prepend _ _ | append _ _ | join _ _ =>
    cases he
    exact and_congr_right fun _ => Params.fault?_single_isSome_iff.symm
  | list _ _ =>
    cases he
    exact and_congr_right fun _ => Params.fault?_list_isSome_iff.symm
  | opt _ _ | neg _ _ => cases he

/-- An expression that expects nothing rejects nothing. -/
theorem not_rejects_of_expectation? {name : Text} (he : e.expectation? = none) :
    ¬ e.Rejects params name := by
  rintro ⟨-, hvalue⟩
  cases e with
  | opt _ _ | neg _ _ => exact hvalue
  | bare _ | prepend _ _ | append _ _ | join _ _ | list _ _ => cases he

/-- An expression stops no expansion exactly if it rejects none of its names. -/
theorem fault?_eq_none_iff : e.fault? params = none ↔ ∀ name, ¬ e.Rejects params name := by
  unfold fault?
  cases he : e.expectation? with
  | none => exact iff_of_true rfl fun name => not_rejects_of_expectation? he
  | some expected =>
    rw [Option.bind_some, List.findSome?_eq_none_iff]
    refine forall_congr' fun name => ?_
    rw [rejects_iff_fault? he, not_and, Option.not_isSome_iff_eq_none]

/-- An expression stops an expansion exactly if it rejects one of its names. -/
theorem isSome_fault?_iff : (e.fault? params).isSome ↔ ∃ name, e.Rejects params name := by
  rw [Option.isSome_iff_ne_none, ne_eq, fault?_eq_none_iff, not_forall_not]

/-- An expression stops an expansion with the error of the first of its names that it rejects. -/
theorem fault?_eq_some_iff {fault : Error} :
    e.fault? params = some fault ↔ e.Fails params fault := by
  unfold fault? Fails
  cases he : e.expectation? with
  | none => simp
  | some expected =>
    have hrejects : ∀ n ∈ e.names, (params.fault? expected n = none ↔ ¬ e.Rejects params n) := by
      intro n hn
      rw [rejects_iff_fault? he, and_iff_right hn, Option.not_isSome_iff_eq_none]
    rw [Option.bind_some, List.findSome?_eq_some_iff]
    constructor
    · rintro ⟨before, name, after, hnames, hfault, hbefore⟩
      have hname : e.Rejects params name :=
        (rejects_iff_fault? he).2 ⟨by simp [hnames], Option.isSome_of_eq_some hfault⟩
      refine ⟨before, name, after, expected, hnames, fun n hn => ?_, hname, rfl,
        Params.eq_typeMismatch_of_fault? hfault⟩
      exact (hrejects n (by simp [hnames, hn])).1 (hbefore n hn)
    · rintro ⟨before, name, after, expected', hnames, hbefore, hname, hexpected, rfl⟩
      obtain rfl : expected = expected' := Option.some.inj hexpected
      obtain ⟨fault, hfault⟩ := Option.isSome_iff_exists.1 ((rejects_iff_fault? he).1 hname).2
      obtain rfl := Params.eq_typeMismatch_of_fault? hfault
      refine ⟨before, name, after, hnames, hfault, fun n hn => ?_⟩
      exact (hrejects n (by simp [hnames, hn])).2 (hbefore n hn)

end Expression

/-! ### Where a template stops -/

/-- An expansion of segments stops at their first expression that does, in either mode and with
every encoder. -/
theorem Segment.error?_expandAll (params : Params) (encode : Encoder) (mode : Mode)
    (segments : List Segment) :
    (expandAll params encode mode segments).error? =
      (expressionsOf segments).findSome? (·.fault? params) := by
  induction segments with
  | nil => rfl
  | cons s rest ih =>
    rw [expandAll_cons, Emission.error?_andThen, ih]
    cases s with
    | literal t => rfl
    | expression e =>
      rw [expand, Expression.error?_expand, expressionsOf_expression_cons, List.findSome?_cons]
      cases e.fault? params <;> rfl

/-- The error of expanding a template is decided by its expressions and the parameters. -/
theorem Template.expandText_eq_error_iff {t : Text} {template : Template}
    (hparse : parse t = .ok template) {params : Params} {encode : Encoder} {mode : Mode}
    {fault : Error} : expandText t params encode mode = .error fault ↔
      template.expressions.findSome? (·.fault? params) = some fault := by
  rw [expandText_of_parse hparse, Emission.result_eq_error_iff, Segment.error?_expandAll]
  rfl

/-- **When an expansion fails.**  A template fails to expand exactly if one of its expressions
rejects a name: a bare variable, `-prefix`, `-suffix` or `-join` a name that is bound to a list, or
`-list` a name that is bound to a single value.  The leftmost such expression gives the error, which
names the first variable that it rejects and says what it expects.  `-opt` and `-neg` cause no
failure.  The two modes, and all encoders, fail on the same parameters with the same error. -/
theorem expandText_eq_error_iff_rejects {t : Text} {template : Template}
    (hparse : Template.parse t = .ok template) (params : Params) (encode : Encoder) (mode : Mode) :
    ((∃ fault, expandText t params encode mode = .error fault) ↔
      ∃ e ∈ template.expressions, ∃ name, e.Rejects params name) ∧
    (∀ fault, expandText t params encode mode = .error fault ↔
      ∃ before e after, template.expressions = before ++ e :: after ∧
        (∀ e' ∈ before, ∀ name, ¬ e'.Rejects params name) ∧ e.Fails params fault) ∧
    (∀ arg names, ((Expression.opt arg names).expand params encode mode).error? = none ∧
      ((Expression.neg arg names).expand params encode mode).error? = none) ∧
    ∀ encode' mode' fault, expandText t params encode mode = .error fault ↔
      expandText t params encode' mode' = .error fault := by
  have herror : ∀ {encode mode} {fault : Error}, expandText t params encode mode = .error fault ↔
      template.expressions.findSome? (·.fault? params) = some fault :=
    Template.expandText_eq_error_iff hparse
  refine ⟨?_, fun fault => ?_, fun arg names => ?_, fun encode' mode' fault => ?_⟩
  · simp only [herror]
    rw [← Option.isSome_iff_exists, List.findSome?_isSome_iff]
    simp only [Expression.isSome_fault?_iff]
  · rw [herror, List.findSome?_eq_some_iff]
    simp only [Expression.fault?_eq_some_iff, Expression.fault?_eq_none_iff]
    refine exists_congr fun before => exists_congr fun e => exists_congr fun after => ?_
    rw [and_comm (a := e.Fails params fault)]
  · exact ⟨Expression.error?_expand _ _ _ _, Expression.error?_expand _ _ _ _⟩
  · rw [herror, herror]

/-- The search template stops at `x`, which is bound to an empty list: `-opt` in front of it takes
every value, and of the names of `-join` the first is unbound and the second bound to a text. -/
theorem expandText_eq_error_search :
    let params : Params := .ofList [(['q'], .scalar ['1']), (['x'], .list []),
      (['y'], .list [['2']]), (['z'], .list [['3']])]
    Template.parse Template.search.source = .ok Template.search ∧
      expandText Template.search.source params .percent .staged =
        .error (.typeMismatch ['x'] .single) ∧
      expandText Template.search.source params .verbatim .full =
        .error (.typeMismatch ['x'] .single) := by
  intro params
  obtain ⟨-, hfault, -, hmodes⟩ :=
    expandText_eq_error_iff_rejects Template.parse_search params .percent .staged
  have hopt : ∀ name, ¬ (Expression.opt ['?'] [['q'], ['p']]).Rejects params name :=
    fun name hrejects => hrejects.2
  have hbound : ∀ name ∈ [['p'], ['q']], params.fault? .single name = none := by decide
  have hjoin : (Expression.join ['&'] [['p'], ['q'], ['x'], ['y']]).Fails params
      (.typeMismatch ['x'] .single) := by
    refine ⟨[['p'], ['q']], ['x'], [['y']], .single, rfl, fun name hname hrejects => ?_,
      ⟨by decide, [], rfl⟩, rfl, rfl⟩
    have hsome := ((Expression.rejects_iff_fault? rfl).1 hrejects).2
    rw [hbound name hname] at hsome
    cases hsome
  have hstaged : expandText Template.search.source params .percent .staged =
      .error (.typeMismatch ['x'] .single) :=
    (hfault _).2 ⟨[.opt ['?'] [['q'], ['p']]], _, [.neg ['!'] [['z']]], rfl,
      List.forall_mem_singleton.2 hopt, hjoin⟩
  exact ⟨Template.parse_search, hstaged, (hmodes .verbatim .full _).1 hstaged⟩

end LinkTemplate
