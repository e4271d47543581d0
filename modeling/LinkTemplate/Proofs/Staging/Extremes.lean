import LinkTemplate.Proofs.Staging.OpenNames
/-!
# The extremes of a stage

Between a stage that can resolve nothing and one that can resolve everything lies the
whole of staged expansion, and at both ends its result is known without looking at the
forms that stand for missing names.  A stage that binds no name of a template writes
the text that was read, character by character.  A stage in which every name is present
does what a full expansion does, and fails as it fails
(`expandText_staged_of_unbound_of_present`).

No condition on the characters of the template is needed: nothing that is written here
has to be read again.
-/

namespace LinkTemplate

/-- A look-up that finds something or fails leaves nothing unresolved. -/
theorem Emission.ofLookup_congr {α : Type} {found : Except Error (Option α)} {form : α → Text}
    (h : found ≠ .ok none) (otherwise otherwise' : Text) :
    ofLookup found form otherwise = ofLookup found form otherwise' := by
  rcases found with fault | _ | x
  · rfl
  · exact absurd rfl h
  · rfl

namespace Expression

variable {params : Params} {encode : Encoder} {separator : Text} {e : Expression}

/-! ### Nothing is bound -/

/-- An expression waits for all its names if none of them is bound. -/
theorem awaits_of_unbound (h : ∀ n ∈ e.names, params.get? n = none) :
    ∀ n ∈ e.names, e.Awaits params n := by
  intro n hn
  refine ⟨hn, ?_⟩
  cases e with
  | opt _ _ | neg _ _ => exact Params.anyPresent_eq_false_of_get? h
  | bare _ | prepend _ _ | append _ _ | join _ _ | list _ _ => exact h n hn

/-! ### Everything is present -/

/-- A `-join` without missing names has no run to write, so both modes write its pairs. -/
theorem joinStaged_eq_joinFull {names : List Text} (h : ∀ n ∈ names, params.get? n ≠ none)
    (filled : Bool) :
    joinStaged params encode separator filled [] names =
      joinFull params encode separator filled names := by
  induction names generalizing filled with
  | nil => rfl
  | cons name names ih =>
    obtain ⟨hname, hnames⟩ := List.forall_mem_cons.1 h
    rw [joinStaged, joinFull]
    rcases hsingle : params.single name with fault | _ | value
    · rfl
    · exact absurd (Params.single_eq_ok_none_iff.1 hsingle) hname
    · simp only [ih hnames]
      rfl

/-- An expression whose names are all present is expanded in the same way in both modes. -/
theorem expand_staged_eq_full (hne : e.names ≠ [])
    (h : ∀ n ∈ e.names, params.isPresent n = true) (encode : Encoder) :
    e.expand params encode .staged = e.expand params encode .full := by
  have hbound : ∀ n ∈ e.names, params.get? n ≠ none := by
    intro n hn hnone
    cases (h n hn).symm.trans (Params.isPresent_eq_false_of_get? hnone)
  have hany : params.anyPresent e.names = true := by
    obtain ⟨n, hn⟩ := List.exists_mem_of_ne_nil _ hne
    exact List.any_eq_true.2 ⟨n, hn, h n hn⟩
  cases e with
  | bare name | prepend arg name | append arg name =>
    have hfound : params.single name ≠ .ok none := fun hnone =>
      hbound name (List.mem_singleton_self _) (Params.single_eq_ok_none_iff.1 hnone)
    exact Emission.ofLookup_congr hfound _ _
  | list arg name =>
    have hfound : params.items name ≠ .ok none := fun hnone =>
      hbound name (List.mem_singleton_self _) (Params.items_eq_ok_none_iff.1 hnone)
    exact Emission.ofLookup_congr hfound _ _
  | opt arg names | neg arg names =>
    have hnames : params.anyPresent names = true := hany
    simp only [expand, hnames, if_true]
  | join separator names => exact joinStaged_eq_joinFull hbound false

end Expression

/-- Segments whose names are all present are expanded in the same way in both modes. -/
theorem Segment.expandAll_staged_eq_full {params : Params} {segments : List Segment}
    (hne : ∀ e ∈ expressionsOf segments, e.names ≠ [])
    (h : ∀ e ∈ expressionsOf segments, ∀ n ∈ e.names, params.isPresent n = true)
    (encode : Encoder) :
    expandAll params encode .staged segments = expandAll params encode .full segments := by
  induction segments with
  | nil => rfl
  | cons s rest ih =>
    cases s with
    | literal t =>
      rw [expandAll_cons, expandAll_cons, ih hne h]
      rfl
    | expression e =>
      obtain ⟨hhead, hrest⟩ := List.forall_mem_cons.1 hne
      obtain ⟨hhead', hrest'⟩ := List.forall_mem_cons.1 h
      rw [expandAll_cons, expandAll_cons, ih hrest hrest', expand, expand,
        Expression.expand_staged_eq_full hhead hhead']

/-- **The extremes of a stage.**  A stage that binds no name of a template writes the text of the
template again.  If every name of the template is present, a stage gives the same text or the same
error as a full expansion. -/
theorem expandText_staged_of_unbound_of_present {t : Text} {template : Template}
    (hparse : Template.parse t = .ok template) (params : Params) (encode : Encoder) :
    ((∀ name ∈ template.names, params.get? name = none) →
      expandText t params encode .staged = .ok t) ∧
    ((∀ name ∈ template.names, params.isPresent name = true) →
      expandText t params encode .staged = expandText t params encode .full) := by
  obtain ⟨hlegible, hsource⟩ := Template.legible_of_parse hparse
  have hne : ∀ e ∈ Segment.expressionsOf template.segments, e.names ≠ [] :=
    fun e he => (hlegible.embeddable e he).wellFormed.names_ne_nil
  constructor
  · intro hunbound
    have hkept : Segment.residualAll params encode template.segments = .ok template.segments := by
      refine Segment.residualAll_of_kept fun e he => ?_
      refine Expression.residual_of_awaits (hne e he) (Expression.awaits_of_unbound fun n hn => ?_)
      exact hunbound n (Template.mem_names_iff.2 ⟨e, he, hn⟩)
    rw [expandText_staged hparse, hkept]
    exact congrArg Except.ok hsource
  · intro hpresent
    have hnames : ∀ e ∈ Segment.expressionsOf template.segments,
        ∀ n ∈ e.names, params.isPresent n = true :=
      fun e he n hn => hpresent n (Template.mem_names_iff.2 ⟨e, he, hn⟩)
    rw [expandText_of_parse hparse, expandText_of_parse hparse,
      Segment.expandAll_staged_eq_full hne hnames]

/-- A template that a stage may leave illegible, with opening braces in an argument, a separator and
a name: the first stage binds another name, the second all of its own. -/
theorem expandText_staged_of_unbound_of_present_braces :
    let template : Template :=
      ⟨[.expression (.opt ['{'] [['a']]), .literal ['-', 'x', '}'],
        .expression (.join ['{'] [['p'], ['{', 'q']]), .literal ['{']]⟩
    let other : Params := .ofList [(['z'], .scalar ['1'])]
    let all : Params :=
      .ofList [(['a'], .list [[]]), (['p'], .scalar ['1']), (['{', 'q'], .scalar ['{'])]
    Template.parse template.source = .ok template ∧
      (∀ name ∈ template.names, other.get? name = none) ∧
      expandText template.source other .percent .staged = .ok template.source ∧
      (∀ name ∈ template.names, all.isPresent name = true) ∧
      expandText template.source all .percent .staged =
        .ok "\x7b-x\x7dp=1\x7b\x7bq=%7B\x7b".toList := by
  intro template other all
  have hparse : Template.parse template.source = .ok template :=
    toOption_eq_some_iff.1 (by decide +kernel)
  have hunbound : ∀ name ∈ template.names, other.get? name = none := by decide
  have hpresent : ∀ name ∈ template.names, all.isPresent name = true := by decide
  have hfull : expandText template.source all .percent .full =
      .ok "\x7b-x\x7dp=1\x7b\x7bq=%7B\x7b".toList := toOption_eq_some_iff.1 (by decide +kernel)
  obtain ⟨hother, -⟩ := expandText_staged_of_unbound_of_present hparse other .percent
  obtain ⟨-, hall⟩ := expandText_staged_of_unbound_of_present hparse all .percent
  exact ⟨hparse, hunbound, hother hunbound, hpresent, (hall hpresent).trans hfull⟩

end LinkTemplate
