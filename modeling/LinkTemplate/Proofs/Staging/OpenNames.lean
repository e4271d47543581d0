import LinkTemplate.Proofs.Template.Residual
/-!
# The names that a stage leaves open

A staged expansion writes a template again, and this file says which variables
that template depends on: those that some expression `Awaits`.  An expression with
`-opt` or `-neg` awaits all its names until one of them is present; the others
await a name until it is bound, if only to an empty list.

Everything that is left awaits all names it mentions
(`Expression.awaits_of_mem_residual`), so a second stage with the same parameters
has nothing to do.
-/

namespace LinkTemplate

/-! ### The names of a template -/

namespace Template

/-- Dropping repetitions keeps the names that are there. -/
theorem mem_distinct_iff {names : List Text} {name : Text} :
    name ∈ distinct names ↔ name ∈ names := by
  have hfold : ∀ seen : List Text, name ∈ names.foldl
      (fun seen n => if seen.contains n then seen else seen ++ [n]) seen ↔
        name ∈ seen ∨ name ∈ names := by
    induction names with
    | nil => simp
    | cons n names ih =>
      intro seen
      rw [List.foldl_cons, ih, List.mem_cons]
      by_cases hseen : n ∈ seen
      · rw [if_pos (by simpa using hseen)]
        constructor
        · exact fun h => h.imp_right .inr
        · rintro (h | rfl | h)
          · exact .inl h
          · exact .inl hseen
          · exact .inr h
      · rw [if_neg (by simpa using hseen), List.mem_append, List.mem_singleton, or_assoc]
  simpa [distinct] using hfold []

/-- The names of a template are those of its expressions. -/
theorem mem_names_iff {template : Template} {name : Text} :
    name ∈ template.names ↔ ∃ e ∈ template.expressions, name ∈ e.names := by
  rw [names, mem_distinct_iff, List.mem_flatMap]

end Template

namespace Expression

open Segment (expressionsOf)

variable {params : Params} {encode : Encoder} {separator : Text} {e : Expression}
  {segments : List Segment} {name : Text}

/-! ### The names that are left of an expression -/

/-- What a `-join` leaves mentions the unbound names, and no others. -/
theorem mem_names_joinResidual_iff {filled : Bool} {run names : List Text}
    (hrun : ∀ n ∈ run, params.get? n = none)
    (h : joinResidual params encode separator filled run names = .ok segments) :
    (∃ e ∈ expressionsOf segments, name ∈ e.names) ↔
      (name ∈ run ∨ name ∈ names) ∧ params.get? name = none := by
  induction names generalizing filled run segments with
  | nil =>
    cases h
    rw [Segment.expressionsOf_map_expression, mem_names_residue_iff]
    constructor
    · exact fun hname => ⟨.inl hname, hrun name hname⟩
    · rintro ⟨hname | hname, -⟩
      · exact hname
      · cases hname
  | cons n names ih =>
    rcases joinResidual_cons_cases h with ⟨hn, h⟩ | ⟨value, rest, hsingle, hrest, rfl⟩
    · have hrun' : ∀ m ∈ run ++ [n], params.get? m = none := by
        intro m hm
        rcases List.mem_append.1 hm with hm | hm
        · exact hrun m hm
        · exact List.mem_singleton.1 hm ▸ hn
      rw [ih hrun' h, List.mem_append, List.mem_singleton, List.mem_cons, or_assoc]
    · have hn : params.get? n ≠ none := fun hnone => by
        cases hsingle.symm.trans (Params.single_eq_ok_none_iff.2 hnone)
      have hleft : (∃ e ∈ expressionsOf rest, name ∈ e.names) ↔
          name ∈ names ∧ params.get? name = none := by
        rw [ih (fun m hm => absurd hm List.not_mem_nil) hrest]
        simp
      simp only [Segment.expressionsOf_append, Segment.expressionsOf_map_expression,
        Segment.expressionsOf_literal_cons, List.mem_append, or_and_right, exists_or,
        mem_names_residue_iff, hleft]
      constructor
      · rintro (hname | ⟨hname, hnone⟩)
        · exact .inl ⟨hname, hrun name hname⟩
        · exact .inr ⟨List.mem_cons_of_mem n hname, hnone⟩
      · rintro (⟨hname, -⟩ | ⟨hname, hnone⟩)
        · exact .inl hname
        · rcases List.mem_cons.1 hname with rfl | hname
          · exact absurd hnone hn
          · exact .inr ⟨hname, hnone⟩

/-- What is left of an expression mentions the names that the expression awaits. -/
theorem mem_names_residual_iff (h : e.residual params encode = .ok segments) :
    (∃ e' ∈ expressionsOf segments, name ∈ e'.names) ↔ e.Awaits params name := by
  cases leaves_of_residual h with
  | kept hawaits =>
    rw [Segment.expressionsOf_expression_cons, Segment.expressionsOf_nil]
    constructor
    · rintro ⟨e', he', hname⟩
      obtain rfl := List.mem_singleton.1 he'
      exact hawaits name hname
    · exact fun hname => ⟨e, List.mem_singleton_self e, hname.1⟩
  | written hnone _ =>
    constructor
    · rintro ⟨e', he', -⟩
      cases he'
    · exact fun hname => absurd hname (hnone name)
  | @joined separator names _ hjoin =>
    rw [mem_names_joinResidual_iff (fun n hn => absurd hn List.not_mem_nil) hjoin]
    simp [Awaits, Expression.names]

/-! ### What is left stays -/

/-- A name that an expression awaits is not present. -/
theorem Awaits.isPresent_eq_false (h : e.Awaits params name) : params.isPresent name = false := by
  obtain ⟨hname, hopen⟩ := h
  have hany : ∀ names : List Text, params.anyPresent names = false → name ∈ names →
      params.isPresent name = false := by
    intro names hnone hmem
    rw [Params.anyPresent, List.any_eq_false] at hnone
    exact Bool.eq_false_iff.2 (hnone name hmem)
  cases e with
  | opt arg names => exact hany names hopen hname
  | neg arg names => exact hany names hopen hname
  | bare _ | prepend _ _ | append _ _ | join _ _ | list _ _ =>
    exact Params.isPresent_eq_false_of_get? hopen

/-- Everything that is left of an expression awaits all its names. -/
theorem awaits_of_mem_residual (h : e.residual params encode = .ok segments) :
    ∀ e' ∈ expressionsOf segments, ∀ n ∈ e'.names, e'.Awaits params n := by
  refine forall_mem_expressionsOf_residual (fun hawaits => hawaits) ?_ h
  rintro separator names run filled followed rfl hrun e' he' n hn
  have hnone : ∀ m ∈ run, params.get? m = none := fun m hm => (hrun m hm).2
  refine ⟨hn, ?_⟩
  obtain ⟨-, rfl | rfl | ⟨only, rfl, rfl⟩⟩ := mem_residue he'
  · exact hnone n hn
  · exact Params.anyPresent_eq_false_of_get? hnone
  · exact hnone n hn

/-- A well-formed expression mentions a name. -/
theorem WellFormed.names_ne_nil (h : e.WellFormed) : e.names ≠ [] := by
  cases e with
  | opt arg names => exact IsApplicable.names_ne_nil h
  | neg arg names => exact IsApplicable.names_ne_nil h
  | join separator names => exact IsApplicable.names_ne_nil h
  | bare _ | prepend _ _ | append _ _ | list _ _ => exact List.cons_ne_nil _ _

/-- A `-join` without bound names leaves what stands for the run of all its names. -/
theorem joinResidual_of_missing {filled : Bool} {run names : List Text}
    (h : ∀ n ∈ names, params.get? n = none) :
    joinResidual params encode separator filled run names =
      .ok ((residue separator (run ++ names) filled false).map .expression) := by
  induction names generalizing run with
  | nil => rw [joinResidual, List.append_nil]
  | cons n names ih =>
    have hn : params.single n = .ok none :=
      Params.single_eq_ok_none_iff.2 (h n List.mem_cons_self)
    rw [joinResidual_cons_of_none hn, ih fun m hm => h m (List.mem_cons_of_mem _ hm),
      List.append_assoc, List.singleton_append]

/-- An expression that awaits all its names is left as it is. -/
theorem residual_of_awaits (hne : e.names ≠ []) (h : ∀ n ∈ e.names, e.Awaits params n) :
    e.residual params encode = .ok [.expression e] := by
  obtain ⟨n, hn⟩ := List.exists_mem_of_ne_nil _ hne
  have hlook : ∀ {α : Type} {found : Except Error (Option α)} {form : α → Text},
      found = .ok none → residualOfLookup e found form = .ok [.expression e] :=
    fun hfound => residualOfLookup_eq_ok_iff.2 (.inl ⟨hfound, rfl⟩)
  cases e with
  | bare name =>
    exact hlook (Params.single_eq_ok_none_iff.2 (h name (List.mem_singleton_self _)).2)
  | prepend arg name =>
    exact hlook (Params.single_eq_ok_none_iff.2 (h name (List.mem_singleton_self _)).2)
  | append arg name =>
    exact hlook (Params.single_eq_ok_none_iff.2 (h name (List.mem_singleton_self _)).2)
  | list arg name =>
    exact hlook (Params.items_eq_ok_none_iff.2 (h name (List.mem_singleton_self _)).2)
  | opt arg names =>
    have hnone : params.anyPresent names = false := (h n hn).2
    simp [residual, hnone]
  | neg arg names =>
    have hnone : params.anyPresent names = false := (h n hn).2
    simp [residual, hnone]
  | join separator names =>
    have hmissing : ∀ m ∈ names, params.get? m = none := fun m hm => (h m hm).2
    have hgroup : residue separator names false false = [join separator names] := residue_alone hne
    rw [residual, joinResidual_of_missing hmissing, List.nil_append, hgroup]
    rfl

end Expression

namespace Segment

variable {params : Params} {encode : Encoder} {segments out : List Segment} {name : Text}

/-- What is left of segments mentions the names that some expression among them awaits. -/
theorem mem_names_residualAll_iff (h : residualAll params encode segments = .ok out) :
    (∃ e' ∈ expressionsOf out, name ∈ e'.names) ↔
      ∃ e ∈ expressionsOf segments, e.Awaits params name := by
  constructor
  · rintro ⟨e', he', hname⟩
    obtain ⟨e, he, left, hleft, hmem⟩ := (mem_expressionsOf_residualAll_iff h).1 he'
    exact ⟨e, he, (Expression.mem_names_residual_iff hleft).1 ⟨e', hmem, hname⟩⟩
  · rintro ⟨e, he, hawaits⟩
    obtain ⟨left, hleft⟩ := exists_residual_of_mem h he
    obtain ⟨e', hmem, hname⟩ := (Expression.mem_names_residual_iff hleft).2 hawaits
    exact ⟨e', (mem_expressionsOf_residualAll_iff h).2 ⟨e, he, left, hleft, hmem⟩, hname⟩

/-- An expression that is left of segments would be left as it is by the same stage. -/
theorem residual_of_mem_residualAll (h : residualAll params encode segments = .ok out)
    {e : Expression} (he : e ∈ expressionsOf out) (hwf : e.WellFormed) :
    e.residual params encode = .ok [.expression e] := by
  obtain ⟨e', -, left, hleft, hmem⟩ := (mem_expressionsOf_residualAll_iff h).1 he
  exact Expression.residual_of_awaits hwf.names_ne_nil
    (Expression.awaits_of_mem_residual hleft e hmem)

/-- Segments are left as they are if their expressions are. -/
theorem residualAll_of_kept
    (h : ∀ e ∈ expressionsOf segments, e.residual params encode = .ok [.expression e]) :
    residualAll params encode segments = .ok segments := by
  induction segments with
  | nil => rfl
  | cons s rest ih =>
    cases s with
    | literal t => exact residualAll_cons_eq_ok_iff.2 ⟨[.literal t], rest, rfl, ih h, rfl⟩
    | expression e =>
      have he : e.residual params encode = .ok [.expression e] := h e List.mem_cons_self
      have hrest : residualAll params encode rest = .ok rest :=
        ih fun e' he' => h e' (List.mem_cons_of_mem _ he')
      exact residualAll_cons_eq_ok_iff.2 ⟨[.expression e], rest, he, hrest, rfl⟩

end Segment

/-- **The names of a staged expansion.**  Let a template write no opening brace of its operator
arguments or `-join` names, and let the encoder write none.  What a stage writes of it is a template
that mentions exactly the names that some expression awaits.  So no name that is present is left, no
name is new, and the same stage once more changes nothing. -/
theorem names_of_expandText_staged {encode : Encoder} (henc : encode.BraceFree) {t s : Text}
    {template : Template} (hparse : Template.parse t = .ok template) (hfree : template.BraceFree)
    {params : Params} (h : expandText t params encode .staged = .ok s) :
    ∃ next, Template.parse s = .ok next ∧
      (∀ name, name ∈ next.names ↔ ∃ e ∈ template.expressions, e.Awaits params name) ∧
      (∀ name, params.isPresent name = true → name ∉ next.names) ∧
      (∀ name ∈ next.names, name ∈ template.names) ∧
      expandText s params encode .staged = .ok s := by
  obtain ⟨left, hleft, rfl, hparse', -⟩ := Template.stage_of_expandText hparse hfree henc h
  have hnames : ∀ name, name ∈ (Template.mk (Segment.gather left)).names ↔
      ∃ e ∈ template.expressions, e.Awaits params name := by
    intro name
    rw [Template.mem_names_iff, Template.expressions_gather]
    exact Segment.mem_names_residualAll_iff hleft
  refine ⟨_, hparse', hnames, ?_, ?_, ?_⟩
  · intro name hpresent hname
    obtain ⟨e, -, hawaits⟩ := (hnames name).1 hname
    cases hpresent.symm.trans hawaits.isPresent_eq_false
  · intro name hname
    obtain ⟨e, he, hawaits⟩ := (hnames name).1 hname
    exact Template.mem_names_iff.2 ⟨e, he, hawaits.1⟩
  · obtain ⟨hlegible, hsource⟩ := Template.legible_of_parse hparse'
    have hkept : Segment.residualAll params encode (Segment.gather left) =
        .ok (Segment.gather left) := by
      refine Segment.residualAll_of_kept fun e he => ?_
      have hwf : e.WellFormed := (hlegible.embeddable e he).wellFormed
      have hmem : e ∈ Segment.expressionsOf left := by
        rw [← Template.expressions_gather]
        exact he
      exact Segment.residual_of_mem_residualAll hleft hmem hwf
    rw [expandText_staged hparse', hkept]
    exact congrArg Except.ok hsource

/-- A stage of the search template that binds `q`, and `z` to an empty list: `-neg` goes on waiting
for `z`. -/
theorem names_of_expandText_search :
    let params : Params := .ofList [(['q'], .scalar ['a', '{']), (['z'], .list [])]
    let left : Template :=
      ⟨[.literal "/s?".toList, .expression (.join ['&'] [['p']]),
        .expression (.opt ['&'] [['p']]), .literal "q=a%7B".toList,
        .expression (.opt ['&'] [['x'], ['y']]), .expression (.join ['&'] [['x'], ['y']]),
        .expression (.neg ['!'] [['z']]), .literal ['{']]⟩
    Encoder.percent.BraceFree ∧ Template.parse Template.search.source = .ok Template.search ∧
      Template.search.BraceFree ∧
      expandText Template.search.source params .percent .staged = .ok left.source ∧
      ∃ next, Template.parse left.source = .ok next ∧ ['z'] ∈ next.names ∧ ['q'] ∉ next.names ∧
        expandText left.source params .percent .staged = .ok left.source := by
  intro params left
  have hstage : expandText Template.search.source params .percent .staged = .ok left.source :=
    toOption_eq_some_iff.1 (by decide +kernel)
  obtain ⟨next, hparse, hnames, hpresent, -, hagain⟩ :=
    names_of_expandText_staged Encoder.braceFree_percent Template.parse_search
      Template.braceFree_search hstage
  have hz : ['z'] ∈ next.names :=
    (hnames ['z']).2 ⟨.neg ['!'] [['z']], by decide, by decide, rfl⟩
  have hq : ['q'] ∉ next.names := hpresent ['q'] rfl
  exact ⟨Encoder.braceFree_percent, Template.parse_search, Template.braceFree_search, hstage, next,
    hparse, hz, hq, hagain⟩

end LinkTemplate
