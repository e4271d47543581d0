import LinkTemplate.Proofs.Results
import LinkTemplate.Proofs.Template.Residual
/-!
# Values do not become syntax

Parameters are alike if they bind the same names to values of the same kind: both
scalars, or both lists, and then both empty or both not.  Which look-ups fail and
which find nothing is the same for alike parameters, and nothing else decides
which expressions a stage leaves (`Segment.map_expressionsOf_residualAll`).

What a stage writes of a template without opening braces is read as the segments
of the residual.  So the expressions that the next stage finds do not depend on
the texts of the values either: no value is taken for syntax, and none changes
what the text around it is taken for.
-/

namespace LinkTemplate

/-! ### Values and parameters that are alike -/

/-- Both values are scalars, or both are lists, and then both are empty or both have items. -/
def Value.Alike : Value → Value → Prop
  | .scalar _, .scalar _ => True
  | .list items, .list items' => items = [] ↔ items' = []
  | .scalar _, .list _ | .list _, .scalar _ => False

theorem Value.Alike.cases {v v' : Value} (h : v.Alike v') :
    (∃ text text', v = .scalar text ∧ v' = .scalar text') ∨
      ∃ items items', v = .list items ∧ v' = .list items' ∧ (items = [] ↔ items' = []) := by
  cases v with
  | scalar text =>
    cases v' with
    | scalar text' => exact .inl ⟨text, text', rfl, rfl⟩
    | list items' => exact h.elim
  | list items =>
    cases v' with
    | scalar text' => exact h.elim
    | list items' => exact .inr ⟨items, items', rfl, rfl, h⟩

namespace Params

/-- The parameters bind the same names, and to each name values that are alike. -/
def Alike (params params' : Params) : Prop :=
  ∀ name, Option.Rel Value.Alike (params.get? name) (params'.get? name)

theorem alike_empty : Alike .empty .empty := fun _ => .none

/-- Parameters stay alike if a name is bound to values that are alike. -/
theorem Alike.insert {params params' : Params} (h : params.Alike params') (name : Text)
    {v v' : Value} (hv : v.Alike v') :
    Alike (TextMap.insert params name v) (TextMap.insert params' name v') := by
  intro other
  rw [TextMap.get?_insert, TextMap.get?_insert]
  by_cases hother : other = name
  · rw [if_pos hother, if_pos hother]
    exact .some hv
  · rw [if_neg hother, if_neg hother]
    exact h other

variable {params params' : Params}

/-- Alike parameters both leave a name unbound, or bind it to two scalars, or to two lists. -/
theorem Alike.get?_cases (h : params.Alike params') (name : Text) :
    (params.get? name = none ∧ params'.get? name = none) ∨
      (∃ text text', params.get? name = some (.scalar text) ∧
        params'.get? name = some (.scalar text')) ∨
      ∃ items items', params.get? name = some (.list items) ∧
        params'.get? name = some (.list items') ∧ (items = [] ↔ items' = []) := by
  have hname : Option.Rel Value.Alike (params.get? name) (params'.get? name) := h name
  generalize params.get? name = found at hname
  generalize params'.get? name = found' at hname
  cases hname with
  | none => exact .inl ⟨rfl, rfl⟩
  | some hv =>
    rcases hv.cases with ⟨text, text', rfl, rfl⟩ | ⟨items, items', rfl, rfl, hempty⟩
    · exact .inr (.inl ⟨text, text', rfl, rfl⟩)
    · exact .inr (.inr ⟨items, items', rfl, rfl, hempty⟩)

/-- Two look-ups end the same way: with the same error, with nothing, or with something. -/
inductive EndAlike {α : Type} : Except Error (Option α) → Except Error (Option α) → Prop
  | failed (fault : Error) : EndAlike (.error fault) (.error fault)
  | missing : EndAlike (.ok none) (.ok none)
  | found (x x' : α) : EndAlike (.ok (some x)) (.ok (some x'))

/-- A look-up for a single value ends the same way in alike parameters. -/
theorem Alike.single (h : params.Alike params') (name : Text) :
    EndAlike (params.single name) (params'.single name) := by
  unfold Params.single
  rcases h.get?_cases name with ⟨hget, hget'⟩ | ⟨text, text', hget, hget'⟩ |
    ⟨items, items', hget, hget', -⟩
  · rw [hget, hget']
    exact .missing
  · rw [hget, hget']
    exact .found text text'
  · rw [hget, hget']
    exact .failed _

/-- A look-up for a list ends the same way in alike parameters. -/
theorem Alike.items (h : params.Alike params') (name : Text) :
    EndAlike (params.items name) (params'.items name) := by
  unfold Params.items
  rcases h.get?_cases name with ⟨hget, hget'⟩ | ⟨text, text', hget, hget'⟩ |
    ⟨items, items', hget, hget', -⟩
  · rw [hget, hget']
    exact .missing
  · rw [hget, hget']
    exact .failed _
  · rw [hget, hget']
    exact .found items items'

/-- A name is present in both of two alike parameters or in none. -/
theorem Alike.isPresent_eq (h : params.Alike params') (name : Text) :
    params.isPresent name = params'.isPresent name := by
  unfold isPresent
  rcases h.get?_cases name with ⟨hget, hget'⟩ | ⟨text, text', hget, hget'⟩ |
    ⟨items, items', hget, hget', hempty⟩
  · rw [hget, hget']
  · rw [hget, hget']
    rfl
  · have hisEmpty : items.isEmpty = items'.isEmpty := by
      rw [Bool.eq_iff_iff, List.isEmpty_iff, List.isEmpty_iff]
      exact hempty
    rw [hget, hget']
    exact congrArg Bool.not hisEmpty

/-- The same names are present in alike parameters. -/
theorem Alike.anyPresent_eq (h : params.Alike params') (names : List Text) :
    params.anyPresent names = params'.anyPresent names := by
  unfold anyPresent
  rw [funext h.isPresent_eq]

end Params

/-! ### The expressions that are left -/

namespace Expression

open Segment (expressionsOf)

variable {params params' : Params} {encode : Encoder}

/-- Look-ups that end the same way leave the same expressions. -/
theorem map_expressionsOf_residualOfLookup {α : Type} {e : Expression}
    {found found' : Except Error (Option α)} {form : α → Text}
    (h : Params.EndAlike found found') :
    (residualOfLookup e found form).map expressionsOf =
      (residualOfLookup e found' form).map expressionsOf := by
  cases h with
  | failed fault => rfl
  | missing => rfl
  | found x x' => rfl

/-- The expressions that a `-join` leaves when its first name is bound: what stands for the run in
front of that name, and what is left of the other names. -/
theorem map_expressionsOf_joinResidual_cons_of_some {separator name value : Text} {filled : Bool}
    {run names : List Text} (hsingle : params.single name = .ok (some value)) :
    (joinResidual params encode separator filled run (name :: names)).map expressionsOf =
      ((joinResidual params encode separator true [] names).map expressionsOf).map fun es =>
        residue separator run filled true ++ es := by
  rw [joinResidual_cons_of_some hsingle]
  cases joinResidual params encode separator true [] names with
  | error fault => rfl
  | ok segments => simp [Except.map]

/-- A `-join` leaves the same expressions for alike parameters: the same names are missing, so the
same runs stand between the same pairs. -/
theorem map_expressionsOf_joinResidual (h : params.Alike params') (separator : Text)
    (filled : Bool) (run names : List Text) :
    (joinResidual params encode separator filled run names).map expressionsOf =
      (joinResidual params' encode separator filled run names).map expressionsOf := by
  induction names generalizing filled run with
  | nil => rfl
  | cons name names ih =>
    have hlook : Params.EndAlike (params.single name) (params'.single name) := h.single name
    generalize hsingle : params.single name = found at hlook
    generalize hsingle' : params'.single name = found' at hlook
    cases hlook with
    | failed fault =>
      rw [joinResidual_cons_of_error hsingle, joinResidual_cons_of_error hsingle']
    | missing =>
      rw [joinResidual_cons_of_none hsingle, joinResidual_cons_of_none hsingle']
      exact ih filled (run ++ [name])
    | found value value' =>
      rw [map_expressionsOf_joinResidual_cons_of_some hsingle,
        map_expressionsOf_joinResidual_cons_of_some hsingle', ih true []]

/-- A stage leaves the same expressions of an expression for alike parameters, and fails with the
same error. -/
theorem map_expressionsOf_residual (h : params.Alike params') (e : Expression) :
    (e.residual params encode).map expressionsOf =
      (e.residual params' encode).map expressionsOf := by
  cases e with
  | bare name => exact map_expressionsOf_residualOfLookup (h.single name)
  | prepend arg name => exact map_expressionsOf_residualOfLookup (h.single name)
  | append arg name => exact map_expressionsOf_residualOfLookup (h.single name)
  | list arg name => exact map_expressionsOf_residualOfLookup (h.items name)
  | opt arg names => rw [residual, residual, h.anyPresent_eq names]
  | neg arg names => rw [residual, residual, h.anyPresent_eq names]
  | join separator names => exact map_expressionsOf_joinResidual h separator false [] names

end Expression

namespace Segment

variable {params params' : Params} {encode : Encoder}

/-- The expressions that are left of segments are those that are left of the first and those that
are left of the others. -/
theorem map_expressionsOf_residualAll_cons (s : Segment) (rest : List Segment) :
    (residualAll params encode (s :: rest)).map expressionsOf =
      ((s.residual params encode).map expressionsOf).bind fun es =>
        ((residualAll params encode rest).map expressionsOf).map fun es' => es ++ es' := by
  rw [residualAll]
  cases s.residual params encode with
  | error fault => rfl
  | ok left =>
    cases residualAll params encode rest with
    | error fault => rfl
    | ok lefts => simp [Except.map, Except.bind]

/-- A stage leaves the same expressions of segments for alike parameters, and fails with the same
error. -/
theorem map_expressionsOf_residualAll (h : params.Alike params') (segments : List Segment) :
    (residualAll params encode segments).map expressionsOf =
      (residualAll params' encode segments).map expressionsOf := by
  induction segments with
  | nil => rfl
  | cons s rest ih =>
    have hs : (s.residual params encode).map expressionsOf =
        (s.residual params' encode).map expressionsOf := by
      cases s with
      | literal t => rfl
      | expression e => exact Expression.map_expressionsOf_residual h e
    rw [map_expressionsOf_residualAll_cons, map_expressionsOf_residualAll_cons, hs, ih]

end Segment

/-- **Values do not become syntax.**  Let a template write no opening brace of its operator
arguments or `-join` names, and let the encoder write none.  For alike parameters a stage fails with
the same error, or it writes templates with the same expressions in the same order, whatever the
values are. -/
theorem expressions_eq_of_expandText_staged_alike {encode : Encoder} (henc : encode.BraceFree)
    {t : Text} {template : Template} (hparse : Template.parse t = .ok template)
    (hfree : template.BraceFree) {params params' : Params} (halike : params.Alike params') :
    (∃ fault, expandText t params encode .staged = .error fault ∧
        expandText t params' encode .staged = .error fault) ∨
      ∃ s s' next next', expandText t params encode .staged = .ok s ∧
        expandText t params' encode .staged = .ok s' ∧ Template.parse s = .ok next ∧
        Template.parse s' = .ok next' ∧ next.expressions = next'.expressions := by
  have hsame : (Segment.residualAll params encode template.segments).map Segment.expressionsOf =
      (Segment.residualAll params' encode template.segments).map Segment.expressionsOf :=
    Segment.map_expressionsOf_residualAll halike template.segments
  have hstage : ∀ p : Params, expandText t p encode .staged =
      (Segment.residualAll p encode template.segments).map Segment.sourceOf :=
    fun p => expandText_staged hparse p encode
  rcases ends_of_map_eq_map hsame with ⟨fault, hfault, hfault'⟩ | ⟨left, left', hleft, hleft', hes⟩
  · refine .inl ⟨fault, ?_, ?_⟩
    · rw [hstage, hfault]
      rfl
    · rw [hstage, hfault']
      rfl
  · have hs : expandText t params encode .staged = .ok (Segment.sourceOf left) := by
      rw [hstage, hleft]
      rfl
    have hs' : expandText t params' encode .staged = .ok (Segment.sourceOf left') := by
      rw [hstage, hleft']
      rfl
    have hlegible : Segment.Legible template.segments := (Template.legible_of_parse hparse).1
    have hnext : Template.parse (Segment.sourceOf left) = .ok ⟨Segment.gather left⟩ :=
      Template.parse_source_of_legible (Segment.legible_residualAll hlegible hfree henc hleft)
    have hnext' : Template.parse (Segment.sourceOf left') = .ok ⟨Segment.gather left'⟩ :=
      Template.parse_source_of_legible (Segment.legible_residualAll hlegible hfree henc hleft')
    refine .inr ⟨_, _, _, _, hs, hs', hnext, hnext', ?_⟩
    rw [Template.expressions_gather, Template.expressions_gather, hes]

/-- A value made of template syntax and an empty one leave the same expressions of the search
template. -/
theorem expressions_eq_of_expandText_staged_search :
    let params : Params :=
      (TextMap.empty.insert ['q'] (.scalar ['}', '{', 'p', '}'])).insert ['z'] (.list [['{']])
    let params' : Params :=
      (TextMap.empty.insert ['q'] (.scalar [])).insert ['z'] (.list [['a'], ['b']])
    let left (value : Text) : Template :=
      ⟨[.literal "/s?".toList, .expression (.join ['&'] [['p']]),
        .expression (.opt ['&'] [['p']]), .literal ('q' :: '=' :: value),
        .expression (.opt ['&'] [['x'], ['y']]), .expression (.join ['&'] [['x'], ['y']]),
        .literal ['{']]⟩
    Encoder.percent.BraceFree ∧ Template.parse Template.search.source = .ok Template.search ∧
      Template.search.BraceFree ∧ params.Alike params' ∧
      expandText Template.search.source params .percent .staged =
        .ok (left "%7D%7Bp%7D".toList).source ∧
      expandText Template.search.source params' .percent .staged = .ok (left []).source ∧
      ∃ next next', Template.parse (left "%7D%7Bp%7D".toList).source = .ok next ∧
        Template.parse (left []).source = .ok next' ∧ next.expressions = next'.expressions := by
  intro params params' left
  have halike : params.Alike params' := by
    have hscalar : Value.Alike (.scalar ['}', '{', 'p', '}']) (.scalar []) := trivial
    have hlist : Value.Alike (.list [['{']]) (.list [['a'], ['b']]) := by simp [Value.Alike]
    exact (Params.alike_empty.insert ['q'] hscalar).insert ['z'] hlist
  have hstage : expandText Template.search.source params .percent .staged =
      .ok (left "%7D%7Bp%7D".toList).source := toOption_eq_some_iff.1 (by decide +kernel)
  have hstage' : expandText Template.search.source params' .percent .staged =
      .ok (left []).source := toOption_eq_some_iff.1 (by decide +kernel)
  refine ⟨Encoder.braceFree_percent, Template.parse_search, Template.braceFree_search, halike,
    hstage, hstage', ?_⟩
  rcases expressions_eq_of_expandText_staged_alike Encoder.braceFree_percent Template.parse_search
    Template.braceFree_search halike with ⟨fault, hfault, -⟩ | ⟨s, s', next, next', hs, hs', h⟩
  · cases hstage.symm.trans hfault
  · cases hstage.symm.trans hs
    cases hstage'.symm.trans hs'
    exact ⟨next, next', h⟩

end LinkTemplate
