import LinkTemplate.Proofs.Expression.Residual
import LinkTemplate.Proofs.Results
/-!
# Staged expansion of a template

The residual of a template is that of its segments one after the other, and its
text is what the staged expansion writes (`expandText_staged`).

If no operator argument and no name in a `-join` holds an opening brace, the
residual of a template is legible.  Then a stage leads from a template to a
template of the same kind, and the next stage reads exactly the segments that
this one wrote (`Template.stage_of_expandText`).
-/

namespace LinkTemplate

namespace Segment

/-- What is left of a segment; a literal stays as it is. -/
def residual (params : Params) (encode : Encoder) : Segment → Except Error (List Segment)
  | literal t => .ok [literal t]
  | expression e => e.residual params encode

/-- What is left of segments, one after the other. -/
def residualAll (params : Params) (encode : Encoder) :
    List Segment → Except Error (List Segment)
  | [] => .ok []
  | s :: rest =>
    (s.residual params encode).bind fun left =>
      (residualAll params encode rest).map fun lefts => left ++ lefts

variable {params : Params} {encode : Encoder} {s : Segment} {segments rest out : List Segment}

/-- Segments leave what the first leaves and what the others leave. -/
theorem residualAll_cons_eq_ok_iff :
    residualAll params encode (s :: rest) = .ok out ↔
      ∃ left lefts, s.residual params encode = .ok left ∧
        residualAll params encode rest = .ok lefts ∧ out = left ++ lefts := by
  rw [residualAll]
  exact bind_map_eq_ok_iff

/-- If segments leave something, so does each of their expressions. -/
theorem exists_residual_of_mem (h : residualAll params encode segments = .ok out) {e : Expression}
    (he : e ∈ expressionsOf segments) : ∃ left, e.residual params encode = .ok left := by
  induction segments generalizing out with
  | nil => cases he
  | cons s rest ih =>
    obtain ⟨left, lefts, hs, hrest, -⟩ := residualAll_cons_eq_ok_iff.1 h
    cases s with
    | literal t => exact ih hrest he
    | expression e' =>
      rcases List.mem_cons.1 he with rfl | he
      · exact ⟨left, hs⟩
      · exact ih hrest he

/-- The expressions that are left of segments are those that are left of their expressions. -/
theorem mem_expressionsOf_residualAll_iff (h : residualAll params encode segments = .ok out)
    {e' : Expression} :
    e' ∈ expressionsOf out ↔ ∃ e ∈ expressionsOf segments, ∃ left,
      e.residual params encode = .ok left ∧ e' ∈ expressionsOf left := by
  induction segments generalizing out with
  | nil =>
    cases h
    simp
  | cons s rest ih =>
    obtain ⟨left, lefts, hs, hrest, rfl⟩ := residualAll_cons_eq_ok_iff.1 h
    cases s with
    | literal t =>
      cases hs
      simpa using ih hrest
    | expression e =>
      have hleft : e.residual params encode = .ok left := hs
      rw [expressionsOf_append, List.mem_append, ih hrest, expressionsOf_expression_cons]
      simp [hleft]

/-- A staged expansion writes the text of the residual, and fails where there is none. -/
theorem result_expandAll_staged (params : Params) (encode : Encoder) (segments : List Segment) :
    (expandAll params encode .staged segments).result =
      (residualAll params encode segments).map sourceOf := by
  induction segments with
  | nil => rfl
  | cons s rest ih =>
    have hs : (s.expand params encode .staged).result =
        (s.residual params encode).map sourceOf := by
      cases s with
      | literal t => simp [expand, residual, Except.map, source]
      | expression e => exact Expression.result_expand_staged e params encode
    rw [expandAll_cons, Emission.result_andThen, hs, ih, residualAll]
    cases s.residual params encode with
    | error fault => rfl
    | ok left =>
      cases residualAll params encode rest with
      | error fault => rfl
      | ok lefts => simp [Except.map, Except.bind]

/-- The residual of legible segments without opening braces in what they write is legible. -/
theorem legible_residualAll (hlegible : Legible segments)
    (hfree : ∀ e ∈ expressionsOf segments, e.BraceFree) (henc : encode.BraceFree)
    (h : residualAll params encode segments = .ok out) : Legible out := by
  induction hlegible generalizing out with
  | nil =>
    cases h
    exact .nil
  | literal ht _ ih =>
    obtain ⟨left, lefts, hs, hrest, rfl⟩ := residualAll_cons_eq_ok_iff.1 h
    cases hs
    exact .literal ht (ih hfree hrest)
  | @expression e rest he _ ih =>
    obtain ⟨left, lefts, hs, hrest, rfl⟩ := residualAll_cons_eq_ok_iff.1 h
    have hleft : e.residual params encode = .ok left := hs
    have hfree' : e.BraceFree := hfree e List.mem_cons_self
    have hfrees : ∀ e' ∈ expressionsOf rest, e'.BraceFree :=
      fun e' he' => hfree e' (List.mem_cons_of_mem _ he')
    refine .append (fun s hs' => ?_) (ih hfrees hrest)
    cases s with
    | literal t =>
      exact Text.closed_of_notMem (Expression.open_notMem_of_mem_residual hfree' henc hleft hs')
    | expression e' =>
      exact Expression.embeddable_of_mem_residual he hleft e' (mem_expressionsOf_iff.2 hs')
  | unclosed ht hopened =>
    cases h
    exact .unclosed ht hopened

end Segment

/-! ### Stages -/

/-- Expanding a text that was read is expanding its segments. -/
theorem expandText_of_parse {t : Text} {template : Template} (h : Template.parse t = .ok template)
    (params : Params) (encode : Encoder) (mode : Mode) :
    expandText t params encode mode =
      (Segment.expandAll params encode mode template.segments).result := by
  rw [expandText, h]
  rfl

/-- A staged expansion of a text writes the text of the residual of its segments. -/
theorem expandText_staged {t : Text} {template : Template} (h : Template.parse t = .ok template)
    (params : Params) (encode : Encoder) :
    expandText t params encode .staged =
      (Segment.residualAll params encode template.segments).map Segment.sourceOf := by
  rw [expandText_of_parse h, Segment.result_expandAll_staged]

namespace Template

/-- No operator argument and no name in a `-join` of the template holds an opening brace. -/
def BraceFree (template : Template) : Prop := ∀ e ∈ template.expressions, e.BraceFree

instance : DecidablePred BraceFree := fun template =>
  inferInstanceAs (Decidable (∀ e ∈ template.expressions, e.BraceFree))

/-- One stage: what a staged expansion writes of a template without opening braces is the text of
the residual, it is read as the segments of the residual, and that template has no opening braces
either. -/
theorem stage_of_expandText {t s : Text} {template : Template} {params : Params} {encode : Encoder}
    (hparse : parse t = .ok template) (hfree : template.BraceFree) (henc : encode.BraceFree)
    (h : expandText t params encode .staged = .ok s) :
    ∃ left, Segment.residualAll params encode template.segments = .ok left ∧
      s = Segment.sourceOf left ∧ parse s = .ok ⟨Segment.gather left⟩ ∧
      (Template.mk (Segment.gather left)).BraceFree := by
  rw [expandText_staged hparse] at h
  cases hleft : Segment.residualAll params encode template.segments with
  | error fault =>
    rw [hleft] at h
    cases h
  | ok left =>
    rw [hleft] at h
    cases h
    have hlegible : Segment.Legible left :=
      Segment.legible_residualAll (legible_of_parse hparse).1 hfree henc hleft
    refine ⟨left, rfl, rfl, parse_source_of_legible hlegible, ?_⟩
    intro e' he'
    rw [expressions_gather, Segment.mem_expressionsOf_residualAll_iff hleft] at he'
    obtain ⟨e, he, left', hleft', hmem⟩ := he'
    exact Expression.braceFree_of_mem_residual (hfree e he) hleft' e' hmem

/-! ### A search template -/

/-- The template `/s{-opt|?|q,p}{-join|&|p,q,x,y}{-neg|!|z}{`, whose last brace is never closed. -/
def search : Template where
  segments :=
    [.literal "/s".toList, .expression (.opt ['?'] [['q'], ['p']]),
      .expression (.join ['&'] [['p'], ['q'], ['x'], ['y']]), .expression (.neg ['!'] [['z']]),
      .literal ['{']]

theorem parse_search : parse search.source = .ok search :=
  toOption_eq_some_iff.1 (by decide +kernel)

theorem braceFree_search : search.BraceFree := by decide

end Template

end LinkTemplate
