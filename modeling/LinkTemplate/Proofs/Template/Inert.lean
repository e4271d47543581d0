import LinkTemplate.Proofs.Template.Residual
/-!
# Full expansions are inert

A text is inert if it is legible as one literal: it opens no span but empty ones,
and perhaps one at its end that nothing closes.  Reading an inert text finds no
expression (`Template.parse_of_inert`), so expanding it changes nothing
(`expandText_of_inert`).

What a full expansion writes is put together from the literals of the template and
from what its expressions write, which has no opening brace at all if arguments,
`-join` names and encoded values have none.  A literal of a template is closed, so
its neighbours may vanish or become text without opening a span in it; only the
last one can end in a brace that nothing closes, and nothing is written after it.
-/

namespace LinkTemplate

namespace Text

/-- The text is legible as one literal, so that no expression is found in it. -/
def Inert (t : Text) : Prop := Segment.Legible [.literal t]

/-- A closed text is inert. -/
theorem Closed.inert {t : Text} (h : t.Closed) : t.Inert := .literal h .nil

/-- An inert text stays so behind a closed one. -/
theorem Closed.append_inert {s t : Text} (hs : s.Closed) (ht : t.Inert) : (s ++ t).Inert := by
  cases ht with
  | literal hclosed _ => exact (hs.append hclosed).inert
  | @unclosed u opened hclosed hopened =>
    unfold Inert
    rw [← List.append_assoc]
    exact .unclosed (hs.append hclosed) hopened

end Text

/-- An inert text is a template with one literal, or with nothing. -/
theorem Template.parse_of_inert {t : Text} (h : t.Inert) :
    parse t = .ok ⟨Segment.literals t⟩ := by
  have hsource : Segment.sourceOf [.literal t] = t := List.append_nil t
  have hparse := parse_source_of_legible h
  rwa [hsource] at hparse

/-- Expanding an inert text changes nothing. -/
theorem expandText_of_inert {t : Text} (h : t.Inert) (params : Params) (encode : Encoder)
    (mode : Mode) : expandText t params encode mode = .ok t := by
  rw [expandText_of_parse (Template.parse_of_inert h), Segment.expandAll_literals]
  rfl

/-! ### What a full expansion writes -/

namespace Emission

/-- What was written, if the emission was not stopped. -/
theorem written_of_result {a : Emission} {t : Text} (h : a.result = .ok t) : a.written = t := by
  obtain ⟨u, _ | e⟩ := a
  · exact Except.ok.inj h
  · cases h

/-- One emission after another writes what both write, or only what the first does. -/
theorem written_andThen_cases (a b : Emission) :
    (a.andThen b).written = a.written ∨ (a.andThen b).written = a.written ++ b.written := by
  obtain ⟨t, _ | e⟩ := a
  · exact .inr rfl
  · exact .inl rfl

/-- A character that no emission of two writes is not written by both together. -/
theorem notMem_written_andThen {c : Char} {a b : Emission} (ha : c ∉ a.written)
    (hb : c ∉ b.written) : c ∉ (a.andThen b).written := by
  rcases written_andThen_cases a b with h | h
  · rwa [h]
  · rw [h, List.mem_append, not_or]
    exact ⟨ha, hb⟩

/-- What a look-up writes has no character that the forms of what it finds do not have. -/
theorem notMem_written_ofLookup {α : Type} {c : Char} {found : Except Error (Option α)}
    {form : α → Text} (h : ∀ x, c ∉ form x) : c ∉ (ofLookup found form []).written := by
  rcases found with fault | _ | x
  · exact List.not_mem_nil
  · exact List.not_mem_nil
  · exact h x

end Emission

namespace Expression

variable {params : Params} {encode : Encoder} {separator : Text} {e : Expression}

/-- The pairs of names without opening braces have none. -/
theorem open_notMem_joinFull (henc : encode.BraceFree) (hsep : '{' ∉ separator) (filled : Bool)
    {names : List Text} (hnames : ∀ name ∈ names, '{' ∉ name) :
    '{' ∉ (joinFull params encode separator filled names).written := by
  induction names generalizing filled with
  | nil => exact List.not_mem_nil
  | cons name names ih =>
    obtain ⟨hname, hrest⟩ := List.forall_mem_cons.1 hnames
    unfold joinFull
    rcases params.single name with fault | _ | value
    · exact List.not_mem_nil
    · exact ih filled hrest
    · have hpair : '{' ∉ separatorIf filled separator ++ pair encode name value := by
        cases filled <;> simp [separatorIf, pair, hsep, hname, henc value]
      exact Emission.notMem_written_andThen hpair (ih true hrest)

/-- A full expansion writes no opening brace if the expression writes out none. -/
theorem open_notMem_expand_full (he : e.BraceFree) (henc : encode.BraceFree) :
    '{' ∉ (e.expand params encode .full).written := by
  cases e with
  | bare name => exact Emission.notMem_written_ofLookup henc
  | prepend arg name =>
    refine Emission.notMem_written_ofLookup fun value => ?_
    rw [List.mem_append, not_or]
    exact ⟨he, henc value⟩
  | append arg name =>
    refine Emission.notMem_written_ofLookup fun value => ?_
    rw [List.mem_append, not_or]
    exact ⟨henc value, he⟩
  | list arg name =>
    refine Emission.notMem_written_ofLookup fun items => ?_
    refine Text.notMem_joinWith he fun part hpart => ?_
    obtain ⟨item, -, rfl⟩ := List.mem_map.1 hpart
    exact henc item
  | opt arg names =>
    change '{' ∉ if params.anyPresent names then arg else []
    split
    · exact he
    · exact List.not_mem_nil
  | neg arg names =>
    change '{' ∉ if params.anyPresent names then [] else arg
    split
    · exact List.not_mem_nil
    · exact he
  | join separator names => exact open_notMem_joinFull henc he.1 false he.2

end Expression

/-- A full expansion of legible segments writes an inert text, if their expressions write out no
opening brace. -/
theorem Segment.inert_expandAll_full {params : Params} {encode : Encoder} {segments : List Segment}
    (hlegible : Legible segments) (hfree : ∀ e ∈ expressionsOf segments, e.BraceFree)
    (henc : encode.BraceFree) : (expandAll params encode .full segments).written.Inert := by
  induction hlegible with
  | nil => exact Text.Closed.nil.inert
  | @literal t rest ht _ ih =>
    exact ht.append_inert (ih hfree)
  | @expression e rest _ _ ih =>
    obtain ⟨he, hrest⟩ := List.forall_mem_cons.1 hfree
    have hclosed : (e.expand params encode .full).written.Closed :=
      Text.closed_of_notMem (Expression.open_notMem_expand_full he henc)
    rw [expandAll_cons, expand]
    rcases Emission.written_andThen_cases (e.expand params encode .full)
      (expandAll params encode .full rest) with h | h
    · rw [h]
      exact hclosed.inert
    · rw [h]
      exact hclosed.append_inert (ih hrest)
  | @unclosed t opened ht hopened =>
    have hwritten : (expandAll params encode .full
        [Segment.literal (t ++ '{' :: opened)]).written = t ++ '{' :: opened := List.append_nil _
    rw [hwritten]
    exact .unclosed ht hopened

/-- **Full expansions are inert.**  Let a template write no opening brace of its operator arguments
or `-join` names, and let the encoder write none.  What a full expansion writes is a template
without expressions, and expanding it once more, with whatever parameters, encoder and mode, gives
it back. -/
theorem inert_of_expandText_full {encode : Encoder} (henc : encode.BraceFree) {t s : Text}
    {template : Template} (hparse : Template.parse t = .ok template) (hfree : template.BraceFree)
    {params : Params} (h : expandText t params encode .full = .ok s) :
    (∃ next, Template.parse s = .ok next ∧ next.expressions = []) ∧
      ∀ params' encode' mode, expandText s params' encode' mode = .ok s := by
  have hinert : s.Inert := by
    rw [expandText_of_parse hparse] at h
    rw [← Emission.written_of_result h]
    exact Segment.inert_expandAll_full (Template.legible_of_parse hparse).1 hfree henc
  refine ⟨⟨_, Template.parse_of_inert hinert, Segment.expressionsOf_literals⟩, ?_⟩
  exact expandText_of_inert hinert

/-- Where the expressions were, an empty span meets a closing brace, and a last brace stays open. -/
theorem inert_of_expandText_full_braces :
    let template : Template :=
      ⟨[.literal ['{', '}'], .expression (.bare ['p']), .literal ['}'],
        .expression (.neg ['!'] [['z']]), .expression (.join ['&'] [['q'], ['r']]),
        .literal ['{']]⟩
    let params : Params :=
      .ofList [(['q'], .scalar ['{', 'p', '}']), (['r'], .scalar []), (['z'], .list [])]
    let s := "\x7b\x7d\x7d!q=%7Bp%7D&r=\x7b".toList
    Encoder.percent.BraceFree ∧ Template.parse template.source = .ok template ∧
      template.BraceFree ∧ expandText template.source params .percent .full = .ok s ∧
      (∃ next, Template.parse s = .ok next ∧ next.expressions = []) ∧
      ∀ params' encode' mode, expandText s params' encode' mode = .ok s := by
  intro template params s
  have hparse : Template.parse template.source = .ok template :=
    toOption_eq_some_iff.1 (by decide +kernel)
  have hfree : template.BraceFree := by decide
  have hfull : expandText template.source params .percent .full = .ok s :=
    toOption_eq_some_iff.1 (by decide +kernel)
  exact ⟨Encoder.braceFree_percent, hparse, hfree, hfull,
    inert_of_expandText_full Encoder.braceFree_percent hparse hfree hfull⟩

end LinkTemplate
