import LinkTemplate.Proofs.Template.Residual
import LinkTemplate.Proofs.Template.Spans
/-!
# When a stage writes a template

Arguments of operators and names of `-join` are written out as they are.  An
opening brace in one of them opens a span in the written text, and that span takes
in what comes after it: literal text, or an expression that was written back,
braces and all.  Its body need not be one that can be read, and then what a stage
writes of a template is no template.

`Segment.strays` collects the bodies of such spans.  Every other body of the
written text is that of an expression, so what a stage writes is a template exactly
if all strays can be read (`Segment.forall_isBody_sourceOf_iff`).
-/

namespace LinkTemplate

namespace Segment

/-- The bodies of the spans that begin in the literals of segments.  A span that is open where an
expression begins takes in the expression. -/
def strays : Option Text → List Segment → List Text
  | _, [] => []
  | state, literal t :: rest => Text.bodies state t ++ strays (Text.spanAfter state t) rest
  | none, expression _ :: rest => strays none rest
  | some body, expression e :: rest => (body ++ '{' :: e.body) :: strays none rest

/-- Besides the bodies of its expressions, which can be read, the text of segments has the bodies of
the stray spans. -/
theorem forall_isBody_sourceOf_iff {segments : List Segment}
    (h : ∀ e ∈ expressionsOf segments, e.Embeddable) (state : Option Text) :
    (∀ b ∈ Text.bodies state (sourceOf segments), Expression.IsBody b) ↔
      ∀ b ∈ strays state segments, Expression.IsBody b := by
  induction segments generalizing state with
  | nil => cases state <;> simp [strays, Text.bodies]
  | cons s rest ih =>
    cases s with
    | literal t =>
      rw [sourceOf_cons, source, Text.bodies_append, strays, List.forall_mem_append,
        List.forall_mem_append, ih h]
    | expression e =>
      have he : e.Embeddable := h e List.mem_cons_self
      have hrest : ∀ e' ∈ expressionsOf rest, e'.Embeddable :=
        fun e' he' => h e' (List.mem_cons_of_mem _ he')
      have hsource : sourceOf (expression e :: rest) = '{' :: (e.body ++ '}' :: sourceOf rest) := by
        simp [source, Expression.render, Expression.braced]
      rw [hsource]
      cases state with
      | none =>
        have hbody : Expression.IsBody e.body := ⟨e, Expression.parse_body he.wellFormed⟩
        have hne : [] ++ e.body ≠ [] := he.body_ne_nil
        rw [Text.bodies, if_pos rfl, Text.bodies_of_closed he.close_notMem hne,
          List.forall_mem_cons, strays, ih hrest, List.nil_append]
        exact and_iff_right hbody
      | some body =>
        have happend : body ++ ['{'] ++ e.body = body ++ '{' :: e.body := by simp
        rw [Text.bodies, if_neg (by decide), Text.bodies_of_closed he.close_notMem (by simp),
          List.forall_mem_cons, strays, List.forall_mem_cons, ih hrest, happend]

end Segment

/-- **When a stage writes a template.**  What a stage writes of a template is again a template
exactly if the bodies of all spans that begin in written text can be read.  That is so whenever no
operator argument and no name in a `-join` holds an opening brace. -/
theorem exists_parse_of_expandText_staged_iff {t s : Text} {template : Template}
    (hparse : Template.parse t = .ok template) {params : Params}
    (h : expandText t params .percent .staged = .ok s) :
    ∃ left, Segment.residualAll params .percent template.segments = .ok left ∧
      ((∃ next, Template.parse s = .ok next) ↔
        ∀ b ∈ Segment.strays none left, Expression.IsBody b) ∧
      (template.BraceFree → ∃ next, Template.parse s = .ok next) := by
  have hwritten := h
  rw [expandText_staged hparse] at hwritten
  cases hleft : Segment.residualAll params .percent template.segments with
  | error fault =>
    rw [hleft] at hwritten
    cases hwritten
  | ok left =>
    rw [hleft] at hwritten
    cases hwritten
    refine ⟨left, rfl, ?_, ?_⟩
    · have hembeddable : ∀ e' ∈ Segment.expressionsOf left, e'.Embeddable := by
        intro e' he'
        obtain ⟨e, he, part, hpart, hmem⟩ :=
          (Segment.mem_expressionsOf_residualAll_iff hleft).1 he'
        have hlegible : Segment.Legible template.segments := (Template.legible_of_parse hparse).1
        exact Expression.embeddable_of_mem_residual (hlegible.embeddable e he) hpart e' hmem
      rw [Template.exists_parse_iff]
      exact Segment.forall_isBody_sourceOf_iff hembeddable none
    · intro hfree
      obtain ⟨_, -, -, hnext, -⟩ :=
        Template.stage_of_expandText hparse hfree Encoder.braceFree_percent h
      exact ⟨_, hnext⟩

/-- The argument of this `-opt` opens a span that takes in the expression after it.  The body of the
span is a name with a brace in it, and such a body can be read. -/
theorem exists_parse_of_opt_brace :
    let template : Template :=
      ⟨[.expression (.opt ['{'] [['a']]), .literal ['x'], .expression (.bare ['b'])]⟩
    let params : Params := .ofList [(['a'], .scalar ['1'])]
    Template.parse template.source = .ok template ∧
      expandText template.source params .percent .staged = .ok ['{', 'x', '{', 'b', '}'] ∧
      ∃ next, Template.parse ['{', 'x', '{', 'b', '}'] = .ok next := by
  intro template params
  have hparse : Template.parse template.source = .ok template :=
    toOption_eq_some_iff.1 (by decide +kernel)
  have hstage : expandText template.source params .percent .staged =
      .ok ['{', 'x', '{', 'b', '}'] := toOption_eq_some_iff.1 (by decide +kernel)
  obtain ⟨left, hleft, hiff, -⟩ := exists_parse_of_expandText_staged_iff hparse hstage
  have hstrays : Segment.strays none left = [['x', '{', 'b']] := by
    cases hleft
    rfl
  refine ⟨hparse, hstage, hiff.2 ?_⟩
  rw [hstrays]
  decide

/-- The argument of this `-opt` opens a span that takes in the literal text after it.  The body of
the span starts like an operator and is none, so what the stage writes is no template. -/
theorem not_exists_parse_of_opt_brace :
    let template : Template := ⟨[.expression (.opt ['{'] [['a']]), .literal ['-', 'x', '}']]⟩
    let params : Params := .ofList [(['a'], .scalar ['1'])]
    Template.parse template.source = .ok template ∧
      expandText template.source params .percent .staged = .ok ['{', '-', 'x', '}'] ∧
      ¬ ∃ next, Template.parse ['{', '-', 'x', '}'] = .ok next := by
  intro template params
  have hbody : ¬ Expression.IsBody ['-', 'x'] := by decide
  refine ⟨toOption_eq_some_iff.1 (by decide +kernel),
    toOption_eq_some_iff.1 (by decide +kernel), ?_⟩
  rw [Template.exists_parse_iff]
  intro hall
  exact hbody (hall ['-', 'x'] (List.mem_singleton_self _))

end LinkTemplate
