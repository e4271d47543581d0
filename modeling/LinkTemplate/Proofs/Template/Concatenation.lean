import LinkTemplate.Proofs.Template.Spans
import LinkTemplate.Proofs.Template.Residual
/-!
# One text after another

Where every opening brace of a text has a closing brace after it, a reader who comes
to the end of the text is in no span (`Text.spanAfter_of_terminated`).  Then no span of
a longer text goes beyond that end, and the longer text is read like its two parts one
after the other (`Template.parse_append`): their expressions follow each other, and the
literals that meet are put together.  So it is expanded like the two parts as well.

Without the condition, an open span at the end of the first text takes in what the
second begins with.
-/

namespace LinkTemplate

/-! ### Texts that leave no span open -/

namespace Text

/-- Every opening brace of the text has a closing brace after it. -/
def Terminated : Text → Prop
  | [] => True
  | c :: t => (c = '{' → '}' ∈ t) ∧ Terminated t

instance decidableTerminated : DecidablePred Terminated
  | [] => .isTrue trivial
  | c :: t =>
    have := decidableTerminated t
    inferInstanceAs (Decidable ((c = '{' → '}' ∈ t) ∧ Terminated t))

variable {s t : Text}

/-- The end of a terminated text is terminated. -/
theorem Terminated.of_append (h : (s ++ t).Terminated) : t.Terminated := by
  induction s with
  | nil => exact h
  | cons c s ih => exact ih h.2

/-- Behind an opening brace of a terminated text there is a closing one. -/
theorem Terminated.close_mem (h : (s ++ '{' :: t).Terminated) : '}' ∈ t := h.of_append.1 rfl

/-- At the end of a terminated text a reader is in no span, if the span in which it began is closed
somewhere. -/
theorem spanAfter_eq_none {state : Option Text} (hclose : state ≠ none → '}' ∈ t)
    (h : t.Terminated) : spanAfter state t = none := by
  induction t generalizing state with
  | nil =>
    by_contra hopen
    exact List.not_mem_nil (hclose hopen)
  | cons c t ih =>
    obtain ⟨hc, ht⟩ := h
    cases state with
    | none =>
      rw [spanAfter]
      by_cases hbrace : c = '{'
      · rw [if_pos hbrace]
        exact ih (fun _ => hc hbrace) ht
      · rw [if_neg hbrace]
        exact ih (fun hopen => absurd rfl hopen) ht
    | some body =>
      rw [spanAfter]
      by_cases hbrace : c = '}'
      · rw [if_pos hbrace]
        exact ih (fun hopen => absurd rfl hopen) ht
      · rw [if_neg hbrace]
        have hmem : '}' ∈ t :=
          List.mem_of_ne_of_mem (Ne.symm hbrace) (hclose (Option.some_ne_none body))
        exact ih (fun _ => hmem) ht

/-- A terminated text leaves no span open. -/
theorem spanAfter_of_terminated (h : t.Terminated) : spanAfter none t = none :=
  spanAfter_eq_none (fun hopen => absurd rfl hopen) h

end Text

/-- The segments of a terminated text are legible whatever follows them. -/
theorem Segment.Legible.settled_of_terminated {segments : List Segment} (h : Legible segments)
    (ht : (sourceOf segments).Terminated) : ∀ s ∈ segments, s.Settled := by
  induction h with
  | nil => exact fun s hs => absurd hs List.not_mem_nil
  | literal hclosed _ ih => exact List.forall_mem_cons.2 ⟨hclosed, ih ht.of_append⟩
  | expression he _ ih => exact List.forall_mem_cons.2 ⟨he, ih ht.of_append⟩
  | @unclosed t opened _ hopened =>
    rw [sourceOf_cons, sourceOf_nil, List.append_nil] at ht
    exact absurd ht.close_mem hopened

/-! ### Reading -/

namespace Template

variable {s : Text} {a b : Template}

/-- Two templates one after the other; the literals that meet are put together. -/
def append (a b : Template) : Template := ⟨Segment.gather (a.segments ++ b.segments)⟩

theorem expressions_append : (a.append b).expressions = a.expressions ++ b.expressions := by
  rw [append, expressions_gather, Segment.expressionsOf_append]
  rfl

/-- Expanding two templates one after the other is expanding the first and then the second. -/
theorem expand_append (params : Params) (encode : Encoder) (mode : Mode) :
    (a.append b).expand params encode mode =
      (a.expand params encode mode).bind fun x => (b.expand params encode mode).map (x ++ ·) := by
  rw [append, expand_gather, Segment.expandAll_append, Emission.result_andThen]
  rfl

/-- The expressions of a text after a terminated one follow those of that text. -/
theorem map_expressions_parse_append (hs : s.Terminated) (t : Text) :
    (parse (s ++ t)).map expressions =
      ((parse s).map expressions).bind fun es => ((parse t).map expressions).map (es ++ ·) := by
  simp only [map_expressions_parse]
  rw [Text.bodies_append, Text.spanAfter_of_terminated hs, List.mapM_append]
  cases (Text.bodies none s).mapM Expression.parse with
  | error fault => rfl
  | ok es => cases (Text.bodies none t).mapM Expression.parse <;> rfl

/-- A text after a terminated one is read as two templates, one after the other. -/
theorem parse_append (hs : s.Terminated) (t : Text) :
    parse (s ++ t) = (parse s).bind fun a => (parse t).map a.append := by
  have hes := map_expressions_parse_append hs t
  rcases ha : parse s with fault | a
  · rw [ha] at hes
    exact eq_error_of_map_eq_error hes
  · rcases hb : parse t with fault | b
    · rw [ha, hb] at hes
      exact eq_error_of_map_eq_error hes
    · obtain ⟨hlegible, hsource⟩ := legible_of_parse ha
      obtain ⟨hlegible', hsource'⟩ := legible_of_parse hb
      have hsettled : ∀ segment ∈ a.segments, segment.Settled :=
        hlegible.settled_of_terminated (by rwa [hsource])
      have hparse := parse_source_of_legible (Segment.Legible.append hsettled hlegible')
      rwa [Segment.sourceOf_append, hsource, hsource'] at hparse

end Template

/-- **One text after another.** Let every opening brace of the first text have a closing brace after
it.  Then the two texts together are a template exactly if both are; an error is that of the first
text or, if that is a template, of the second.  The expressions are those of the first text and then
those of the second.  If both are templates, expanding the two together gives the two expansions one
after the other, and an error is that of the first expansion or, if that succeeds, of the second. -/
theorem expandText_append_of_terminated {s : Text} (hs : s.Terminated) (t : Text) :
    ((∃ whole, Template.parse (s ++ t) = .ok whole) ↔
      (∃ a, Template.parse s = .ok a) ∧ ∃ b, Template.parse t = .ok b) ∧
    (∀ fault, Template.parse (s ++ t) = .error fault ↔
      Template.parse s = .error fault ∨
        (∃ a, Template.parse s = .ok a) ∧ Template.parse t = .error fault) ∧
    ∀ a b, Template.parse s = .ok a → Template.parse t = .ok b →
      (∃ whole, Template.parse (s ++ t) = .ok whole ∧
        whole.expressions = a.expressions ++ b.expressions) ∧
      ∀ params encode mode,
        (∀ out, expandText (s ++ t) params encode mode = .ok out ↔
          ∃ x y, expandText s params encode mode = .ok x ∧
            expandText t params encode mode = .ok y ∧ out = x ++ y) ∧
        ∀ fault, expandText (s ++ t) params encode mode = .error fault ↔
          expandText s params encode mode = .error fault ∨
            (∃ x, expandText s params encode mode = .ok x) ∧
              expandText t params encode mode = .error fault := by
  rw [Template.parse_append hs t]
  refine ⟨?_, fun fault => bind_map_eq_error_iff, ?_⟩
  · simp only [bind_map_eq_ok_iff]
    constructor
    · rintro ⟨_, a, b, ha, hb, -⟩
      exact ⟨⟨a, ha⟩, b, hb⟩
    · rintro ⟨⟨a, ha⟩, b, hb⟩
      exact ⟨_, a, b, ha, hb, rfl⟩
  · intro a b ha hb
    have hwhole : Template.parse (s ++ t) = .ok (a.append b) := by
      rw [Template.parse_append hs t, ha, hb]
      rfl
    refine ⟨⟨_, bind_map_eq_ok_iff.2 ⟨a, b, ha, hb, rfl⟩, Template.expressions_append⟩, ?_⟩
    intro params encode mode
    have hexpand : expandText (s ++ t) params encode mode =
        (expandText s params encode mode).bind fun x =>
          (expandText t params encode mode).map (x ++ ·) := by
      unfold expandText
      rw [hwhole, ha, hb]
      exact Template.expand_append params encode mode
    rw [hexpand]
    exact ⟨fun out => bind_map_eq_ok_iff, fun fault => bind_map_eq_error_iff⟩

/-- Literals meet where one text ends and the other begins, and the other ends in an open brace. -/
theorem expandText_append_of_terminated_braces :
    let s := "\x7b-list|,|l\x7da\x7b\x7d".toList
    let t := "\x7db\x7bq\x7d\x7b".toList
    let params : Params := .ofList [(['l'], .list [['1'], ['2']]), (['q'], .scalar ['&'])]
    Text.Terminated s ∧ expandText s params .percent .full = .ok "1,2a\x7b\x7d".toList ∧
      expandText t params .percent .full = .ok "\x7db%26\x7b".toList ∧
      expandText (s ++ t) params .percent .full = .ok "1,2a\x7b\x7d\x7db%26\x7b".toList := by
  intro s t params
  have hs : Text.Terminated s := by decide
  have ha : Template.parse s =
      .ok ⟨[.expression (.list [','] ['l']), .literal "a\x7b\x7d".toList]⟩ :=
    toOption_eq_some_iff.1 (by decide +kernel)
  have hb : Template.parse t =
      .ok ⟨[.literal "\x7db".toList, .expression (.bare ['q']), .literal ['{']]⟩ :=
    toOption_eq_some_iff.1 (by decide +kernel)
  have hx : expandText s params .percent .full = .ok "1,2a\x7b\x7d".toList :=
    toOption_eq_some_iff.1 (by decide +kernel)
  have hy : expandText t params .percent .full = .ok "\x7db%26\x7b".toList :=
    toOption_eq_some_iff.1 (by decide +kernel)
  obtain ⟨-, -, hboth⟩ := expandText_append_of_terminated hs t
  obtain ⟨-, hexpand⟩ := hboth _ _ ha hb
  exact ⟨hs, hx, hy, ((hexpand params .percent .full).1 _).2 ⟨_, _, hx, hy, rfl⟩⟩

end LinkTemplate
