import LinkTemplate.Proofs.Results
import LinkTemplate.Proofs.Template.Scan
/-!
# The spans of a text

Reading a text character by character, a reader is either in a span, of whose body
it has read a part, or in none.  `Text.bodies` collects the bodies of the spans
that are closed; it is additive in the text (`Text.bodies_append`), which cutting a
text into chunks is not.

The two agree on the bodies, so the expressions of a template are read from the bodies
of its spans (`Template.map_expressions_parse`), and a text is a template exactly if
these can be read (`Template.exists_parse_iff`).
-/

namespace LinkTemplate

/-! ### Spans of a text -/

namespace Text

/-- Where a reader stands after a text: in a span, of whose body it has read a part, or in none. -/
def spanAfter : Option Text → Text → Option Text
  | state, [] => state
  | none, c :: t => spanAfter (if c = '{' then some [] else none) t
  | some body, c :: t => spanAfter (if c = '}' then none else some (body ++ [c])) t

/-- The bodies of the spans that a text closes, but for empty ones. -/
def bodies : Option Text → Text → List Text
  | _, [] => []
  | none, c :: t => bodies (if c = '{' then some [] else none) t
  | some body, c :: t =>
    if c = '}' then (if body.isEmpty then [] else [body]) ++ bodies none t
    else bodies (some (body ++ [c])) t

variable {state : Option Text} {t u body opened plain : Text}

/-- A text after another closes its spans from where the other leaves the reader. -/
theorem bodies_append (state : Option Text) (t u : Text) :
    bodies state (t ++ u) = bodies state t ++ bodies (spanAfter state t) u := by
  induction t generalizing state with
  | nil => rfl
  | cons c t ih =>
    cases state with
    | none => exact ih _
    | some body =>
      rw [List.cons_append, bodies, bodies, spanAfter]
      by_cases hc : c = '}'
      · rw [if_pos hc, if_pos hc, if_pos hc, ih, List.append_assoc]
      · rw [if_neg hc, if_neg hc, if_neg hc, ih]

/-- Text without an opening brace opens no span. -/
theorem bodies_plain_append (h : '{' ∉ plain) : bodies none (plain ++ t) = bodies none t := by
  induction plain with
  | nil => rfl
  | cons c plain ih =>
    rw [List.mem_cons, not_or] at h
    rw [List.cons_append, bodies, if_neg (Ne.symm h.1), ih h.2]

/-- A span that nothing closes has no body. -/
theorem bodies_of_unclosed (h : '}' ∉ opened) : bodies (some body) opened = [] := by
  induction opened generalizing body with
  | nil => rfl
  | cons c opened ih =>
    rw [List.mem_cons, not_or] at h
    rw [bodies, if_neg (Ne.symm h.1), ih h.2]

/-- The first closing brace closes the span. -/
theorem bodies_of_closed (h : '}' ∉ opened) (hne : body ++ opened ≠ []) :
    bodies (some body) (opened ++ '}' :: t) = (body ++ opened) :: bodies none t := by
  induction opened generalizing body with
  | nil =>
    rw [List.append_nil] at hne ⊢
    rw [List.nil_append, bodies, if_pos rfl, if_neg (by simpa using hne), List.singleton_append]
  | cons c opened ih =>
    rw [List.mem_cons, not_or] at h
    rw [List.cons_append, bodies, if_neg (Ne.symm h.1), ih h.2 (by simp), List.append_assoc,
      List.singleton_append]

end Text

/-! ### Texts that are templates -/

/-- The text can be read between the braces of a template. -/
def Expression.IsBody (b : Text) : Prop := ∃ e, parse b = .ok e

instance : DecidablePred Expression.IsBody := fun b =>
  match h : Expression.parse b with
  | .ok e => .isTrue ⟨e, h⟩
  | .error _ => .isFalse fun ⟨_, he⟩ => nomatch h.symm.trans he

namespace Chunk

variable {before t body : Text}

/-- The body of a braced chunk. -/
def body? : Chunk → Option Text
  | literal _ => none
  | braced body => some body

theorem filterMap_body?_literals : (literals t).filterMap body? = [] := by
  unfold literals
  split <;> rfl

/-- The braced chunks of a text hold the bodies of its spans, in their order. -/
theorem filterMap_body?_ofTextAfter (before t : Text) :
    (ofTextAfter before t).filterMap body? = Text.bodies none t := by
  induction before, t using ofTextAfter.induct with
  | case1 before t hcut =>
    have hplain : '{' ∉ t := Text.cutAt_eq_none_iff.1 hcut
    rw [ofTextAfter_of_plain hcut, filterMap_body?_literals, ← List.append_nil t,
      Text.bodies_plain_append hplain, Text.bodies]
  | case2 before t plain opened hcut hcut' =>
    have hopened : '}' ∉ opened := Text.cutAt_eq_none_iff.1 hcut'
    rw [ofTextAfter_of_unclosed hcut hcut', filterMap_body?_literals]
    obtain ⟨rfl, hplain⟩ := Text.cutAt_eq_some_iff.1 hcut
    rw [Text.bodies_plain_append hplain, Text.bodies, if_pos rfl, Text.bodies_of_unclosed hopened]
  | case3 before t plain opened hcut rest hcut' _ _ ih =>
    rw [ofTextAfter_of_empty hcut hcut', ih]
    obtain ⟨rfl, hplain⟩ := Text.cutAt_eq_some_iff.1 hcut
    obtain ⟨rfl, -⟩ := Text.cutAt_eq_some_iff.1 hcut'
    rw [Text.bodies_plain_append hplain]
    rfl
  | case4 before t plain opened hcut first rest hne hcut' _ _ ih =>
    rw [ofTextAfter_of_braced hcut hcut' hne, List.filterMap_append, filterMap_body?_literals]
    obtain ⟨rfl, hplain⟩ := Text.cutAt_eq_some_iff.1 hcut
    obtain ⟨rfl, hfirst⟩ := Text.cutAt_eq_some_iff.1 hcut'
    rw [Text.bodies_plain_append hplain, Text.bodies, if_pos rfl,
      Text.bodies_of_closed hfirst (by simpa using hne), List.nil_append, ← ih]
    rfl

/-- A chunk is read if it is literal or its body can be read. -/
theorem exists_parse_iff {c : Chunk} :
    (∃ s, parse c = .ok s) ↔ ∀ b, c = braced b → Expression.IsBody b := by
  cases c with
  | literal t => simp [parse]
  | braced b =>
    have hparse : (∃ s, parse (braced b) = .ok s) ↔ Expression.IsBody b := by
      rw [parse, Expression.IsBody]
      cases Expression.parse b <;> simp [Except.map]
    rw [hparse]
    simp

/-- Chunks can be read if the bodies of the braced ones can. -/
theorem exists_mapM_parse_iff {chunks : List Chunk} :
    (∃ segments, chunks.mapM parse = .ok segments) ↔
      ∀ b, braced b ∈ chunks → Expression.IsBody b := by
  rw [exists_mapM_eq_ok_iff]
  constructor
  · exact fun h b hb => exists_parse_iff.1 (h _ hb) b rfl
  · intro h c hc
    refine exists_parse_iff.2 fun b hb => h b ?_
    rwa [← hb]

/-- Reading chunks gives the expressions that are read from the bodies of the braced ones. -/
theorem map_expressionsOf_mapM_parse (chunks : List Chunk) :
    (chunks.mapM parse).map Segment.expressionsOf =
      (chunks.filterMap body?).mapM Expression.parse := by
  induction chunks with
  | nil => rfl
  | cons c chunks ih =>
    cases c with
    | literal t =>
      have hread : parse (literal t) = .ok (.literal t) := rfl
      rw [mapM_cons_of_ok hread, List.filterMap_cons_none rfl, ← ih]
      cases chunks.mapM parse <;> rfl
    | braced b =>
      have hbody : body? (braced b) = some b := rfl
      rw [List.filterMap_cons_some hbody]
      cases hb : Expression.parse b with
      | error fault =>
        have hread : parse (braced b) = .error fault := by rw [parse, hb]; rfl
        rw [mapM_cons_of_error hread, mapM_cons_of_error hb]
        rfl
      | ok e =>
        have hread : parse (braced b) = .ok (.expression e) := by rw [parse, hb]; rfl
        rw [mapM_cons_of_ok hread, mapM_cons_of_ok hb, ← ih]
        cases chunks.mapM parse <;> rfl

end Chunk

namespace Template

/-- A template is read chunk by chunk. -/
theorem parse_eq_map (t : Text) : parse t = ((Chunk.ofText t).mapM Chunk.parse).map mk := by
  unfold parse
  cases (Chunk.ofText t).mapM Chunk.parse <;> rfl

/-- A text is a template if the bodies of its braced chunks can be read. -/
theorem exists_parse_iff_forall_braced {t : Text} :
    (∃ template, parse t = .ok template) ↔
      ∀ b, .braced b ∈ Chunk.ofText t → Expression.IsBody b := by
  rw [← Chunk.exists_mapM_parse_iff, parse_eq_map]
  cases (Chunk.ofText t).mapM Chunk.parse <;> simp [Except.map]

/-- The expressions of a text are read from the bodies of its spans, and the first body that cannot
be read gives the error. -/
theorem map_expressions_parse (t : Text) :
    (parse t).map expressions = (Text.bodies none t).mapM Expression.parse := by
  rw [parse_eq_map, ← Chunk.filterMap_body?_ofTextAfter [] t,
    ← Chunk.map_expressionsOf_mapM_parse, Chunk.ofText]
  cases (Chunk.ofTextAfter [] t).mapM Chunk.parse <;> rfl

/-- A text is a template if the bodies of its spans can be read. -/
theorem exists_parse_iff {t : Text} :
    (∃ template, parse t = .ok template) ↔ ∀ b ∈ Text.bodies none t, Expression.IsBody b := by
  have hread : (∃ template, parse t = .ok template) ↔
      ∃ es, (Text.bodies none t).mapM Expression.parse = .ok es := by
    rw [← map_expressions_parse]
    cases parse t <;> simp [Except.map]
  rw [hread]
  exact exists_mapM_eq_ok_iff

end Template

end LinkTemplate
