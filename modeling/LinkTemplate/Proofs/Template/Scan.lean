import LinkTemplate.Template
import LinkTemplate.Proofs.Expression.RoundTrip
/-!
# Reading a text made of segments

Segments are put together to a text by writing one after the other.  This file
says when reading that text gives them back.  A literal must not open a span, so
every opening brace in it is closed at once (`Text.Closed`); only the very last
literal may end in a brace that nothing closes.  An expression must be
`Embeddable`.  Segments with these properties are `Legible`.

Reading legible segments gives them back with neighbouring literals put together
(`Template.parse_source_of_legible`), and the segments of a template that was
read are legible (`Template.legible_of_parse`).  Putting literals together changes
neither the expressions nor any expansion.
-/

namespace LinkTemplate

/-! ### Texts that open no span -/

namespace Text

/-- Every opening brace of the text is followed by its closing brace at once. -/
inductive Closed : Text → Prop
  | nil : Closed []
  | cons {c : Char} {t : Text} : c ≠ '{' → Closed t → Closed (c :: t)
  | empty {t : Text} : Closed t → Closed ('{' :: '}' :: t)

/-- A text without opening braces is closed. -/
theorem closed_of_notMem {t : Text} (h : '{' ∉ t) : Closed t := by
  induction t with
  | nil => exact .nil
  | cons c t ih =>
    rw [List.mem_cons, not_or] at h
    exact .cons (Ne.symm h.1) (ih h.2)

/-- Closed texts one after the other are closed. -/
theorem Closed.append {s t : Text} (hs : Closed s) (ht : Closed t) : Closed (s ++ t) := by
  induction hs with
  | nil => exact ht
  | cons hc _ ih => exact .cons hc ih
  | empty _ ih => exact .empty ih

end Text

/-! ### Cutting a text into chunks -/

namespace Chunk

variable {before t plain opened body rest : Text}

/-- A text without an opening brace is literal. -/
theorem ofTextAfter_of_plain (h : Text.cutAt '{' t = none) :
    ofTextAfter before t = literals (before ++ t) := by
  rw [ofTextAfter]
  split
  · rfl
  · rename_i heq
    cases h.symm.trans heq

/-- A text is literal if nothing closes its first opening brace. -/
theorem ofTextAfter_of_unclosed (h : Text.cutAt '{' t = some (plain, opened))
    (h' : Text.cutAt '}' opened = none) : ofTextAfter before t = literals (before ++ t) := by
  rw [ofTextAfter]
  split
  · rfl
  · rename_i heq
    cases h.symm.trans heq
    split
    · rfl
    · rename_i heq'
      cases h'.symm.trans heq'
    · rename_i heq'
      cases h'.symm.trans heq'

/-- An empty span belongs to the literal text around it. -/
theorem ofTextAfter_of_empty (h : Text.cutAt '{' t = some (plain, opened))
    (h' : Text.cutAt '}' opened = some ([], rest)) :
    ofTextAfter before t = ofTextAfter (before ++ plain ++ ['{', '}']) rest := by
  rw [ofTextAfter]
  split
  · rename_i heq
    cases h.symm.trans heq
  · rename_i heq
    cases h.symm.trans heq
    split
    · rename_i heq'
      cases h'.symm.trans heq'
    · rename_i heq'
      cases h'.symm.trans heq'
      rfl
    · rename_i hne heq'
      cases h'.symm.trans heq'
      exact absurd rfl hne

/-- A span that is not empty is a chunk of its own. -/
theorem ofTextAfter_of_braced (h : Text.cutAt '{' t = some (plain, opened))
    (h' : Text.cutAt '}' opened = some (body, rest)) (hne : body ≠ []) :
    ofTextAfter before t = literals (before ++ plain) ++ braced body :: ofTextAfter [] rest := by
  rw [ofTextAfter]
  split
  · rename_i heq
    cases h.symm.trans heq
  · rename_i heq
    cases h.symm.trans heq
    split
    · rename_i heq'
      cases h'.symm.trans heq'
    · rename_i heq'
      cases h'.symm.trans heq'
      exact absurd rfl hne
    · rename_i heq'
      cases h'.symm.trans heq'
      rfl

/-- A character that opens no span goes to the literal text in front. -/
theorem ofTextAfter_cons {c : Char} (hc : c ≠ '{') :
    ofTextAfter before (c :: t) = ofTextAfter (before ++ [c]) t := by
  have hassoc : ∀ s : Text, before ++ c :: s = before ++ [c] ++ s := by simp
  cases h : Text.cutAt '{' t with
  | none =>
    have hcut : Text.cutAt '{' (c :: t) = none := by
      rw [Text.cutAt_eq_none_iff] at h ⊢
      simp [h, Ne.symm hc]
    rw [ofTextAfter_of_plain hcut, ofTextAfter_of_plain h, hassoc]
  | some parts =>
    obtain ⟨plain, opened⟩ := parts
    have hcut : Text.cutAt '{' (c :: t) = some (c :: plain, opened) := by
      rw [Text.cutAt_eq_some_iff] at h ⊢
      simp [h, Ne.symm hc]
    cases h' : Text.cutAt '}' opened with
    | none => rw [ofTextAfter_of_unclosed hcut h', ofTextAfter_of_unclosed h h', hassoc]
    | some parts =>
      obtain ⟨body, rest⟩ := parts
      cases body with
      | nil => rw [ofTextAfter_of_empty hcut h', ofTextAfter_of_empty h h', hassoc]
      | cons d body =>
        rw [ofTextAfter_of_braced hcut h' (List.cons_ne_nil d body),
          ofTextAfter_of_braced h h' (List.cons_ne_nil d body), hassoc]

/-- A closed text goes to the literal text in front. -/
theorem ofTextAfter_append_of_closed {s : Text} (hs : s.Closed) :
    ofTextAfter before (s ++ t) = ofTextAfter (before ++ s) t := by
  induction hs generalizing before with
  | nil => simp
  | cons hc _ ih =>
    rw [List.cons_append, ofTextAfter_cons hc, ih, List.append_assoc, List.singleton_append]
  | @empty s _ ih =>
    have hopen : Text.cutAt '{' ('{' :: '}' :: (s ++ t)) = some ([], '}' :: (s ++ t)) :=
      Text.cutAt_eq_some_iff.2 (by simp)
    have hclose : Text.cutAt '}' ('}' :: (s ++ t)) = some ([], s ++ t) :=
      Text.cutAt_eq_some_iff.2 (by simp)
    rw [List.cons_append, List.cons_append, ofTextAfter_of_empty hopen hclose, ih]
    simp

/-- The span at the head of a text. -/
theorem ofTextAfter_braced_append (hne : body ≠ []) (hclose : '}' ∉ body) :
    ofTextAfter before (Expression.braced body ++ t) =
      literals before ++ braced body :: ofTextAfter [] t := by
  have hopen : Text.cutAt '{' (Expression.braced body ++ t) = some ([], body ++ '}' :: t) :=
    Text.cutAt_eq_some_iff.2 (by simp [Expression.braced])
  have hcut : Text.cutAt '}' (body ++ '}' :: t) = some (body, t) :=
    Text.cutAt_eq_some_iff.2 ⟨rfl, hclose⟩
  rw [ofTextAfter_of_braced hopen hcut hne, List.append_nil]

/-- A brace at the head of a text that nothing closes. -/
theorem ofTextAfter_open (h : '}' ∉ t) :
    ofTextAfter before ('{' :: t) = literals (before ++ '{' :: t) :=
  ofTextAfter_of_unclosed (Text.cutAt_eq_some_iff.2 ⟨rfl, List.not_mem_nil⟩)
    (Text.cutAt_eq_none_iff.2 h)

/-- Nothing is left to cut. -/
theorem ofTextAfter_nil : ofTextAfter before [] = literals before := by
  rw [ofTextAfter_of_plain (Text.cutAt_eq_none_iff.2 List.not_mem_nil), List.append_nil]

end Chunk

/-! ### Segments -/

namespace Segment

/-- The literal segment of a text, none if the text is empty. -/
def literals (t : Text) : List Segment := if t.isEmpty then [] else [literal t]

/-- Puts neighbouring literals together; `before` is the literal text in front. -/
def gatherAfter (before : Text) : List Segment → List Segment
  | [] => literals before
  | literal t :: rest => gatherAfter (before ++ t) rest
  | expression e :: rest => literals before ++ expression e :: gatherAfter [] rest

/-- The segments with neighbouring literals put together and empty ones left out. -/
def gather (segments : List Segment) : List Segment := gatherAfter [] segments

/-- The text of segments. -/
def sourceOf (segments : List Segment) : Text := segments.flatMap source

/-- The expressions among segments. -/
def expressionsOf (segments : List Segment) : List Expression := segments.filterMap expression?

/-- Expands segments from left to right. -/
def expandAll (params : Params) (encode : Encoder) (mode : Mode) (segments : List Segment) :
    Emission :=
  Emission.sequence (segments.map (expand params encode mode))

variable {t before : Text} {e : Expression} {rest segments : List Segment} {params : Params}
  {encode : Encoder} {mode : Mode}

@[simp] theorem sourceOf_nil : sourceOf [] = [] := rfl

@[simp] theorem sourceOf_cons (s : Segment) (rest : List Segment) :
    sourceOf (s :: rest) = s.source ++ sourceOf rest := rfl

@[simp] theorem sourceOf_append (as bs : List Segment) :
    sourceOf (as ++ bs) = sourceOf as ++ sourceOf bs := List.flatMap_append

@[simp] theorem expressionsOf_nil : expressionsOf [] = [] := rfl

@[simp] theorem expressionsOf_literal_cons :
    expressionsOf (literal t :: rest) = expressionsOf rest := rfl

@[simp] theorem expressionsOf_expression_cons :
    expressionsOf (expression e :: rest) = e :: expressionsOf rest := rfl

@[simp] theorem expressionsOf_append (as bs : List Segment) :
    expressionsOf (as ++ bs) = expressionsOf as ++ expressionsOf bs := List.filterMap_append

/-- The expressions of segments that are nothing but expressions. -/
@[simp] theorem expressionsOf_map_expression (es : List Expression) :
    expressionsOf (es.map expression) = es := by
  induction es with
  | nil => rfl
  | cons e es ih => rw [List.map_cons, expressionsOf_expression_cons, ih]

theorem mem_expressionsOf_iff : e ∈ expressionsOf segments ↔ expression e ∈ segments := by
  induction segments with
  | nil => simp
  | cons s segments ih => cases s <;> simp [ih]

@[simp] theorem expandAll_nil : expandAll params encode mode [] = .write [] := rfl

@[simp] theorem expandAll_cons (s : Segment) (rest : List Segment) :
    expandAll params encode mode (s :: rest) =
      (s.expand params encode mode).andThen (expandAll params encode mode rest) := rfl

theorem expandAll_append (as bs : List Segment) :
    expandAll params encode mode (as ++ bs) =
      (expandAll params encode mode as).andThen (expandAll params encode mode bs) := by
  simp [expandAll, Emission.sequence_append]

/-! ### Putting literals together -/

theorem expressionsOf_literals : expressionsOf (literals t) = [] := by
  unfold literals
  split <;> rfl

theorem expandAll_literals :
    expandAll params encode mode (literals t) = .write t := by
  cases t <;> simp [literals, expand]

theorem sourceOf_literals : sourceOf (literals t) = t := by
  cases t <;> simp [literals, source]

/-- Putting literals together keeps the expressions. -/
theorem expressionsOf_gatherAfter :
    expressionsOf (gatherAfter before segments) = expressionsOf segments := by
  induction segments generalizing before with
  | nil => exact expressionsOf_literals
  | cons s segments ih =>
    cases s with
    | literal t => exact ih
    | expression e =>
      simp [gatherAfter, expressionsOf_literals, ih]

/-- Putting literals together keeps every expansion. -/
theorem expandAll_gatherAfter :
    expandAll params encode mode (gatherAfter before segments) =
      (expandAll params encode mode segments).onto before := by
  induction segments generalizing before with
  | nil => simp [gatherAfter, expandAll_literals, Emission.onto, Emission.write]
  | cons s segments ih =>
    cases s with
    | literal t =>
      simp [gatherAfter, ih, expand, Emission.onto]
    | expression e =>
      rw [gatherAfter, expandAll_append, expandAll_literals, Emission.write_andThen,
        expandAll_cons, ih, expandAll_cons]
      rfl

/-! ### Legible segments -/

/-- Segments that are found again when their text is read. -/
inductive Legible : List Segment → Prop
  | nil : Legible []
  | literal {t : Text} {rest : List Segment} :
      t.Closed → Legible rest → Legible (literal t :: rest)
  | expression {e : Expression} {rest : List Segment} :
      e.Embeddable → Legible rest → Legible (expression e :: rest)
  /-- The last literal may end in a brace that nothing closes. -/
  | unclosed {t opened : Text} :
      t.Closed → '}' ∉ opened → Legible [Segment.literal (t ++ '{' :: opened)]

/-- A segment that is legible whatever follows it. -/
def Settled : Segment → Prop
  | .literal t => t.Closed
  | .expression e => e.Embeddable

theorem Legible.append {as bs : List Segment} (has : ∀ s ∈ as, s.Settled) (hbs : Legible bs) :
    Legible (as ++ bs) := by
  induction as with
  | nil => exact hbs
  | cons s as ih =>
    have hs : s.Settled := has s List.mem_cons_self
    have hrest : Legible (as ++ bs) := ih fun s' hs' => has s' (List.mem_cons_of_mem s hs')
    cases s with
    | literal t => exact .literal hs hrest
    | expression e => exact .expression hs hrest

/-- The literal of a closed text is settled. -/
theorem settled_of_mem_literals (h : t.Closed) : ∀ s ∈ literals t, s.Settled := by
  intro s hs
  unfold literals at hs
  split at hs
  · cases hs
  · rw [List.mem_singleton] at hs
    exact hs ▸ h

theorem legible_literals (h : t.Closed) : Legible (literals t) := by
  rw [← List.append_nil (literals t)]
  exact .append (settled_of_mem_literals h) .nil

/-- The expressions among legible segments can be embedded. -/
theorem Legible.embeddable (h : Legible segments) : ∀ e ∈ expressionsOf segments, e.Embeddable := by
  induction h with
  | nil => simp
  | literal _ _ ih => exact ih
  | expression he _ ih => simpa using ⟨he, ih⟩
  | unclosed _ _ => simp

end Segment

/-! ### Reading the text of segments -/

namespace Chunk

theorem mapM_parse_literals (t : Text) :
    (literals t).mapM parse = .ok (Segment.literals t) := by
  cases t <;> rfl

/-- Reading the text of legible segments gives them back, neighbouring literals put together. -/
theorem mapM_parse_ofTextAfter_of_legible {segments : List Segment}
    (h : Segment.Legible segments) (before : Text) :
    (ofTextAfter before (Segment.sourceOf segments)).mapM parse =
      .ok (Segment.gatherAfter before segments) := by
  induction h generalizing before with
  | nil => exact ofTextAfter_nil ▸ mapM_parse_literals before
  | literal ht _ ih =>
    rw [Segment.sourceOf_cons, Segment.source, ofTextAfter_append_of_closed ht]
    exact ih _
  | @expression e rest he _ ih =>
    have hparse : parse (braced e.body) = .ok (.expression e) := by
      rw [parse, Expression.parse_body he.wellFormed]
      rfl
    rw [Segment.sourceOf_cons, Segment.source, Expression.render,
      ofTextAfter_braced_append he.body_ne_nil he.close_notMem, List.mapM_append, List.mapM_cons,
      mapM_parse_literals, hparse, ih]
    rfl
  | @unclosed t opened ht hopened =>
    rw [Segment.sourceOf_cons, Segment.source, Segment.sourceOf_nil, List.append_nil,
      ofTextAfter_append_of_closed ht, ofTextAfter_open hopened, List.append_assoc]
    exact mapM_parse_literals _

/-- The segments read from a text that follows a closed one are legible, and their text is both. -/
theorem legible_of_mapM_parse {before t : Text} (hbefore : before.Closed)
    {segments : List Segment} (h : (ofTextAfter before t).mapM parse = .ok segments) :
    Segment.Legible segments ∧ Segment.sourceOf segments = before ++ t := by
  induction before, t using ofTextAfter.induct generalizing segments with
  | case1 before t hcut =>
    rw [ofTextAfter_of_plain hcut, mapM_parse_literals] at h
    cases h
    have hclosed : (before ++ t).Closed :=
      hbefore.append (Text.closed_of_notMem (Text.cutAt_eq_none_iff.1 hcut))
    exact ⟨Segment.legible_literals hclosed, Segment.sourceOf_literals⟩
  | case2 before t plain opened hcut hcut' =>
    rw [ofTextAfter_of_unclosed hcut hcut', mapM_parse_literals] at h
    cases h
    obtain ⟨rfl, hplain⟩ := Text.cutAt_eq_some_iff.1 hcut
    have hclosed : (before ++ plain).Closed := hbefore.append (Text.closed_of_notMem hplain)
    refine ⟨?_, Segment.sourceOf_literals⟩
    rw [← List.append_assoc]
    simpa [Segment.literals] using
      Segment.Legible.unclosed hclosed (Text.cutAt_eq_none_iff.1 hcut')
  | case3 before t plain opened hcut rest hcut' _ _ ih =>
    rw [ofTextAfter_of_empty hcut hcut'] at h
    obtain ⟨rfl, hplain⟩ := Text.cutAt_eq_some_iff.1 hcut
    obtain ⟨rfl, -⟩ := Text.cutAt_eq_some_iff.1 hcut'
    have hclosed : (before ++ plain ++ ['{', '}']).Closed :=
      (hbefore.append (Text.closed_of_notMem hplain)).append (.empty .nil)
    obtain ⟨hlegible, hsource⟩ := ih hclosed h
    exact ⟨hlegible, by simp [hsource]⟩
  | case4 before t plain opened hcut body rest hne hcut' _ _ ih =>
    rw [ofTextAfter_of_braced hcut hcut' hne, List.mapM_append, mapM_parse_literals,
      List.mapM_cons] at h
    obtain ⟨rfl, hplain⟩ := Text.cutAt_eq_some_iff.1 hcut
    obtain ⟨rfl, hbody⟩ := Text.cutAt_eq_some_iff.1 hcut'
    cases hparse : Expression.parse body with
    | error fault =>
      rw [parse, hparse] at h
      cases h
    | ok e =>
      cases hrest : (ofTextAfter [] rest).mapM parse with
      | error fault =>
        rw [parse, hparse, hrest] at h
        cases h
      | ok segments' =>
        rw [parse, hparse, hrest] at h
        cases h
        obtain ⟨hlegible, hsource⟩ := ih .nil hrest
        have hclosed : (before ++ plain).Closed := hbefore.append (Text.closed_of_notMem hplain)
        have he : e.body = body := (Expression.parse_eq_ok_iff.1 hparse).2
        constructor
        · exact .append (Segment.settled_of_mem_literals hclosed)
            (.expression (Expression.embeddable_of_parse hparse hne hbody) hlegible)
        · simp [Segment.sourceOf_literals, Segment.source, Expression.render, Expression.braced,
            he, hsource]

end Chunk

namespace Template

variable {t : Text} {template : Template} {segments : List Segment}

/-- The segments of a template that was read are legible, and they make up the text. -/
theorem legible_of_parse (h : parse t = .ok template) :
    Segment.Legible template.segments ∧ Segment.sourceOf template.segments = t := by
  unfold parse at h
  cases hchunks : (Chunk.ofText t).mapM Chunk.parse with
  | error fault =>
    rw [hchunks] at h
    cases h
  | ok segments =>
    rw [hchunks] at h
    cases h
    exact Chunk.legible_of_mapM_parse .nil hchunks

/-- The text of legible segments is a template: their literals put together. -/
theorem parse_source_of_legible (h : Segment.Legible segments) :
    parse (Segment.sourceOf segments) = .ok ⟨Segment.gather segments⟩ := by
  unfold parse Chunk.ofText
  rw [Chunk.mapM_parse_ofTextAfter_of_legible h]
  rfl

theorem expressions_gather : (Template.mk (Segment.gather segments)).expressions =
    Segment.expressionsOf segments := Segment.expressionsOf_gatherAfter

/-- Putting literals together changes no expansion. -/
theorem expand_gather (segments : List Segment) (params : Params) (encode : Encoder) (mode : Mode) :
    (Template.mk (Segment.gather segments)).expand params encode mode =
      (Segment.expandAll params encode mode segments).result := by
  change (Segment.expandAll params encode mode (Segment.gather segments)).result = _
  rw [Segment.gather, Segment.expandAll_gatherAfter]
  rfl

end Template

end LinkTemplate
