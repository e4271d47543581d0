import LinkTemplate.Proofs.Results
import LinkTemplate.Proofs.Template.Grammar
import LinkTemplate.Proofs.Template.Spans
import LinkTemplate.Proofs.Text
/-!
# The segmentation of a text

The chunks of a text divide its bytes as the grammar of templates wants it
(`Chunk.isSegmentation_ofText`), and reading the chunks keeps their places.  So a
text is read as a template exactly if the body of each expression of its only
division can be read, the segments of the template take up the places of that
division, and otherwise the first body that cannot be read gives the error
(`Template.segmentation_of_parse`).

The argument about the places goes through the characters: an opening brace among
the bytes is one of the text, and a literal chunk is closed up to a brace that
nothing closes.
-/

namespace LinkTemplate

/-! ### Places -/

/-- The places of texts that follow each other from an offset on, each with its role. -/
def Template.placesFrom (start : Nat) : List (Template.Role × Text) → List Template.Place
  | [] => []
  | (role, t) :: rest =>
    ⟨role, ⟨start, start + t.byteLength⟩⟩ :: placesFrom (start + t.byteLength) rest

/-- What a chunk is taken for. -/
def Chunk.role : Chunk → Template.Role
  | literal _ => .literal
  | braced _ => .expression

/-- What a chunk is taken for and how it is written. -/
def Chunk.piece (c : Chunk) : Template.Role × Text := (c.role, c.source)

/-- What a segment is taken for. -/
def Segment.role : Segment → Template.Role
  | literal _ => .literal
  | expression _ => .expression

/-- What a segment is taken for and how it is written. -/
def Segment.piece (s : Segment) : Template.Role × Text := (s.role, s.source)

/-- The places of the segments of a template. -/
def Template.places (template : Template) : List Template.Place :=
  template.spans.map fun (s, span) => ⟨s.role, span⟩

/-- A part of a text takes up the bytes of a span.  Both ends of the span then are between two
characters. -/
def Text.Occupies (t part : Text) (span : Template.Span) : Prop :=
  ∃ before after, t = before ++ part ++ after ∧ span.start = before.byteLength ∧
    span.stop = (before ++ part).byteLength

/-! ### Where expressions begin -/

namespace Text

/-- In a closed text, every opening brace is followed by a closing one. -/
theorem Closed.head?_of_append {before after : Text} (h : Closed (before ++ '{' :: after)) :
    after.head? = some '}' := by
  generalize heq : before ++ '{' :: after = t at h
  induction h generalizing before with
  | nil => simp at heq
  | @cons c t hc _ ih =>
    cases before with
    | nil => exact absurd (List.cons.inj heq).1.symm hc
    | cons d before => exact ih (List.cons.inj heq).2
  | @empty t _ ih =>
    rcases before with _ | ⟨d, _ | ⟨e, before⟩⟩
    · rw [(List.cons.inj heq).2]
      rfl
    · have hbrace : '{' = '}' := (List.cons.inj (List.cons.inj heq).2).1
      exact absurd hbrace (by decide)
    · exact ih (List.cons.inj (List.cons.inj heq).2).2

end Text

namespace Template

variable {front part rest opened : Text} {i : Nat}

/-- Where an expression begins in the bytes of a text, the text has an opening brace that a later
character closes, but not the next one. -/
theorem exists_of_opensAt_bytes {t : Text} (h : OpensAt t.bytes i) :
    ∃ before after : Text, t = before ++ '{' :: after ∧ before.byteLength = i ∧
      after.head? ≠ some '}' ∧ '}' ∈ after := by
  have hopen : '{'.utf8Size = 1 := rfl
  have hclose : '}'.utf8Size = 1 := rfl
  obtain ⟨hbrace, hnext, j, hij, hj⟩ := h
  obtain ⟨before, after, rfl, rfl⟩ := (Text.getElem?_bytes_eq_iff hopen).1 hbrace
  have hget := Text.getElem?_bytes_append_cons hopen before after
  refine ⟨before, after, rfl, rfl, ?_, ?_⟩
  · intro hhead
    rw [← Text.getElem?_bytes_zero_eq_iff hclose, ← hget] at hhead
    exact hnext hhead
  · obtain ⟨k, rfl⟩ := Nat.exists_eq_add_of_lt hij
    have hk : (Text.bytes after)[k]? = some '}'.toUInt8 := by
      rw [← hget, Nat.add_right_comm]
      exact hj
    exact (Text.toUInt8_mem_bytes_iff hclose).1 (List.mem_of_getElem? hk)

/-- No expression begins in a closed part of a text. -/
theorem not_opensAt_of_closed (hpart : part.Closed) (hfront : front.byteLength ≤ i)
    (hi : i < front.byteLength + part.byteLength) :
    ¬ OpensAt (front ++ part ++ rest).bytes i := by
  intro hopens
  obtain ⟨before, after, heq, rfl, hnext, -⟩ := exists_of_opensAt_bytes hopens
  rw [List.append_assoc] at heq
  obtain ⟨x, rfl, hrest⟩ := Text.exists_append_of_byteLength_le heq hfront
  rw [Text.byteLength_append] at hi
  obtain ⟨y, rfl, hy⟩ := Text.exists_append_of_byteLength_le hrest.symm (by omega)
  cases y with
  | nil =>
    rw [List.append_nil] at hi
    omega
  | cons c y =>
    obtain rfl : '{' = c := (List.cons.inj hy).1
    have hafter : after = y ++ rest := (List.cons.inj hy).2
    have hhead : y.head? = some '}' := hpart.head?_of_append
    rw [hafter, List.head?_append, hhead] at hnext
    exact hnext rfl

/-- No expression begins at a brace that nothing closes, or after it. -/
theorem not_opensAt_of_unclosed (hopened : '}' ∉ opened) (hfront : front.byteLength ≤ i) :
    ¬ OpensAt (front ++ '{' :: opened).bytes i := by
  intro hopens
  obtain ⟨before, after, heq, rfl, -, hclose⟩ := exists_of_opensAt_bytes hopens
  obtain ⟨x, rfl, hrest⟩ := Text.exists_append_of_byteLength_le heq hfront
  have hmem : '}' ∈ '{' :: opened := by
    rw [hrest]
    simp [hclose]
  rcases List.mem_cons.1 hmem with hbrace | hmem
  · exact absurd hbrace (by decide)
  · exact hopened hmem

end Template

/-! ### The division by chunks -/

namespace Chunk

open Template

variable {front before t plain body rest : Text}

/-- The bytes of an expression in the bytes of a text. -/
theorem braced_bytes (hne : body ≠ []) (hclose : '}' ∉ body) :
    ∃ inner : List UInt8, (Expression.braced body).bytes = '{'.toUInt8 :: inner ++ ['}'.toUInt8] ∧
      inner ≠ [] ∧ '}'.toUInt8 ∉ inner := by
  refine ⟨body.bytes, ?_, ?_, ?_⟩
  · have hopen : String.utf8EncodeChar '{' = ['{'.toUInt8] := rfl
    have hclose : String.utf8EncodeChar '}' = ['}'.toUInt8] := rfl
    rw [Expression.braced, Text.bytes_append, Text.bytes_cons, Text.bytes_cons, Text.bytes_nil,
      hopen, hclose]
    rfl
  · have hpos : 0 < body.bytes.length := Text.length_bytes body ▸ Text.byteLength_pos hne
    exact List.length_pos_iff.1 hpos
  · rwa [Text.toUInt8_mem_bytes_iff rfl]

/-- The literal of a text in which no expression begins, in front of an expression or at the end. -/
theorem isSegmentation_literals {bytes : List UInt8} {start : Nat} {places : List Place}
    (h : IsSegmentation bytes (start + t.byteLength) places)
    (hnext : ∀ q ∈ places.head?, q.role = .expression)
    (hopens : ∀ i, start ≤ i → i < start + t.byteLength → ¬ OpensAt bytes i) :
    IsSegmentation bytes start (placesFrom start ((literals t).map piece) ++ places) := by
  cases t with
  | nil => exact h
  | cons c t =>
    have hpos : 0 < Text.byteLength (c :: t) := Text.byteLength_pos (List.cons_ne_nil c t)
    exact h.cons_literal (by omega) hnext hopens

/-- A text at the end in which no expression begins is one literal, or nothing. -/
theorem isSegmentation_last
    (hopens : ∀ i, front.byteLength ≤ i → i < front.byteLength + t.byteLength →
      ¬ OpensAt (front ++ t).bytes i) :
    IsSegmentation (front ++ t).bytes front.byteLength
      (placesFrom front.byteLength ((literals t).map piece)) := by
  have hlength : (front ++ t).bytes.length = front.byteLength + t.byteLength := by
    rw [Text.length_bytes, Text.byteLength_append]
  have hnil : IsSegmentation (front ++ t).bytes (front.byteLength + t.byteLength) [] :=
    hlength ▸ IsSegmentation.nil (front ++ t).bytes
  rw [← List.append_nil (placesFrom front.byteLength _)]
  exact isSegmentation_literals hnil nofun hopens

/-- An expression behind a closed text that is one literal, or nothing. -/
theorem isSegmentation_braced {places : List Place} (hplain : plain.Closed) (hne : body ≠ [])
    (hclose : '}' ∉ body)
    (h : IsSegmentation (front ++ plain ++ Expression.braced body ++ rest).bytes
      (front.byteLength + plain.byteLength + (Expression.braced body).byteLength) places) :
    IsSegmentation (front ++ plain ++ Expression.braced body ++ rest).bytes front.byteLength
      (placesFrom front.byteLength ((literals plain).map piece) ++
        ⟨.expression, ⟨front.byteLength + plain.byteLength,
          front.byteLength + plain.byteLength + (Expression.braced body).byteLength⟩⟩ ::
          places) := by
  have hpos : 0 < (Expression.braced body).byteLength := Text.byteLength_pos (List.cons_ne_nil _ _)
  refine isSegmentation_literals (h.cons_expression (by omega) ?_) ?_ ?_
  · rw [← Text.byteLength_append, Text.extract_bytes]
    exact braced_bytes hne hclose
  · intro q hq
    cases hq
    rfl
  · intro i hstart hstop
    rw [List.append_assoc]
    exact not_opensAt_of_closed hplain hstart hstop

theorem placesFrom_literals_append (start : Nat) (t : Text) (pieces : List (Role × Text)) :
    placesFrom start ((literals t).map piece ++ pieces) =
      placesFrom start ((literals t).map piece) ++ placesFrom (start + t.byteLength) pieces := by
  cases t with
  | nil => rfl
  | cons c t => rfl

/-- The chunks of a text that follows a closed one divide both, wherever they stand. -/
theorem isSegmentation_ofTextAfter (front : Text) (hbefore : before.Closed) :
    IsSegmentation (front ++ (before ++ t)).bytes front.byteLength
      (placesFrom front.byteLength ((ofTextAfter before t).map piece)) := by
  induction before, t using ofTextAfter.induct generalizing front with
  | case1 before t hcut =>
    rw [ofTextAfter_of_plain hcut]
    have hclosed : (before ++ t).Closed :=
      hbefore.append (Text.closed_of_notMem (Text.cutAt_eq_none_iff.1 hcut))
    refine isSegmentation_last fun i hstart hstop => ?_
    rw [← List.append_nil (front ++ (before ++ t))]
    exact not_opensAt_of_closed hclosed hstart hstop
  | case2 before t plain opened hcut hcut' =>
    rw [ofTextAfter_of_unclosed hcut hcut']
    obtain ⟨rfl, hplain⟩ := Text.cutAt_eq_some_iff.1 hcut
    have hclosed : (before ++ plain).Closed := hbefore.append (Text.closed_of_notMem hplain)
    refine isSegmentation_last fun i hstart hstop => ?_
    have hassoc : front ++ (before ++ (plain ++ '{' :: opened)) =
        front ++ (before ++ plain) ++ '{' :: opened := by simp
    rw [hassoc]
    by_cases hi : i < front.byteLength + (before ++ plain).byteLength
    · exact not_opensAt_of_closed hclosed hstart hi
    · have hle : (front ++ (before ++ plain)).byteLength ≤ i := by
        rw [Text.byteLength_append]
        omega
      exact not_opensAt_of_unclosed (Text.cutAt_eq_none_iff.1 hcut') hle
  | case3 before t plain opened hcut rest hcut' _ _ ih =>
    rw [ofTextAfter_of_empty hcut hcut']
    obtain ⟨rfl, hplain⟩ := Text.cutAt_eq_some_iff.1 hcut
    obtain ⟨rfl, -⟩ := Text.cutAt_eq_some_iff.1 hcut'
    have hclosed : (before ++ plain ++ ['{', '}']).Closed :=
      (hbefore.append (Text.closed_of_notMem hplain)).append (.empty .nil)
    have hassoc : front ++ (before ++ (plain ++ '{' :: ([] ++ '}' :: rest))) =
        front ++ (before ++ plain ++ ['{', '}'] ++ rest) := by simp
    rw [hassoc]
    exact ih front hclosed
  | case4 before t plain opened hcut body rest hne hcut' _ _ ih =>
    rw [ofTextAfter_of_braced hcut hcut' hne, List.map_append, placesFrom_literals_append]
    obtain ⟨rfl, hplain⟩ := Text.cutAt_eq_some_iff.1 hcut
    obtain ⟨rfl, hbody⟩ := Text.cutAt_eq_some_iff.1 hcut'
    have hclosed : (before ++ plain).Closed := hbefore.append (Text.closed_of_notMem hplain)
    have hassoc : front ++ (before ++ (plain ++ '{' :: (body ++ '}' :: rest))) =
        front ++ (before ++ plain) ++ Expression.braced body ++ rest := by
      simp [Expression.braced]
    have hrest := ih (front ++ (before ++ plain) ++ Expression.braced body) .nil
    rw [List.nil_append, Text.byteLength_append, Text.byteLength_append] at hrest
    rw [hassoc]
    exact isSegmentation_braced hclosed hne hbody hrest

/-- The chunks of a text divide its bytes. -/
theorem isSegmentation_ofText (t : Text) :
    IsSegmentation t.bytes 0 (placesFrom 0 ((ofText t).map piece)) :=
  isSegmentation_ofTextAfter [] .nil

/-! ### The texts of the places -/

/-- The chunks of a text make it up. -/
theorem flatMap_source_ofTextAfter : (ofTextAfter before t).flatMap source = before ++ t := by
  have hliterals : ∀ u : Text, (literals u).flatMap source = u := by
    intro u
    cases u with
    | nil => rfl
    | cons c u => simp [literals, source]
  induction before, t using ofTextAfter.induct with
  | case1 before t hcut => rw [ofTextAfter_of_plain hcut, hliterals]
  | case2 before t plain opened hcut hcut' => rw [ofTextAfter_of_unclosed hcut hcut', hliterals]
  | case3 before t plain opened hcut rest hcut' _ _ ih =>
    rw [ofTextAfter_of_empty hcut hcut', ih]
    obtain ⟨rfl, -⟩ := Text.cutAt_eq_some_iff.1 hcut
    obtain ⟨rfl, -⟩ := Text.cutAt_eq_some_iff.1 hcut'
    simp
  | case4 before t plain opened hcut body rest hne hcut' _ _ ih =>
    rw [ofTextAfter_of_braced hcut hcut' hne, List.flatMap_append, List.flatMap_cons, hliterals, ih]
    obtain ⟨rfl, -⟩ := Text.cutAt_eq_some_iff.1 hcut
    obtain ⟨rfl, -⟩ := Text.cutAt_eq_some_iff.1 hcut'
    simp [source, Expression.braced]

/-- Each chunk takes up the bytes of its place. -/
theorem forall₂_placesFrom {t : Text} (front : Text) {chunks : List Chunk}
    (h : t = front ++ chunks.flatMap source) :
    List.Forall₂ (fun p c => p.role = c.role ∧ t.Occupies c.source p.span)
      (placesFrom front.byteLength (chunks.map piece)) chunks := by
  induction chunks generalizing front with
  | nil => exact .nil
  | cons c chunks ih =>
    rw [List.flatMap_cons, ← List.append_assoc] at h
    have hrest := ih (front ++ c.source) h
    rw [Text.byteLength_append] at hrest
    refine .cons ⟨rfl, front, chunks.flatMap source, h, rfl, ?_⟩ hrest
    rw [Text.byteLength_append]

/-! ### Reading the chunks -/

/-- A chunk that is not read is braced, and the error is that of its body. -/
theorem parse_eq_error_iff {c : Chunk} {fault : Error} :
    parse c = .error fault ↔ ∃ b, c = braced b ∧ Expression.parse b = .error fault := by
  cases c with
  | literal t => simp [parse]
  | braced b =>
    rw [parse]
    cases hb : Expression.parse b <;> simp [Except.map, hb]

/-- A chunk that is read keeps its role and its text. -/
theorem piece_of_parse {c : Chunk} {s : Segment} (h : parse c = .ok s) : s.piece = c.piece := by
  cases c with
  | literal t =>
    cases h
    rfl
  | braced b =>
    rw [parse] at h
    cases hb : Expression.parse b with
    | error fault =>
      rw [hb] at h
      cases h
    | ok e =>
      rw [hb] at h
      cases h
      have hbody : e.body = b := (Expression.parse_eq_ok_iff.1 hb).2
      rw [Segment.piece, piece, Segment.source, source, Expression.render, hbody]
      rfl

/-- Chunks that are read keep their roles and their texts. -/
theorem map_piece_of_forall₂ {chunks : List Chunk} {segments : List Segment}
    (h : List.Forall₂ (fun c s => parse c = .ok s) chunks segments) :
    segments.map Segment.piece = chunks.map piece := by
  induction h with
  | nil => rfl
  | cons hread _ ih => rw [List.map_cons, List.map_cons, piece_of_parse hread, ih]

/-- The error of reading chunks is that of the first body that cannot be read. -/
theorem mapM_parse_eq_error_iff {chunks : List Chunk} {fault : Error} :
    chunks.mapM parse = .error fault ↔
      ∃ before b after, chunks = before ++ braced b :: after ∧
        (∀ b', braced b' ∈ before → Expression.IsBody b') ∧ Expression.parse b = .error fault := by
  rw [mapM_eq_error_iff]
  constructor
  · rintro ⟨before, c, after, rfl, hbefore, hc⟩
    obtain ⟨b, rfl, hb⟩ := parse_eq_error_iff.1 hc
    exact ⟨before, b, after, rfl, fun b' hb' => exists_parse_iff.1 (hbefore _ hb') b' rfl, hb⟩
  · rintro ⟨before, b, after, rfl, hbefore, hb⟩
    refine ⟨before, braced b, after, rfl, ?_, parse_eq_error_iff.2 ⟨b, rfl, hb⟩⟩
    intro c hc
    refine exists_parse_iff.2 fun b' hb' => hbefore b' ?_
    rwa [← hb']

end Chunk

namespace Template

/-- The segments of a template take up the places of their texts. -/
theorem places_eq (template : Template) :
    template.places = placesFrom 0 (template.segments.map Segment.piece) := by
  have hfrom : ∀ (start : Nat) (segments : List Segment),
      ((spansFrom start segments).map fun (s, span) => Place.mk s.role span) =
        placesFrom start (segments.map Segment.piece) := by
    intro start segments
    induction segments generalizing start with
    | nil => rfl
    | cons s rest ih =>
      rw [spansFrom, List.map_cons, ih, List.map_cons]
      rfl
  exact hfrom 0 template.segments

/-- **The segmentation of a text.**  The bytes of a text are divided in exactly one way, and each of
the places is taken up by a chunk of the text.  The text is a template exactly if the bodies of its
braced chunks can be read.  Then its segments, each read from a chunk, take up these places and make
up the text; otherwise the error is that of the first body that cannot be read. -/
theorem segmentation_of_parse (t : Text) :
    ∃ places, IsSegmentation t.bytes 0 places ∧
      (∀ others, IsSegmentation t.bytes 0 others → others = places) ∧
      ∃ chunks : List Chunk,
        List.Forall₂ (fun p c => p.role = c.role ∧ t.Occupies c.source p.span) places chunks ∧
        ((∃ template, parse t = .ok template) ↔
          ∀ b, .braced b ∈ chunks → Expression.IsBody b) ∧
        (∀ template, parse t = .ok template →
          template.places = places ∧ template.source = t ∧
            List.Forall₂ (fun c s => Chunk.parse c = .ok s) chunks template.segments) ∧
        ∀ fault, parse t = .error fault ↔
          ∃ before b after, chunks = before ++ .braced b :: after ∧
            (∀ b', .braced b' ∈ before → Expression.IsBody b') ∧
            Expression.parse b = .error fault := by
  have hdivided : IsSegmentation t.bytes 0 (placesFrom 0 ((Chunk.ofText t).map Chunk.piece)) :=
    Chunk.isSegmentation_ofText t
  refine ⟨_, hdivided, fun others hothers => hothers.unique hdivided, Chunk.ofText t, ?_, ?_, ?_,
    ?_⟩
  · have hsource : (Chunk.ofText t).flatMap Chunk.source = [] ++ t :=
      Chunk.flatMap_source_ofTextAfter
    exact Chunk.forall₂_placesFrom [] hsource.symm
  · exact exists_parse_iff_forall_braced
  · intro template h
    have hsource : template.source = t := (legible_of_parse h).2
    rw [parse_eq_map] at h
    cases hsegments : (Chunk.ofText t).mapM Chunk.parse with
    | error fault =>
      rw [hsegments] at h
      cases h
    | ok segments =>
      rw [hsegments] at h
      cases h
      have hread : List.Forall₂ (fun c s => Chunk.parse c = .ok s) (Chunk.ofText t) segments :=
        mapM_eq_ok_iff.1 hsegments
      refine ⟨?_, hsource, hread⟩
      rw [places_eq, Chunk.map_piece_of_forall₂ hread]
  · intro fault
    rw [parse_eq_map, ← Chunk.mapM_parse_eq_error_iff]
    cases (Chunk.ofText t).mapM Chunk.parse <;> simp [Except.map]

end Template

end LinkTemplate
