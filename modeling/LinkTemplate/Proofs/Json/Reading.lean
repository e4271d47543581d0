import LinkTemplate.Proofs.Json.Grammar
import LinkTemplate.Proofs.Results
/-!
# Readers follow the grammar

A text of a value is read as the value, whatever layout it has, if its literals are in the
range (`Json.follows_readValue`).

What stands between brackets is read by a reader of its items, which may refuse an item
that is written correctly, because of its type.  So the reading of a list is the reading of
its items in order, and ends at the first that is refused (`Json.readEnclosed_of_listed`).
-/

namespace LinkTemplate

namespace Text

/-- Joined parts begin with what the first of them begins with. -/
theorem exists_joinWith_eq_cons (separator : Text) (c : Char) (u : Text) (parts : List Text) :
    ∃ v, joinWith separator ((c :: u) :: parts) = c :: v := by
  cases parts with
  | nil => exact ⟨u, joinWith_singleton separator (c :: u)⟩
  | cons next parts => exact ⟨_, joinWith_cons_cons separator (c :: u) next parts⟩

/-- There is a separator between any two neighbours. -/
theorem length_le_length_joinWith (c : Char) (parts : List Text) :
    parts.length ≤ (joinWith [c] parts).length + 1 := by
  induction parts with
  | nil => exact Nat.zero_le _
  | cons part parts ih =>
    cases parts with
    | nil => simp
    | cons next parts =>
      rw [joinWith_cons_cons, List.length_append, List.length_append, List.length_cons,
        List.length_singleton]
      omega

/-- What stands in front of the first part stands in front of the joined parts. -/
theorem joinWith_append_cons (separator s t : Text) (parts : List Text) :
    joinWith separator ((s ++ t) :: parts) = s ++ joinWith separator (t :: parts) := by
  cases parts with
  | nil => rw [joinWith_singleton, joinWith_singleton]
  | cons next parts => simp only [joinWith_cons_cons, List.append_assoc]

end Text

namespace Json

/-! ### Blanks -/

/-- What begins with no blank is not changed by skipping blanks. -/
theorem skipBlank_cons {c : Char} (h : isBlank c = false) (t : Text) :
    skipBlank (c :: t) = c :: t :=
  List.dropWhile_cons_of_neg (by simp [h])

theorem skipBlank_append {b : Text} (hb : AllBlank b) (t : Text) :
    skipBlank (b ++ t) = skipBlank t := List.dropWhile_append_of_pos hb

theorem readValue_append {b : Text} (hb : AllBlank b) (depth : Nat) (t : Text) :
    readValue depth (b ++ t) = readValue depth t := by
  rw [readValue.eq_def, skipBlank_append hb, ← readValue.eq_def]

/-- A number ends where the text does. -/
theorem endsNumber_nil : EndsNumber [] := by
  rintro c u ⟨⟩

/-- No number is continued by blanks or by what comes after a value. -/
theorem EndsNumber.of_blanks {b : Text} (hb : AllBlank b) {t : Text} (ht : EndsNumber t) :
    EndsNumber (b ++ t) := by
  cases b with
  | nil => exact ht
  | cons c b =>
    rintro d u ⟨⟩
    have hc : isBlank c = true := hb c List.mem_cons_self
    simp only [isBlank, Bool.or_eq_true, decide_eq_true_eq] at hc
    rcases hc with ((rfl | rfl) | rfl) | rfl <;> decide

theorem endsNumber_cons {c : Char} (hc : c ∈ [',', ']', '}']) (t : Text) : EndsNumber (c :: t) := by
  rintro d u ⟨⟩
  simp only [List.mem_cons, List.not_mem_nil, or_false] at hc
  rcases hc with rfl | rfl | rfl <;> decide

/-! ### Strings -/

theorem readString_quote (t : Text) : readString ('"' :: t) = .ok ([], t) := by
  rw [readString, if_pos rfl]

/-- An escape stands for a character of the string. -/
theorem readString_of_escape {t after : Text} {d : Char} (h : readEscape t = .ok (d, after)) :
    readString ('\\' :: t) = (readString after).map fun (s, rest) => (d :: s, rest) := by
  rw [readString, if_neg (by decide), if_pos rfl]
  split
  · rename_i hread
    cases h.symm.trans hread
  · rename_i hread
    cases h.symm.trans hread
    rfl

/-- A character that needs no escape stands for itself. -/
theorem readString_of_plain {c : Char} (hquote : c ≠ '"') (hslash : c ≠ '\\') (hblank : ¬ c < ' ')
    (t : Text) : readString (c :: t) = (readString t).map fun (s, rest) => (c :: s, rest) := by
  rw [readString, if_neg hquote, if_neg hslash, if_neg hblank]

theorem readHex4_of_spellsHex {n : Nat} {t : Text} (h : SpellsHex n t) (rest : Text) :
    readHex4 (t ++ rest) = .ok (n, rest) := by
  obtain ⟨hlength, hvalue⟩ := h
  obtain ⟨a, b, c, d, rfl⟩ : ∃ a b c d, t = [a, b, c, d] := by
    match t, hlength with
    | [a, b, c, d], _ => exact ⟨a, b, c, d, rfl⟩
  simp only [List.cons_append, List.nil_append, readHex4, hvalue]

/-- A character is read from any of the ways in which it is written. -/
theorem readString_of_spellsChar {c : Char} {t : Text} (h : SpellsChar c t) (rest : Text) :
    readString (t ++ rest) = (readString rest).map fun (s, rest) => (c :: s, rest) := by
  cases h with
  | plain hquote hslash hcontrol => exact readString_of_plain hquote hslash hcontrol rest
  | @letter _ d hletter =>
    have hu : d ≠ 'u' := by
      rintro rfl
      have hnone : simpleEscape? 'u' = none := by decide
      cases hnone.symm.trans hletter
    refine readString_of_escape ?_
    change readEscape (d :: rest) = _
    rw [readEscape, if_neg hu, hletter]
  | @code n t hex hno =>
    refine readString_of_escape ?_
    change readEscape ('u' :: (t ++ rest)) = _
    rw [readEscape, if_pos rfl, readUnicodeEscape, readHex4_of_spellsHex hex]
    dsimp only
    rw [if_neg (by omega), if_neg (by omega)]
  | @pair high low t u hhex hhigh lhex hlow =>
    refine readString_of_escape ?_
    change readEscape ('u' :: (t ++ '\\' :: 'u' :: u ++ rest)) = _
    rw [List.append_assoc, List.cons_append, List.cons_append, readEscape, if_pos rfl,
      readUnicodeEscape, readHex4_of_spellsHex hhex]
    dsimp only
    rw [if_neg (by omega), if_pos hhigh, readLowSurrogate, readHex4_of_spellsHex lhex]
    dsimp only
    rw [if_pos hlow]

/-- A string is read from any of its texts. -/
theorem readString_of_spellsString {s t : Text} (h : SpellsString s t) :
    ∃ u, t = '"' :: u ∧ ∀ rest, readString (u ++ rest) = .ok (s, rest) := by
  obtain ⟨parts, hparts, rfl⟩ := h
  refine ⟨_, rfl, fun rest => ?_⟩
  induction hparts with
  | nil => exact readString_quote rest
  | cons hc hs ih =>
    rw [List.flatten_cons, List.append_assoc, List.append_assoc, readString_of_spellsChar hc,
      ← List.append_assoc, ih]
    rfl

/-! ### What stands between brackets -/

/-- The reader gives the same result for every text of the item, whatever follows it. -/
def Follows {β : Type} (item : Text → Reading β) (P : Text → Prop) (result : Except JsonFault β) :
    Prop :=
  ∀ before core rest, AllBlank before → P core → EndsNumber rest →
    item (before ++ (core ++ rest)) = result.map fun y => (y, rest)

section Sequence

variable {α β : Type} {closing : Char} {item : Text → Reading β} {P : α → Text → Prop}
  {f : α → Except JsonFault β}

/-- Items with commas between them are read in order, up to the closing bracket. -/
theorem readSequence_of_padded (hclosing : closing ∈ [']', '}'])
    (hread : ∀ x, Follows item (P x) (f x)) {x : α} {xs : List α} {parts : List Text}
    (hparts : List.Forall₂ (fun x part => Padded (P x) part) (x :: xs) parts) {fuel : Nat}
    (hfuel : xs.length ≤ fuel) (rest : Text) :
    readSequence closing item (fuel + 1) (Text.joinWith [','] parts ++ closing :: rest) =
      ((x :: xs).mapM f).map fun ys => (ys, rest) := by
  have hcomma : ',' ≠ closing := by
    rintro rfl
    exact absurd hclosing (by decide)
  have hblank : isBlank closing = false := by
    simp only [List.mem_cons, List.not_mem_nil, or_false] at hclosing
    rcases hclosing with rfl | rfl <;> rfl
  have hends : EndsNumber (closing :: rest) :=
    endsNumber_cons (List.mem_cons_of_mem _ hclosing) rest
  induction xs generalizing x parts fuel with
  | nil =>
    obtain ⟨part, parts', hpart, hnil, rfl⟩ := List.forall₂_cons_left_iff.1 hparts
    obtain rfl := List.forall₂_nil_left_iff.1 hnil
    obtain ⟨before, core, after, hbefore, hcore, hafter, rfl⟩ := hpart
    have hitem := hread x before core (after ++ closing :: rest) hbefore hcore
      (EndsNumber.of_blanks hafter hends)
    rw [Text.joinWith_singleton, List.append_assoc, List.append_assoc, readSequence, hitem]
    cases hx : f x with
    | error fault =>
      rw [mapM_cons_of_error hx]
      rfl
    | ok y =>
      rw [mapM_cons_of_ok hx]
      simp only [Except.map, skipBlank_append hafter, skipBlank_cons hblank, if_true]
      rfl
  | cons next xs ih =>
    obtain ⟨part, parts', hpart, hrest, rfl⟩ := List.forall₂_cons_left_iff.1 hparts
    obtain ⟨before, core, after, hbefore, hcore, hafter, rfl⟩ := hpart
    obtain ⟨part', parts'', -, -, hcons⟩ := List.forall₂_cons_left_iff.1 hrest
    cases fuel with
    | zero => exact absurd hfuel (Nat.not_succ_le_zero _)
    | succ fuel =>
      have hnext := ih hrest (Nat.le_of_succ_le_succ hfuel)
      have hitem := hread x before core
        (after ++ ',' :: (Text.joinWith [','] parts' ++ closing :: rest)) hbefore hcore
        (EndsNumber.of_blanks hafter (endsNumber_cons List.mem_cons_self _))
      have hjoin : Text.joinWith [','] ((before ++ (core ++ after)) :: parts') ++ closing :: rest =
          before ++ (core ++
            (after ++ ',' :: (Text.joinWith [','] parts' ++ closing :: rest))) := by
        rw [hcons, Text.joinWith_cons_cons]
        simp
      rw [hjoin, readSequence, hitem]
      cases hx : f x with
      | error fault =>
        rw [mapM_cons_of_error hx]
        rfl
      | ok y =>
        have hskip : isBlank ',' = false := rfl
        rw [mapM_cons_of_ok hx]
        simp only [Except.map, skipBlank_append hafter, skipBlank_cons hskip, if_neg hcomma,
          if_true]
        rw [hnext]
        cases (next :: xs).mapM f <;> rfl

/-- A list in brackets is read item by item. -/
theorem readEnclosed_of_listed (hclosing : closing ∈ [']', '}'])
    (hread : ∀ x, Follows item (P x) (f x))
    (hhead : ∀ x core, P x core → ∃ c u, core = c :: u ∧ isBlank c = false ∧ c ≠ closing)
    {xs : List α} {inside : Text} (h : Listed P xs inside) (rest : Text) :
    readEnclosed closing item (inside ++ closing :: rest) =
      (xs.mapM f).map fun ys => (ys, rest) := by
  have hblank : isBlank closing = false := by
    simp only [List.mem_cons, List.not_mem_nil, or_false] at hclosing
    rcases hclosing with rfl | rfl <;> rfl
  have hempty : ∀ b, AllBlank b →
      readEnclosed closing item (b ++ closing :: rest) = .ok ([], rest) := by
    intro b hb
    rw [readEnclosed, skipBlank_append hb, skipBlank_cons hblank]
    exact if_pos rfl
  rcases h with ⟨rfl, hb⟩ | ⟨parts, hparts, rfl⟩
  · exact hempty inside hb
  cases xs with
  | nil =>
    obtain rfl := List.forall₂_nil_left_iff.1 hparts
    exact hempty [] nofun
  | cons x xs =>
    obtain ⟨part, parts', ⟨before, core, after, hbefore, hcore, hafter, rfl⟩, hrest, rfl⟩ :=
      List.forall₂_cons_left_iff.1 hparts
    -- the blanks in front of the first item are skipped with those of the list
    have hparts' : List.Forall₂ (fun x part => Padded (P x) part) (x :: xs)
        ((core ++ after) :: parts') := .cons ⟨[], core, after, nofun, hcore, hafter, rfl⟩ hrest
    obtain ⟨c, u, rfl, hc, hne⟩ := hhead x core hcore
    obtain ⟨v, hv⟩ := Text.exists_joinWith_eq_cons [','] c (u ++ after) parts'
    have hlength : xs.length ≤ (v ++ closing :: rest).length := by
      have hsep := Text.length_le_length_joinWith ',' ((c :: (u ++ after)) :: parts')
      have hcount := hrest.length_eq
      rw [hv, List.length_cons, List.length_cons] at hsep
      rw [List.length_append, List.length_cons]
      omega
    have hread := readSequence_of_padded hclosing hread hparts' hlength rest
    rw [List.cons_append, hv, List.cons_append] at hread
    rw [Text.joinWith_append_cons, List.append_assoc, List.cons_append, hv, List.cons_append,
      readEnclosed, skipBlank_append hbefore, skipBlank_cons hc]
    simp only [if_neg hne]
    exact hread

end Sequence

/-- A member is read as its name and the reading of what is bound to it. -/
theorem follows_readMember {α β : Type} {value : Text → Reading β} {P : α → Text → Prop} {x : α}
    {result : Except JsonFault β} (h : Follows value (P x) result) (name : Text) :
    Follows (readMember value) (SpellsMember P (name, x)) (result.map fun y => (name, y)) := by
  rintro before t rest hbefore ⟨t', gap, space, core, hname, hgap, hspace, hcore, rfl⟩ hrest
  obtain ⟨u, rfl, hread⟩ := readString_of_spellsString hname
  have hquote : ∀ t, skipBlank ('"' :: t) = '"' :: t := skipBlank_cons rfl
  have hcolon : ∀ t, skipBlank (':' :: t) = ':' :: t := skipBlank_cons rfl
  have htext : '"' :: u ++ (gap ++ ':' :: (space ++ core)) ++ rest =
      '"' :: (u ++ (gap ++ ':' :: (space ++ (core ++ rest)))) := by simp
  rw [htext, readMember, skipBlank_append hbefore, hquote]
  simp only [hread, skipBlank_append hgap, hcolon, h space core rest hspace hcore hrest]
  cases result <;> rfl

/-- A member begins with the quote of its name. -/
theorem exists_cons_of_spellsMember {α : Type} {P : α → Text → Prop} {m : Text × α} {t : Text}
    (h : SpellsMember P m t) : ∃ c u, t = c :: u ∧ isBlank c = false ∧ c ≠ '}' := by
  obtain ⟨name, gap, space, core, ⟨parts, -, rfl⟩, -, -, -, rfl⟩ := h
  exact ⟨'"', _, rfl, rfl, by decide⟩

/-! ### Values -/

/-- A word is read back. -/
theorem readWord_append (word : Text) (value : Json) (rest : Text) :
    readWord word value (word ++ rest) = .ok (value, rest) := by
  induction word with
  | nil => rfl
  | cons c word ih => rw [List.cons_append, readWord, if_pos rfl, ih]

/-- A word is the value that it names. -/
theorem readValue_of_word {c : Char} {w : Text} {value : Json} {depth : Nat}
    (h : (c, w, value) ∈ [('n', ['u', 'l', 'l'], null), ('t', ['r', 'u', 'e'], bool true),
      ('f', ['a', 'l', 's', 'e'], bool false)]) (rest : Text) :
    readValue depth (c :: (w ++ rest)) = .ok (value, rest) := by
  have hread := readWord_append w value rest
  simp only [List.mem_cons, Prod.mk.injEq, List.not_mem_nil, or_false] at h
  rcases h with ⟨rfl, rfl, rfl⟩ | ⟨rfl, rfl, rfl⟩ | ⟨rfl, rfl, rfl⟩ <;>
  · rw [readValue.eq_def, skipBlank_cons rfl]
    simpa only [Char.reduceEq, if_false, if_true] using hread

/-- What holds no brackets begins with none, and with no blank. -/
theorem exists_cons_of_isAtom {Means : Literal → Number → Prop} {depth : Nat} {j : Json}
    (hj : j.IsAtom) {t : Text} (h : Spells Means depth j t) :
    ∃ c u, t = c :: u ∧ isBlank c = false ∧ c ∉ ['[', ']', '{', '}'] := by
  cases j with
  | null =>
    rw [Spells] at h
    exact ⟨'n', _, h, rfl, by decide⟩
  | bool b =>
    rw [Spells] at h
    cases b with
    | false => exact ⟨'f', _, h, rfl, by decide⟩
    | true => exact ⟨'t', _, h, rfl, by decide⟩
  | number n =>
    rw [Spells] at h
    obtain ⟨l, -, rfl⟩ := h
    obtain ⟨c, u, hcons, hc⟩ := l.whole.exists_cons
    have hblank : isBlank c = false := by simp [isBlank, ne_of_isDigit hc]
    have hbracket : c ∉ ['[', ']', '{', '}'] := by simp [ne_of_isDigit hc]
    unfold Literal.text Literal.unsigned
    cases l.negative with
    | false => exact ⟨c, _, by rw [hcons]; rfl, hblank, hbracket⟩
    | true => exact ⟨'-', _, rfl, rfl, by decide⟩
  | string s =>
    rw [Spells] at h
    obtain ⟨parts, -, rfl⟩ := h
    exact ⟨'"', _, rfl, rfl, by decide⟩
  | array items => exact absurd hj id
  | object members => exact absurd hj id

/-- A value begins neither with a blank nor with a closing bracket. -/
theorem exists_cons_of_spells {Means : Literal → Number → Prop} {depth : Nat} {j : Json} {t : Text}
    (h : Spells Means depth j t) : ∃ c u, t = c :: u ∧ isBlank c = false ∧ c ≠ ']' := by
  by_cases hj : j.IsAtom
  · obtain ⟨c, u, rfl, hblank, hbracket⟩ := exists_cons_of_isAtom hj h
    exact ⟨c, u, rfl, hblank, fun heq => hbracket (by simp [heq])⟩
  cases depth with
  | zero =>
    cases j with
    | array items => cases h
    | object members => cases h
    | _ => exact absurd trivial hj
  | succ depth =>
    cases j with
    | array items =>
      rw [Spells] at h
      obtain ⟨inside, -, rfl⟩ := h
      exact ⟨'[', _, rfl, rfl, by decide⟩
    | object members =>
      rw [Spells] at h
      obtain ⟨inside, -, rfl⟩ := h
      exact ⟨'\x7b', _, rfl, rfl, by decide⟩
    | _ => exact absurd trivial hj

/-- A number is read from its literal. -/
theorem readValue_literal (depth : Nat) (l : Literal) {rest : Text} (hrest : EndsNumber rest) :
    readValue depth (l.text ++ rest) = l.reading.map fun n => (number n, rest) := by
  have hread := l.readUnsigned_append hrest
  unfold Literal.text
  cases hnegative : l.negative with
  | true =>
    rw [hnegative] at hread
    rw [if_pos rfl, List.cons_append, readValue.eq_def, skipBlank_cons rfl]
    simp only [Char.reduceEq, if_false, if_true, hread]
    cases l.reading <;> rfl
  | false =>
    obtain ⟨c, u, hcons, hc⟩ := l.whole.exists_cons
    have hblank : isBlank c = false := by
      simp [isBlank, ne_of_isDigit hc]
    have htext : l.unsigned ++ rest = c :: (u ++ l.tail ++ rest) := by
      rw [Literal.unsigned, hcons]
      rfl
    rw [hnegative, htext] at hread
    rw [if_neg Bool.false_ne_true, htext, readValue.eq_def, skipBlank_cons hblank]
    have hother : ∀ {d : Char}, d.isDigit = false → (c = d) = False :=
      fun hd => eq_false (ne_of_isDigit hc hd)
    simp only [hother (d := '"') rfl, hother (d := '[') rfl, hother (d := '\x7b') rfl,
      hother (d := 'n') rfl, hother (d := 't') rfl, hother (d := 'f') rfl, hother (d := '-') rfl,
      if_false, hc, if_true, hread]
    cases l.reading <;> rfl

/-- A literal in the range denotes its number. -/
def Literal.Denotes (l : Literal) (n : Number) : Prop := l.InRange ∧ n = l.number

/-- A literal denotes what it is read as. -/
theorem Literal.denotes_iff {l : Literal} {n : Number} : l.Denotes n ↔ l.reading = .ok n := by
  constructor
  · rintro ⟨hrange, rfl⟩
    exact reading_of_inRange hrange
  · intro hread
    exact ⟨l.exists_reading_eq_ok_iff.1 ⟨n, hread⟩, (number_of_reading hread).symm⟩

/-- An integer of 64 bits in plain decimal denotes itself. -/
theorem Literal.denotes_ofInt {z : Int} (hlow : -2 ^ 63 ≤ z) (hhigh : z < 2 ^ 64) :
    (ofInt z).Denotes (.integer z) := by
  have hzero : (ofInt z).negative = true → z ≠ 0 := fun h => (of_decide_eq_true h : z < 0).ne
  exact denotes_iff.2 (reading_of_integer? (integer?_ofInt z) hlow hhigh hzero)

theorem readValue_of_isAtom {depth : Nat} {j : Json} (hj : j.IsAtom) {t : Text}
    (h : Spells Literal.Denotes depth j t) {rest : Text} (hrest : EndsNumber rest) :
    readValue depth (t ++ rest) = .ok (j, rest) := by
  cases j with
  | null =>
    rw [Spells] at h
    rw [h]
    exact readValue_of_word (c := 'n') (w := ['u', 'l', 'l']) (by simp) rest
  | bool b =>
    rw [Spells] at h
    rw [h]
    cases b with
    | false => exact readValue_of_word (c := 'f') (w := ['a', 'l', 's', 'e']) (by simp) rest
    | true => exact readValue_of_word (c := 't') (w := ['r', 'u', 'e']) (by simp) rest
  | number n =>
    rw [Spells] at h
    obtain ⟨l, hdenotes, rfl⟩ := h
    rw [readValue_literal depth l hrest, Literal.denotes_iff.1 hdenotes]
    rfl
  | string s =>
    rw [Spells] at h
    obtain ⟨u, rfl, hread⟩ := readString_of_spellsString h
    rw [List.cons_append, readValue.eq_def, skipBlank_cons (c := '"') rfl]
    simp only [if_true, hread]
    rfl
  | array items => exact absurd hj id
  | object members => exact absurd hj id

/-- **A value is read from any of its texts**, whatever blanks are in front of it and whatever
follows it, if the literals are in the range. -/
theorem follows_readValue (depth : Nat) (j : Json) :
    Follows (readValue depth) (Spells Literal.Denotes depth j) (.ok j) := by
  induction depth generalizing j with
  | zero =>
    intro before core rest hbefore hcore hrest
    rw [readValue_append hbefore]
    -- there are no brackets at the innermost level
    cases j with
    | array items => cases hcore
    | object members => cases hcore
    | _ => exact readValue_of_isAtom (by trivial) hcore hrest
  | succ depth ih =>
    intro before core rest hbefore hcore hrest
    rw [readValue_append hbefore]
    cases j with
    | array items =>
      rw [Spells] at hcore
      obtain ⟨inside, hlisted, rfl⟩ := hcore
      have hread := readEnclosed_of_listed (by decide) ih (fun _ _ => exists_cons_of_spells) hlisted
        rest
      rw [mapM_ok] at hread
      rw [List.cons_append, List.append_assoc, List.singleton_append, readValue.eq_def,
        skipBlank_cons (c := '[') rfl]
      simp only [Char.reduceEq, if_false, if_true, hread]
      rfl
    | object members =>
      rw [Spells] at hcore
      obtain ⟨inside, hlisted, rfl⟩ := hcore
      have hread := readEnclosed_of_listed (by decide)
        (fun m : Text × Json => follows_readMember (ih m.2) m.1)
        (fun _ _ => exists_cons_of_spellsMember) hlisted rest
      have hmembers : members.mapM (fun m => (Except.ok m.2).map fun j => (m.1, j)) =
          (.ok members : Except JsonFault (List (Text × Json))) := mapM_ok members
      rw [hmembers] at hread
      rw [List.cons_append, List.append_assoc, List.singleton_append, readValue.eq_def,
        skipBlank_cons (c := '{') rfl]
      simp only [Char.reduceEq, if_false, if_true, hread]
      rfl
    | _ => exact readValue_of_isAtom (by trivial) hcore hrest

end Json

end LinkTemplate
