import LinkTemplate.Params.Document
import LinkTemplate.Proofs.Json.Margin
import LinkTemplate.Proofs.Json.Reading
/-!
# What a JSON document may contain

A JSON document describes parameters if it is an object whose members are strings, numbers,
booleans and arrays of those, and every other document is refused for the type of a value
(`Params.ofJsonText_of_spells`).  This holds of every layout of the document.  A
member is judged while the document is read, so one whose name occurs again later counts
as well, though only the last of them is bound.

The document is one whose numbers are in the range.  What is in the range is a matter of
how numbers are converted: all numbers are that are smaller than the bound of the format by
a small part, but there are some that are not greater than the largest value of the format
and are refused (`Params.ofJsonText_near_overflow`).
-/

namespace LinkTemplate

namespace Json

/-- The value is a string, a number or a boolean. -/
def IsScalar : Json → Prop
  | string _ | number _ | bool _ => True
  | null | array _ | object _ => False

/-- The value is a string, a number, a boolean or an array of those. -/
def IsFlat : Json → Prop
  | array items => ∀ item ∈ items, item.IsScalar
  | j => j.IsScalar

/-- The text that a string, a number or a boolean is taken as. -/
inductive HasText : Json → Text → Prop
  | string (s : Text) : HasText (string s) s
  | number (n : Number) : HasText (number n) n.toText
  | true : HasText (bool Bool.true) "true".toList
  | false : HasText (bool Bool.false) "false".toList

/-- The value that a flat value describes. -/
inductive Describes : Json → Value → Prop
  | scalar {j : Json} {t : Text} : j.HasText t → Describes j (.scalar t)
  | list {items : List Json} {texts : List Text} :
      List.Forall₂ HasText items texts → Describes (array items) (.list texts)

end Json

namespace Value

theorem textOfJson?_eq_some_iff {j : Json} {t : Text} :
    textOfJson? j = some t ↔ j.HasText t := by
  constructor
  · intro h
    cases j with
    | string s =>
      cases h
      exact .string _
    | number n =>
      cases h
      exact .number n
    | bool b =>
      cases h
      cases b with
      | false => exact .false
      | true => exact .true
    | null => cases h
    | array items => cases h
    | object members => cases h
  · rintro (_ | _ | _ | _) <;> rfl

/-- What has a text is a string, a number or a boolean. -/
theorem exists_textOfJson?_iff {j : Json} : (∃ t, textOfJson? j = some t) ↔ j.IsScalar := by
  cases j <;> simp [textOfJson?, Json.IsScalar]

theorem mapM_textOfJson?_eq_some_iff {items : List Json} {texts : List Text} :
    items.mapM textOfJson? = some texts ↔ List.Forall₂ Json.HasText items texts := by
  induction items generalizing texts with
  | nil => simp [eq_comm]
  | cons item items ih =>
    rw [List.mapM_cons, List.forall₂_cons_left_iff]
    simp only [Option.bind_eq_bind, Option.bind_eq_some_iff, Option.pure_def, Option.some.injEq,
      textOfJson?_eq_some_iff, ih]
    constructor
    · rintro ⟨t, ht, ts, hts, rfl⟩
      exact ⟨t, ts, ht, hts, rfl⟩
    · rintro ⟨t, ts, ht, hts, rfl⟩
      exact ⟨t, ht, ts, hts, rfl⟩

theorem ofJson?_of_ne_array {j : Json} (hj : ∀ items, j ≠ .array items) :
    ofJson? j = (textOfJson? j).map scalar := by
  cases j with
  | array items => exact absurd rfl (hj items)
  | _ => rfl

/-- A value is read from what describes it. -/
theorem ofJson?_eq_some_iff {j : Json} {v : Value} : ofJson? j = some v ↔ j.Describes v := by
  constructor
  · intro h
    by_cases hj : ∃ items, j = .array items
    · obtain ⟨items, rfl⟩ := hj
      obtain ⟨texts, htexts, rfl⟩ := Option.map_eq_some_iff.1 h
      exact .list (mapM_textOfJson?_eq_some_iff.1 htexts)
    · rw [ofJson?_of_ne_array fun items heq => hj ⟨items, heq⟩] at h
      obtain ⟨t, ht, rfl⟩ := Option.map_eq_some_iff.1 h
      exact .scalar (textOfJson?_eq_some_iff.1 ht)
  · rintro (⟨htext⟩ | ⟨htexts⟩)
    · have hj : ∀ items, j ≠ .array items := by
        rintro items rfl
        cases htext
      rw [ofJson?_of_ne_array hj, textOfJson?_eq_some_iff.2 htext]
      rfl
    · rw [ofJson?, mapM_textOfJson?_eq_some_iff.2 htexts]
      rfl

theorem exists_mapM_textOfJson?_iff {items : List Json} :
    (∃ texts, items.mapM textOfJson? = some texts) ↔ ∀ item ∈ items, item.IsScalar := by
  simp only [mapM_textOfJson?_eq_some_iff, ← exists_textOfJson?_iff, textOfJson?_eq_some_iff]
  induction items with
  | nil => simp
  | cons item items ih =>
    rw [List.forall_mem_cons, ← ih]
    simp only [List.forall₂_cons_left_iff]
    constructor
    · rintro ⟨_, t, ts, ht, hts, rfl⟩
      exact ⟨⟨t, ht⟩, ts, hts⟩
    · rintro ⟨⟨t, ht⟩, ts, hts⟩
      exact ⟨_, t, ts, ht, hts, rfl⟩

/-- Flat values are those that describe a value. -/
theorem exists_ofJson?_iff {j : Json} : (∃ v, ofJson? j = some v) ↔ j.IsFlat := by
  by_cases hj : ∃ items, j = .array items
  · obtain ⟨items, rfl⟩ := hj
    rw [Json.IsFlat, ← exists_mapM_textOfJson?_iff]
    simp [ofJson?]
  · rw [ofJson?_of_ne_array fun items heq => hj ⟨items, heq⟩]
    have hflat : j.IsFlat ↔ j.IsScalar := by
      cases j with
      | array items => exact absurd ⟨items, rfl⟩ hj
      | _ => exact Iff.rfl
    rw [hflat, ← exists_textOfJson?_iff]
    simp

end Value

namespace Params

/-- What the value of a member is read as. -/
def readingOfJson (j : Json) : Except JsonFault Value :=
  match Value.ofJson? j with
  | some v => .ok v
  | none => .error .wrongType

theorem readingOfJson_eq_ok_iff {j : Json} {v : Value} :
    readingOfJson j = .ok v ↔ j.Describes v := by
  rw [← Value.ofJson?_eq_some_iff, readingOfJson]
  cases Value.ofJson? j <;> simp

/-- A value is judged where it ends. -/
theorem follows_readJsonValue (j : Json) :
    Json.Follows readJsonValue (Json.Spells Json.Literal.Denotes (Json.maxDepth - 1) j)
      (readingOfJson j) := by
  intro before core rest hbefore hcore hrest
  have hread := Json.follows_readValue (Json.maxDepth - 1) j before core rest hbefore hcore hrest
  rw [readJsonValue, hread, readingOfJson]
  simp only [Except.map]
  cases Value.ofJson? j <;> rfl

/-- The reading of a member. -/
def readingOfMember (m : Text × Json) : Except JsonFault (Text × Value) :=
  (readingOfJson m.2).map fun v => (m.1, v)

/-- The members of an object are read in order. -/
theorem readJson_of_spells_object {members : List (Text × Json)} {t : Text}
    (h : Json.SpellsDocument Json.Literal.Denotes (.object members) t) :
    readJson t = members.mapM readingOfMember := by
  obtain ⟨before, core, after, hbefore, hcore, hafter, rfl⟩ := h
  rw [Json.maxDepth, Json.Spells] at hcore
  obtain ⟨inside, hlisted, rfl⟩ := hcore
  have hread : Json.readEnclosed '}' (Json.readMember readJsonValue) (inside ++ '}' :: after) =
      (members.mapM readingOfMember).map fun ms => (ms, after) :=
    Json.readEnclosed_of_listed (by decide)
      (fun m : Text × Json => Json.follows_readMember (follows_readJsonValue m.2) m.1)
      (fun _ _ => Json.exists_cons_of_spellsMember) hlisted after
  have hend : ∀ ms : List (Text × Value), Json.expectEnd ms after = .ok ms := by
    intro ms
    have hnil : Json.skipBlank (after ++ []) = [] := Json.skipBlank_append hafter []
    rw [List.append_nil] at hnil
    rw [Json.expectEnd, hnil]
    rfl
  rw [readJson, Json.skipBlank_append hbefore, List.cons_append, List.append_assoc,
    List.singleton_append, Json.skipBlank_cons rfl]
  simp only [hread]
  cases members.mapM readingOfMember with
  | error fault => rfl
  | ok ms => exact hend ms

/-- A document that is no object is read, and then refused for its type. -/
theorem readJson_of_spells_of_ne_object {j : Json} {t : Text}
    (h : Json.SpellsDocument Json.Literal.Denotes j t) (hj : ∀ members, j ≠ .object members) :
    readJson t = .error .wrongType := by
  obtain ⟨before, core, after, hbefore, hcore, hafter, rfl⟩ := h
  have hends : Json.EndsNumber (after ++ []) := .of_blanks hafter Json.endsNumber_nil
  rw [List.append_nil] at hends
  rw [readJson, Json.skipBlank_append hbefore]
  by_cases hatom : j.IsAtom
  · obtain ⟨c, u, rfl, hblank, hbracket⟩ := Json.exists_cons_of_isAtom hatom hcore
    have hread := Json.readValue_of_isAtom hatom (hcore.of_isAtom hatom 0) hends
    have hobject : c ≠ '{' := fun heq => hbracket (by simp [heq])
    have harray : c ≠ '[' := fun heq => hbracket (by simp [heq])
    rw [List.cons_append] at hread ⊢
    rw [Json.skipBlank_cons hblank]
    split
    · rename_i heq
      exact absurd (List.cons.inj heq).1 hobject
    · rename_i heq
      exact absurd (List.cons.inj heq).1 harray
    · rw [hread]
  · cases j with
    | object members => exact absurd rfl (hj members)
    | array items =>
      rw [Json.maxDepth, Json.Spells] at hcore
      obtain ⟨inside, -, rfl⟩ := hcore
      rw [List.cons_append, Json.skipBlank_cons rfl]
      rfl
    | _ => exact absurd trivial hatom

/-! ### Which documents describe parameters -/

section Reading

variable {say : Text → Text} {t : Text}

theorem ofJsonText_eq_ok_iff {params : Params} :
    ofJsonText say t = .ok params ↔
      ∃ bindings, readJson t = .ok bindings ∧ params = TextMap.ofList bindings := by
  rw [ofJsonText]
  cases readJson t <;> simp [eq_comm]

theorem exists_ofJsonText_iff :
    (∃ params, ofJsonText say t = .ok params) ↔ ∃ bindings, readJson t = .ok bindings := by
  rw [ofJsonText]
  cases readJson t <;> simp

theorem ofJsonText_eq_error_iff {error : Error} : ofJsonText say t = .error error ↔
    ∃ fault, readJson t = .error fault ∧ error = .json fault (say t) := by
  rw [ofJsonText]
  cases readJson t <;> simp [eq_comm]

end Reading

section Members

variable {members : List (Text × Json)} {bindings : List (Text × Value)}

theorem readingOfMember_eq_ok_iff {m : Text × Json} {b : Text × Value} :
    readingOfMember m = .ok b ↔ m.1 = b.1 ∧ m.2.Describes b.2 := by
  rw [← readingOfJson_eq_ok_iff, readingOfMember]
  cases readingOfJson m.2 with
  | error fault => simp [Except.map]
  | ok v =>
    obtain ⟨name, w⟩ := b
    simp [Except.map]

/-- The members are read if their values are flat. -/
theorem exists_mapM_readingOfMember_iff :
    (∃ bindings, members.mapM readingOfMember = .ok bindings) ↔ ∀ m ∈ members, m.2.IsFlat := by
  have hmember : ∀ m : Text × Json, (∃ b, readingOfMember m = .ok b) ↔ m.2.IsFlat := by
    intro m
    simp only [readingOfMember_eq_ok_iff, ← Value.exists_ofJson?_iff, Value.ofJson?_eq_some_iff]
    exact ⟨fun ⟨b, _, hb⟩ => ⟨b.2, hb⟩, fun ⟨v, hv⟩ => ⟨(m.1, v), rfl, hv⟩⟩
  rw [exists_mapM_eq_ok_iff]
  simp only [hmember]

/-- A member that is not read has a value of the wrong type. -/
theorem eq_wrongType_of_mapM {fault : JsonFault}
    (h : members.mapM readingOfMember = .error fault) : fault = .wrongType := by
  obtain ⟨before, m, after, -, -, hm⟩ := mapM_eq_error_iff.1 h
  have hvalue : readingOfJson m.2 = .error fault := eq_error_of_map_eq_error hm
  unfold readingOfJson at hvalue
  split at hvalue
  · cases hvalue
  · exact (Except.error.inj hvalue).symm

theorem map_fst_of_mapM (h : members.mapM readingOfMember = .ok bindings) :
    bindings.map Prod.fst = members.map Prod.fst := by
  have hall := mapM_eq_ok_iff.1 h
  clear h
  induction hall with
  | nil => rfl
  | cons hb _ ih =>
    rw [List.map_cons, List.map_cons, ih, (readingOfMember_eq_ok_iff.1 hb).1]

/-- What is found among the bindings is described by what is found among the members. -/
theorem rel_lookup_of_forall₂ (name : Text)
    (h : List.Forall₂ (fun m b => readingOfMember m = .ok b) members bindings) :
    Option.Rel Json.Describes (members.lookup name) (bindings.lookup name) := by
  induction h with
  | nil => exact .none
  | @cons m b _ _ hb _ ih =>
    obtain ⟨k, j⟩ := m
    obtain ⟨k', v⟩ := b
    obtain ⟨hk, hv⟩ := readingOfMember_eq_ok_iff.1 hb
    dsimp only at hk hv
    subst hk
    rw [TextMap.lookup_cons_ite, TextMap.lookup_cons_ite]
    by_cases hname : name = k
    · rw [if_pos hname, if_pos hname]
      exact .some hv
    · rw [if_neg hname, if_neg hname]
      exact ih

end Members

section Documents

variable {say : Text → Text} {j : Json} {t : Text}
  (h : Json.SpellsDocument Json.Literal.Denotes j t)

include h

/-- A document is accepted if it is an object with flat members. -/
theorem exists_ofJsonText_iff_of_spells : (∃ params, ofJsonText say t = .ok params) ↔
    ∃ members, j = .object members ∧ ∀ m ∈ members, m.2.IsFlat := by
  rw [exists_ofJsonText_iff]
  by_cases hj : ∃ members, j = .object members
  · obtain ⟨members, rfl⟩ := hj
    rw [readJson_of_spells_object h, exists_mapM_readingOfMember_iff]
    constructor
    · intro hflat
      exact ⟨members, rfl, hflat⟩
    · rintro ⟨members', heq, hflat⟩
      cases heq
      exact hflat
  · rw [readJson_of_spells_of_ne_object h fun members heq => hj ⟨members, heq⟩]
    exact iff_of_false nofun fun ⟨members, heq, _⟩ => hj ⟨members, heq⟩

/-- A document that is not accepted is refused for the type of a value. -/
theorem eq_wrongType_of_spells {error : Error} (herror : ofJsonText say t = .error error) :
    error = .json .wrongType (say t) := by
  obtain ⟨fault, hread, rfl⟩ := ofJsonText_eq_error_iff.1 herror
  by_cases hj : ∃ members, j = .object members
  · obtain ⟨members, rfl⟩ := hj
    rw [readJson_of_spells_object h] at hread
    rw [eq_wrongType_of_mapM hread]
  · rw [readJson_of_spells_of_ne_object h fun members heq => hj ⟨members, heq⟩] at hread
    rw [← Except.error.inj hread]

end Documents

section Bindings

variable {say : Text → Text} {members : List (Text × Json)} {t : Text} {params : Params}
  (h : Json.SpellsDocument Json.Literal.Denotes (.object members) t)
  (hok : ofJsonText say t = .ok params)

include h hok

/-- The names of the members are bound, and no others. -/
theorem contains_iff_of_spells (name : Text) :
    params.contains name = true ↔ name ∈ members.map Prod.fst := by
  obtain ⟨bindings, hread, rfl⟩ := ofJsonText_eq_ok_iff.1 hok
  rw [readJson_of_spells_object h] at hread
  rw [TextMap.contains, TextMap.get?_ofList, List.lookup_isSome_iff, ← map_fst_of_mapM hread]
  simp only [List.mem_reverse, List.mem_map, beq_iff_eq]
  exact ⟨fun ⟨b, hb, heq⟩ => ⟨b, hb, heq.symm⟩, fun ⟨b, hb, heq⟩ => ⟨b, hb, heq.symm⟩⟩

/-- A name is bound to what its last member describes. -/
theorem rel_get?_of_spells (name : Text) :
    Option.Rel Json.Describes (members.reverse.lookup name) (params.get? name) := by
  obtain ⟨bindings, hread, rfl⟩ := ofJsonText_eq_ok_iff.1 hok
  rw [readJson_of_spells_object h] at hread
  rw [TextMap.get?_ofList]
  exact rel_lookup_of_forall₂ name (List.forall₂_reverse_iff.2 (mapM_eq_ok_iff.1 hread))

/-- What is bound to a name is described by the last member of that name. -/
theorem exists_last_of_get? {name : Text} {v : Value} (hget : params.get? name = some v) :
    ∃ before value after, members = before ++ (name, value) :: after ∧
      name ∉ after.map Prod.fst ∧ value.Describes v := by
  have hrel := rel_get?_of_spells h hok name
  rw [hget] at hrel
  generalize hlookup : members.reverse.lookup name = found at hrel
  cases hrel with
  | some hvalue =>
    obtain ⟨before, after, hsplit, hlast⟩ := TextMap.lookup_reverse_eq_some_iff.1 hlookup
    exact ⟨before, _, after, hsplit, hlast, hvalue⟩

/-- The last member of a name describes what is bound to it. -/
theorem exists_get?_of_last {before after : List (Text × Json)} {name : Text} {value : Json}
    (hsplit : members = before ++ (name, value) :: after) (hlast : name ∉ after.map Prod.fst) :
    ∃ v, params.get? name = some v ∧ value.Describes v := by
  have hrel := rel_get?_of_spells h hok name
  rw [TextMap.lookup_reverse_eq_some_iff.2 ⟨before, after, hsplit, hlast⟩] at hrel
  generalize params.get? name = found at hrel
  cases hrel with
  | some hvalue => exact ⟨_, rfl, hvalue⟩

end Bindings

/-- **What a JSON document may contain.**  Take any text of a value, in any layout.  It describes
parameters exactly if the value is an object whose members are all strings, numbers, booleans or
arrays of those.  Then exactly the names of the members are bound, each to what its last member
describes, and integers of 64 signed bits are in decimal.  Any other document is refused for the
type of a value, in the words of its reader.  Of the numbers only those are left out that are near
the bound of the format, or beyond it. -/
theorem ofJsonText_of_spells (say : Text → Text) {j : Json} {t : Text}
    (h : Json.SpellsDocument Json.Literal.Denotes j t) :
    ((∃ params, ofJsonText say t = .ok params) ↔
      ∃ members, j = .object members ∧ ∀ m ∈ members, m.2.IsFlat) ∧
    (∀ params members, ofJsonText say t = .ok params → j = .object members →
      (∀ name, params.contains name = true ↔ name ∈ members.map Prod.fst) ∧
      ∀ name v, params.get? name = some v →
        ∃ before value after, members = before ++ (name, value) :: after ∧
          name ∉ after.map Prod.fst ∧ value.Describes v) ∧
    (∀ (l : Json.Literal) (z : Int), l.integer? = some z → -2 ^ 63 ≤ z → z < 2 ^ 63 →
      (l.negative = true → z ≠ 0) →
        l.InRange ∧ (Json.number l.number).HasText (Text.ofInt z)) ∧
    (∀ error, ofJsonText say t = .error error → error = .json .wrongType (say t)) ∧
    ∀ l : Json.Literal, (∀ e, l.exponent? = some e → e.digits.value ≤ Json.maxExponent) →
      |l.value| ≤ (1 - 1 / 2 ^ 50) * 2 ^ 1024 → l.InRange := by
  refine ⟨exists_ofJsonText_iff_of_spells h, ?_, ?_, fun error => eq_wrongType_of_spells h,
    fun l => Json.Literal.inRange_of_abs_value_le⟩
  · rintro params members hok rfl
    exact ⟨contains_iff_of_spells h hok, fun name v => exists_last_of_get? h hok⟩
  · intro l z hz hlow hhigh hzero
    obtain ⟨hrange, htext⟩ := Json.Literal.toText_number_of_integer? hz hlow hhigh hzero
    exact ⟨hrange, htext ▸ .number l.number⟩

/-- A document with blanks, with an escape and with a name that occurs twice. -/
def layoutText : Text := " \x7b\"a\": -12,\"a\" :[\"\\u0041\" ,true]\x7d".toList

/-- Layout and escapes do not matter, and of two members with one name the later is bound. -/
theorem ofJsonText_of_spells_layout :
    Json.SpellsDocument Json.Literal.Denotes
        (.object [(['a'], .number (.integer (-12))), (['a'], .array [.string ['A'], .bool true])])
        layoutText ∧
      ∃ params, ofJsonText id layoutText = .ok params ∧
        params.get? ['a'] = some (.list [['A'], "true".toList]) := by
  have hnone : Json.AllBlank [] := Json.allBlank_nil
  have hblank : Json.AllBlank [' '] := List.forall_mem_singleton.2 rfl
  have hname : Json.SpellsString ['a'] ['"', 'a', '"'] :=
    ⟨[['a']], .cons (.plain (by decide) (by decide) (by decide)) .nil, rfl⟩
  have hnumber : Json.Spells Json.Literal.Denotes 126 (.number (.integer (-12)))
      ['-', '1', '2'] := by
    rw [Json.Spells]
    exact ⟨.ofInt (-12), Json.Literal.denotes_ofInt (by decide) (by decide), by decide⟩
  have hstring : Json.Spells Json.Literal.Denotes 125 (.string ['A']) "\"\\u0041\"".toList := by
    have hcode : Json.SpellsHex 0x41 ['0', '0', '4', '1'] := by
      exact ⟨rfl, by decide⟩
    rw [Json.Spells]
    exact ⟨["\\u0041".toList], .cons (.code hcode (by decide)) .nil, rfl⟩
  have htrue : Json.Spells Json.Literal.Denotes 125 (.bool true) "true".toList := by
    rw [Json.Spells]
    rfl
  have harray : Json.Spells Json.Literal.Denotes 126 (.array [.string ['A'], .bool true])
      "[\"\\u0041\" ,true]".toList := by
    rw [Json.Spells]
    exact ⟨_, .inr ⟨["\"\\u0041\" ".toList, "true".toList],
      .cons ⟨[], _, [' '], hnone, hstring, hblank, rfl⟩
        (.cons ⟨[], _, [], hnone, htrue, hnone, rfl⟩ .nil), rfl⟩, rfl⟩
  have hspells : Json.SpellsDocument Json.Literal.Denotes
      (.object [(['a'], .number (.integer (-12))), (['a'], .array [.string ['A'], .bool true])])
      layoutText := by
    refine ⟨[' '], layoutText.tail, [], hblank, ?_, hnone, by decide⟩
    rw [Json.maxDepth, Json.Spells]
    exact ⟨_, .inr ⟨["\"a\": -12".toList, "\"a\" :[\"\\u0041\" ,true]".toList],
      .cons ⟨[], _, [], hnone, ⟨_, [], [' '], _, hname, hnone, hblank, hnumber, rfl⟩, hnone, rfl⟩
        (.cons ⟨[], _, [], hnone, ⟨_, [' '], [], _, hname, hblank, hnone, harray, rfl⟩, hnone, rfl⟩
          .nil), rfl⟩, rfl⟩
  obtain ⟨haccept, hbind, -⟩ := ofJsonText_of_spells id hspells
  have hflat : ∀ m ∈ [(['a'], Json.number (.integer (-12))),
      (['a'], .array [.string ['A'], .bool true])], m.2.IsFlat := by
    simp [Json.IsFlat, Json.IsScalar]
  obtain ⟨params, hok⟩ := haccept.2 ⟨_, rfl, hflat⟩
  obtain ⟨hnames, hvalues⟩ := hbind params _ hok rfl
  obtain ⟨v, hv⟩ := Option.isSome_iff_exists.1 ((hnames ['a']).2 (by simp))
  refine ⟨hspells, params, hok, ?_⟩
  obtain ⟨before, value, after, hsplit, hlast, hdescribes⟩ := hvalues ['a'] v hv
  have harray : value = .array [.string ['A'], .bool true] := by
    rcases before with _ | ⟨m, _ | ⟨m', before⟩⟩
    · obtain ⟨-, rfl⟩ := List.cons.inj hsplit
      exact absurd List.mem_cons_self hlast
    · cases hsplit
      rfl
    · simp at hsplit
  subst harray
  rw [hv]
  cases hdescribes with
  | scalar htext => cases htext
  | list htexts =>
    cases htexts with
    | cons hfirst hrest =>
      cases hrest with
      | cons hsecond hnil =>
        cases hfirst
        cases hsecond
        cases hnil
        rfl

/-! ### Numbers near the bound of the range -/

/-- A literal that is too large is malformed, wherever it stands. -/
theorem follows_readJsonValue_of_not_inRange {l : Json.Literal} (h : ¬ l.InRange) :
    Json.Follows readJsonValue (fun t => t = l.text) (.error .malformed) := by
  rintro before core rest hbefore rfl hrest
  rw [readJsonValue, Json.readValue_append hbefore, Json.readValue_literal _ l hrest,
    Json.Literal.reading_of_not_inRange h]
  rfl

/-- **The bound of the range is not that of the format.**  A document whose only number is not
greater than the largest value of the format is refused, and not for the type of a value. -/
theorem ofJsonText_near_overflow :
    Json.SpellsDocument
        (fun l n => |l.value| ≤ Magnitude.largest.value ∧ n = l.number)
        (.object [(['a'], .number Json.Literal.edge.number)])
        "\x7b\"a\":1.797693134862315708e308\x7d".toList ∧
      (Json.number Json.Literal.edge.number).IsFlat ∧
      ∀ say, ofJsonText say "\x7b\"a\":1.797693134862315708e308\x7d".toList =
        .error (.json .malformed (say "\x7b\"a\":1.797693134862315708e308\x7d".toList)) := by
  have hnone : Json.AllBlank [] := Json.allBlank_nil
  have htext : "1.797693134862315708e308".toList = Json.Literal.edge.text := by decide
  have hname : Json.SpellsString ['a'] ['"', 'a', '"'] :=
    ⟨[['a']], .cons (.plain (by decide) (by decide) (by decide)) .nil, rfl⟩
  refine ⟨?_, trivial, fun say => ?_⟩
  · have hnumber : Json.Spells (fun l n => |l.value| ≤ Magnitude.largest.value ∧ n = l.number) 126
        (.number Json.Literal.edge.number) "1.797693134862315708e308".toList := by
      rw [Json.Spells]
      exact ⟨_, ⟨Json.Literal.abs_value_edge_le, rfl⟩, htext⟩
    refine ⟨[], "\x7b\"a\":1.797693134862315708e308\x7d".toList, [], hnone, ?_, hnone, by decide⟩
    rw [Json.maxDepth, Json.Spells]
    exact ⟨_, .inr ⟨["\"a\":1.797693134862315708e308".toList],
      .cons ⟨[], _, [], hnone, ⟨_, [], [], _, hname, hnone, hnone, hnumber, rfl⟩, hnone, rfl⟩ .nil,
      rfl⟩, rfl⟩
  · -- the reading of the only member is that of its number
    have hlisted : Json.Listed (Json.SpellsMember fun _ t => t = Json.Literal.edge.text)
        [(['a'], ())] "\"a\":1.797693134862315708e308".toList :=
      .inr ⟨["\"a\":1.797693134862315708e308".toList],
        .cons ⟨[], _, [], hnone, ⟨_, [], [], _, hname, hnone, hnone, htext, rfl⟩, hnone, rfl⟩ .nil,
        rfl⟩
    have hread := Json.readEnclosed_of_listed (by decide)
      (fun m : Text × Unit => Json.follows_readMember
        (follows_readJsonValue_of_not_inRange Json.Literal.not_inRange_edge) m.1)
      (fun _ _ => Json.exists_cons_of_spellsMember) hlisted []
    have hdocument : "\x7b\"a\":1.797693134862315708e308\x7d".toList =
        '\x7b' :: ("\"a\":1.797693134862315708e308".toList ++ ['\x7d']) := by decide
    have hmalformed : readJson "\x7b\"a\":1.797693134862315708e308\x7d".toList =
        .error .malformed := by
      rw [hdocument, readJson, Json.skipBlank_cons rfl]
      simp only [hread]
      rfl
    exact ofJsonText_eq_error_iff.2 ⟨_, hmalformed, rfl⟩

end Params

end LinkTemplate
