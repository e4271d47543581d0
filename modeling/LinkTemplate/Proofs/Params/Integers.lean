import LinkTemplate.Proofs.Number.Shortest
import LinkTemplate.Proofs.Params.Document
/-!
# Which integers keep their digits

An integer of 64 bits is read exactly, but what is kept of it as a parameter is a text.  If
it fits 64 signed bits this is its decimal text.  A larger one is written as a binary value,
in the shortest text that identifies that value, so it keeps its digits only if it happens
to be the shortest decimal of the value nearest to it (`KeepsDigits`).  That has at most 17
significant digits, and such an integer has at least 19: unless it ends with two zeros, it
is bound to another number (`KeepsDigits.dvd`).
-/

namespace LinkTemplate

/-- The integer fits 64 signed bits, or it is the shortest decimal of the binary value nearest to
it. -/
def KeepsDigits (n : Int) : Prop :=
  n < 2 ^ 63 ∨ ∃ x, Magnitude.ofRatio? n.toNat 1 = some x ∧ x.shortest.value = n

section Large

variable {n : Int}

/-- The binary value nearest to an integer beyond 64 signed bits has at least 19 digits. -/
theorem exists_nearest (hlow : 2 ^ 63 ≤ n) (hhigh : n < 2 ^ 64) :
    ∃ x, Magnitude.ofRatio? n.toNat 1 = some x ∧ 10 ^ 18 ≤ x.value := by
  obtain ⟨x, hx, -⟩ := Json.exists_ofRatio?_of_lt (m := n.toNat) (by omega)
  have hbound : (2 : ℚ) ^ (63 : Int) ≤ (n.toNat : ℚ) / (1 : Nat) := by
    have hnat : 2 ^ 63 ≤ n.toNat := by omega
    rw [Nat.cast_one, div_one]
    exact_mod_cast hnat
  have hvalue := Magnitude.two_zpow_le_value (by decide) Nat.one_pos hbound hx
  refine ⟨x, hx, le_trans ?_ hvalue⟩
  norm_num

/-- Its shortest decimal has no digits behind the point. -/
theorem exponent_shortest_nonneg {x : Magnitude} (hx : 10 ^ 18 ≤ x.value) :
    0 ≤ x.shortest.exponent := by
  rcases Magnitude.exponent_shortest hx with hzero | hexponent
  · rw [hzero]
  · omega

theorem toText_large (hlow : 2 ^ 63 ≤ n) {x : Magnitude}
    (hx : Magnitude.ofRatio? n.toNat 1 = some x) :
    (Number.integer n).toText = x.shortest.positional := by
  have hpow : Nat.pow 2 (64 - 1) = 2 ^ 63 := rfl
  have hfits : Number.fitsSigned 64 n = false := by
    unfold Number.fitsSigned
    rw [if_pos (by omega)]
    exact decide_eq_false (by omega)
  have habs : n.natAbs = n.toNat := by omega
  have hnonneg : decide (n < 0) = false := decide_eq_false (by omega)
  rw [Number.toText, hfits, if_neg Bool.false_ne_true, Number.realOfInt, habs, hx, hnonneg]
  rfl

/-- **The text of an integer.**  An integer of 64 bits is taken over in decimal exactly if it keeps
its digits. -/
theorem toText_integer_eq_ofInt_iff (hlow : -2 ^ 63 ≤ n) (hhigh : n < 2 ^ 64) :
    (Number.integer n).toText = Text.ofInt n ↔ KeepsDigits n := by
  by_cases hsmall : n < 2 ^ 63
  · exact iff_of_true (Number.toText_integer hlow hsmall) (.inl hsmall)
  have hlarge : 2 ^ 63 ≤ n := not_lt.1 hsmall
  obtain ⟨x, hx, hvalue⟩ := exists_nearest hlarge hhigh
  have hdecimal : Text.ofInt n = Text.ofNat n.toNat := by
    obtain ⟨m, rfl⟩ := Int.eq_ofNat_of_zero_le (by omega : 0 ≤ n)
    rfl
  have hcast : ((n.toNat : Nat) : ℚ) = n := by
    exact_mod_cast congrArg (Int.cast (R := ℚ)) (Int.toNat_of_nonneg (by omega : 0 ≤ n))
  rw [toText_large hlarge hx, hdecimal,
    Decimal.positional_eq_ofNat_iff (exponent_shortest_nonneg hvalue) (by omega), hcast]
  constructor
  · intro h
    exact .inr ⟨x, hx, h⟩
  · rintro (h | ⟨y, hy, h⟩)
    · exact absurd h hsmall
    · cases hx.symm.trans hy
      exact h

/-- An integer beyond 64 signed bits keeps its digits only if it ends with two zeros. -/
theorem KeepsDigits.dvd (h : KeepsDigits n) (hlow : 2 ^ 63 ≤ n) (hhigh : n < 2 ^ 64) :
    100 ∣ n := by
  rcases h with hsmall | ⟨x, hx, hn⟩
  · exact absurd hsmall (not_lt.2 hlow)
  obtain ⟨y, hy, hvalue⟩ := exists_nearest hlow hhigh
  cases hx.symm.trans hy
  rcases Magnitude.exponent_shortest hvalue with hzero | hexponent
  · rw [hzero, Decimal.value, Nat.cast_zero, zero_mul] at hn
    have hn0 : n = 0 := by exact_mod_cast hn.symm
    omega
  · obtain ⟨k, hk⟩ := Int.eq_ofNat_of_zero_le (by omega : 0 ≤ x.shortest.exponent - 2)
    have hsplit : x.shortest.exponent = ((k + 2 : Nat) : Int) := by omega
    refine ⟨x.shortest.digits * 10 ^ k, ?_⟩
    rw [Decimal.value, hsplit, zpow_natCast, pow_add] at hn
    have hcast : (n : ℚ) = ((100 * (x.shortest.digits * 10 ^ k) : Int) : ℚ) := by
      rw [← hn]
      push_cast
      ring
    exact_mod_cast hcast

end Large

namespace Json

theorem Literal.number_ofInt {n : Int} (hlow : -2 ^ 63 ≤ n) (hhigh : n < 2 ^ 64) :
    (Literal.ofInt n).number = .integer n :=
  (denotes_ofInt hlow hhigh).2.symm

/-- An integer of 64 bits is spelled in plain decimal. -/
theorem spells_ofInt {n : Int} (hlow : -2 ^ 63 ≤ n) (hhigh : n < 2 ^ 64) (depth : Nat) :
    Spells Literal.Denotes depth (number (Literal.ofInt n).number) (Text.ofInt n) := by
  rw [Spells]
  exact ⟨.ofInt n, ⟨(Literal.denotes_ofInt hlow hhigh).1, rfl⟩, (Literal.text_ofInt n).symm⟩

theorem describes_number_iff {n : Number} {v : Value} :
    (number n).Describes v ↔ v = .scalar n.toText := by
  constructor
  · rintro (⟨⟨⟩⟩)
    rfl
  · rintro rfl
    exact .scalar (.number n)

/-- The texts of the items of a list are in their places. -/
theorem exists_getElem?_of_hasText {items : List Json} {texts : List Text}
    (h : List.Forall₂ HasText items texts) {i : Nat} {j : Json} (hj : items[i]? = some j) :
    ∃ t, texts[i]? = some t ∧ j.HasText t := by
  induction h generalizing i with
  | nil => cases hj
  | @cons item t _ _ ht _ ih =>
    cases i with
    | zero =>
      cases hj
      exact ⟨t, rfl, ht⟩
    | succ i => exact ih hj

end Json

namespace Params

/-- **Which integers keep their digits.**  Take any layout of an object that describes parameters,
and an integer of 64 bits, signed or unsigned, that stands in it in plain decimal.  As a member it
is bound to its decimal text, and as an item of an array it is taken into the list in decimal,
exactly if it fits 64 signed bits or is the shortest decimal of the binary value nearest to it.
Beyond 64 signed bits an integer that does not end with two zeros never is. -/
theorem get?_integer_iff_keepsDigits (say : Text → Text) {members : List (Text × Json)} {t : Text}
    (h : Json.SpellsDocument Json.Literal.Denotes (.object members) t)
    (hflat : ∀ m ∈ members, m.2.IsFlat) :
    (∃ params, ofJsonText say t = .ok params ∧
      ∀ before name j after, members = before ++ (name, j) :: after →
        name ∉ after.map Prod.fst → ∀ n : Int, -2 ^ 63 ≤ n → n < 2 ^ 64 →
          (j = .number (Json.Literal.ofInt n).number →
            (params.get? name = some (.scalar (Text.ofInt n)) ↔ KeepsDigits n)) ∧
          ∀ items, j = .array items → ∃ texts, params.get? name = some (.list texts) ∧
            ∀ i : Nat, items[i]? = some (.number (Json.Literal.ofInt n).number) →
              (texts[i]? = some (Text.ofInt n) ↔ KeepsDigits n)) ∧
    ∀ n : Int, 2 ^ 63 ≤ n → n < 2 ^ 64 → KeepsDigits n → 100 ∣ n := by
  obtain ⟨params, hok⟩ := (exists_ofJsonText_iff_of_spells h).2 ⟨members, rfl, hflat⟩
  refine ⟨⟨params, hok, ?_⟩, fun n hlow hhigh hn => hn.dvd hlow hhigh⟩
  intro before name j after hsplit hlast n hlow hhigh
  obtain ⟨v, hget, hv⟩ := exists_get?_of_last h hok hsplit hlast
  rw [Json.Literal.number_ofInt hlow hhigh, hget]
  constructor
  · rintro rfl
    rw [Json.describes_number_iff.1 hv, ← toText_integer_eq_ofInt_iff hlow hhigh]
    simp
  · rintro items rfl
    cases hv with
    | scalar htext => cases htext
    | @list _ texts htexts =>
      refine ⟨texts, rfl, fun i hi => ?_⟩
      obtain ⟨text, htext, hhas⟩ := Json.exists_getElem?_of_hasText htexts hi
      cases hhas
      rw [htext, ← toText_integer_eq_ofInt_iff hlow hhigh, Option.some.injEq]

/-- An object with a small integer, and with one beyond 64 signed bits in an array. -/
def integersText : Text := "\x7b\"a\":7,\"b\":[9223372036854775808]\x7d".toList

/-- The small integer keeps its digits, the other one does not. -/
theorem get?_integer_iff_keepsDigits_bounds :
    Json.SpellsDocument Json.Literal.Denotes
        (.object [(['a'], .number (Json.Literal.ofInt 7).number),
          (['b'], .array [.number (Json.Literal.ofInt 9223372036854775808).number])])
        integersText ∧
      ∃ params texts, ofJsonText id integersText = .ok params ∧
        params.get? ['a'] = some (.scalar (Text.ofInt 7)) ∧
        params.get? ['b'] = some (.list texts) ∧
        texts[0]? ≠ some (Text.ofInt 9223372036854775808) := by
  have hnone : Json.AllBlank [] := Json.allBlank_nil
  have ha : Json.SpellsString ['a'] ['"', 'a', '"'] :=
    ⟨[['a']], .cons (.plain (by decide) (by decide) (by decide)) .nil, rfl⟩
  have hb : Json.SpellsString ['b'] ['"', 'b', '"'] :=
    ⟨[['b']], .cons (.plain (by decide) (by decide) (by decide)) .nil, rfl⟩
  have hseven := Json.spells_ofInt (n := 7) (by decide) (by decide) 126
  have hlarge := Json.spells_ofInt (n := 9223372036854775808) (by decide) (by decide) 125
  have harray : Json.Spells Json.Literal.Denotes 126
      (.array [.number (Json.Literal.ofInt 9223372036854775808).number])
      "[9223372036854775808]".toList := by
    rw [Json.Spells]
    exact ⟨_, .inr ⟨[Text.ofInt 9223372036854775808],
      .cons ⟨[], _, [], hnone, hlarge, hnone, by decide⟩ .nil, rfl⟩, by decide⟩
  have hspells : Json.SpellsDocument Json.Literal.Denotes
      (.object [(['a'], .number (Json.Literal.ofInt 7).number),
        (['b'], .array [.number (Json.Literal.ofInt 9223372036854775808).number])])
      integersText := by
    refine ⟨[], integersText, [], hnone, ?_, hnone, by decide⟩
    rw [Json.maxDepth, Json.Spells]
    exact ⟨_, .inr ⟨["\"a\":7".toList, "\"b\":[9223372036854775808]".toList],
      .cons ⟨[], "\"a\":7".toList, [], hnone,
        ⟨_, [], [], _, ha, hnone, hnone, hseven, by decide⟩, hnone, by decide⟩
      (.cons ⟨[], "\"b\":[9223372036854775808]".toList, [], hnone,
        ⟨_, [], [], _, hb, hnone, hnone, harray, by decide⟩, hnone, by decide⟩ .nil), rfl⟩,
      by decide⟩
  have hflat : ∀ m ∈ [(['a'], Json.number (Json.Literal.ofInt 7).number),
      (['b'], .array [.number (Json.Literal.ofInt 9223372036854775808).number])],
      m.2.IsFlat := by
    simp [Json.IsFlat, Json.IsScalar]
  obtain ⟨⟨params, hok, hbind⟩, hlost⟩ := get?_integer_iff_keepsDigits id hspells hflat
  obtain ⟨hfirst, -⟩ := hbind [] ['a'] _ _ rfl (by decide) 7 (by decide) (by decide)
  obtain ⟨-, hsecond⟩ := hbind [_] ['b'] _ [] rfl (by decide) 9223372036854775808 (by decide)
    (by decide)
  obtain ⟨texts, hget, hitem⟩ := hsecond _ rfl
  refine ⟨hspells, params, texts, hok, (hfirst rfl).2 (.inl (by decide)), hget, ?_⟩
  intro hkept
  have hkeeps := (hitem 0 rfl).1 hkept
  exact absurd (hlost _ (by decide) (by decide) hkeeps) (by decide)

/-- **An integer that loses its digits.**  The first integer beyond 64 signed bits is bound to the
shortest text of its binary value, which is that of another integer. -/
theorem get?_integer_beyond_signed :
    Json.SpellsDocument Json.Literal.Denotes
        (.object [(['a'], .number (Json.Literal.ofInt 9223372036854775808).number)])
        "\x7b\"a\":9223372036854775808\x7d".toList ∧
      ∀ say, ∃ params, ofJsonText say "\x7b\"a\":9223372036854775808\x7d".toList = .ok params ∧
        params.get? ['a'] = some (.scalar "9223372036854776000".toList) := by
  have hnone : Json.AllBlank [] := Json.allBlank_nil
  have hname : Json.SpellsString ['a'] ['"', 'a', '"'] :=
    ⟨[['a']], .cons (.plain (by decide) (by decide) (by decide)) .nil, rfl⟩
  have hnumber := Json.spells_ofInt (n := 9223372036854775808) (by decide) (by decide) 126
  have hspells : Json.SpellsDocument Json.Literal.Denotes
      (.object [(['a'], .number (Json.Literal.ofInt 9223372036854775808).number)])
      "\x7b\"a\":9223372036854775808\x7d".toList := by
    refine ⟨[], "\x7b\"a\":9223372036854775808\x7d".toList, [], hnone, ?_, hnone, by decide⟩
    rw [Json.maxDepth, Json.Spells]
    exact ⟨_, .inr ⟨["\"a\":9223372036854775808".toList],
      .cons ⟨[], "\"a\":9223372036854775808".toList, [], hnone,
        ⟨_, [], [], _, hname, hnone, hnone, hnumber, by decide⟩, hnone, by decide⟩ .nil, rfl⟩,
      by decide⟩
  have htext : (Number.integer 9223372036854775808).toText = "9223372036854776000".toList := by
    have hx : Magnitude.ofRatio? (9223372036854775808 : Int).toNat 1 = some ⟨2 ^ 52, 11⟩ := by
      decide +kernel
    rw [toText_large (by decide) hx]
    decide +kernel
  refine ⟨hspells, fun say => ?_⟩
  have hread : readJson "\x7b\"a\":9223372036854775808\x7d".toList =
      .ok [(['a'], .scalar "9223372036854776000".toList)] := by
    rw [readJson_of_spells_object hspells, Json.Literal.number_ofInt (by decide) (by decide),
      ← htext, mapM_eq_ok_iff]
    exact .cons (readingOfMember_eq_ok_iff.2 ⟨rfl, .scalar (.number _)⟩) .nil
  exact ⟨_, ofJsonText_eq_ok_iff.2 ⟨_, hread, rfl⟩, by rw [TextMap.get?_ofList]; rfl⟩

end Params

end LinkTemplate
