import LinkTemplate.Text
import Mathlib.Algebra.Group.Nat.Defs
import Mathlib.Order.Nat
/-!
# Numbers and bytes of a text

The decimal text of a number has no leading zeros, and zeros behind it multiply the number
by powers of ten.

The width of a text is the number of its bytes.  A character of one byte is found
in the bytes of a text exactly where it is found in the text
(`getElem?_bytes_eq_iff`), because no byte of a longer character looks like it.  So
whoever looks for such a character may search the bytes, and never ends up inside
another character.
-/

namespace LinkTemplate.Text

/-! ### Decimal text -/

theorem ofNat_ne_nil (n : Nat) : ofNat n ≠ [] := Nat.toDigits_ne_nil

theorem isDigit_of_mem_ofNat {n : Nat} {c : Char} (hc : c ∈ ofNat n) : c.isDigit = true :=
  Nat.isDigit_of_mem_toDigits (by decide) (by decide) hc

@[simp] theorem ofDigitChars_ofNat (n : Nat) : Nat.ofDigitChars 10 (ofNat n) 0 = n :=
  Nat.ofDigitChars_ten_toDigits

/-- A number is known from its text. -/
theorem ofNat_inj {m n : Nat} : ofNat m = ofNat n ↔ m = n := by
  constructor
  · intro h
    rw [← ofDigitChars_ofNat m, h, ofDigitChars_ofNat]
  · exact congrArg ofNat

/-- Only zero begins with the digit zero. -/
theorem eq_nil_of_ofNat_eq_cons {n : Nat} {t : Text} (h : ofNat n = '0' :: t) : t = [] := by
  induction n using Nat.strong_induction_on generalizing t with
  | h n ih =>
    by_cases hlt : n < 10
    · rw [ofNat, Nat.toDigits_of_lt_base hlt] at h
      exact (List.cons.inj h).2.symm
    · -- the digits begin as those of the tenth, which is not zero, and has fewer of them
      have htenth : Nat.ofDigitChars 10 (ofNat (n / 10)) 0 = n / 10 := ofDigitChars_ofNat _
      obtain ⟨c, u, hcons⟩ := List.exists_cons_of_ne_nil (ofNat_ne_nil (n / 10))
      have hcons' : Nat.toDigits 10 (n / 10) = c :: u := hcons
      rw [ofNat, Nat.toDigits_of_base_le (by decide) (not_lt.1 hlt), hcons'] at h
      obtain ⟨rfl, -⟩ := List.cons.inj h
      have hu : u = [] := ih (n / 10) (by omega) hcons
      rw [hcons, hu] at htenth
      have hzero : 0 = n / 10 := htenth
      omega

/-- A zero behind the text multiplies the number by ten. -/
theorem ofNat_mul_ten {n : Nat} (hn : n ≠ 0) : ofNat (n * 10) = ofNat n ++ ['0'] := by
  have hle : 10 ≤ n * 10 := Nat.le_mul_of_pos_left 10 (Nat.pos_of_ne_zero hn)
  rw [ofNat, Nat.toDigits_of_base_le (by decide) hle, Nat.mul_div_cancel n (by decide),
    Nat.mul_mod_left]
  rfl

/-- Zeros behind the text multiply the number by a power of ten. -/
theorem ofNat_append_zeros {n : Nat} (hn : n ≠ 0) (zeros : Nat) :
    ofNat n ++ List.replicate zeros '0' = ofNat (n * 10 ^ zeros) := by
  induction zeros with
  | zero => rw [List.replicate_zero, List.append_nil, Nat.pow_zero, Nat.mul_one]
  | succ zeros ih =>
    have hpos : n * 10 ^ zeros ≠ 0 := Nat.mul_ne_zero hn (Nat.pow_pos (by decide)).ne'
    rw [List.replicate_succ', ← List.append_assoc, ih, ← ofNat_mul_ten hpos, Nat.pow_succ,
      Nat.mul_assoc]

/-! ### Widths -/

@[simp] theorem length_bytes (t : Text) : t.bytes.length = t.byteLength := by
  induction t with
  | nil => rfl
  | cons c t ih =>
    rw [bytes_cons, List.length_append, String.length_utf8EncodeChar, ih, byteLength_cons]

/-- A text with characters has a width. -/
theorem byteLength_pos {t : Text} (h : t ≠ []) : 0 < t.byteLength := by
  cases t with
  | nil => exact absurd rfl h
  | cons c t =>
    have hpos : 0 < c.utf8Size := c.utf8Size_pos
    rw [byteLength_cons]
    omega

/-- A text is determined by its bytes. -/
theorem bytes_injective : Function.Injective bytes := by
  intro s t h
  have hencode : s.utf8Encode = t.utf8Encode := congrArg List.toByteArray h
  have hdecode : some s.toArray = some t.toArray := by
    rw [← List.utf8Decode?_utf8Encode, ← List.utf8Decode?_utf8Encode, hencode]
  simpa using hdecode

/-- Of two ways to divide a text, the one that divides it further to the right adds something to the
first part. -/
theorem exists_append_of_byteLength_le {s t u v : Text} (h : s ++ t = u ++ v)
    (hle : s.byteLength ≤ u.byteLength) : ∃ x, u = s ++ x ∧ t = x ++ v := by
  rcases List.append_eq_append_iff.1 h with ⟨x, hu, ht⟩ | ⟨x, hs, hv⟩
  · exact ⟨x, hu, ht⟩
  · have hwidth : s.byteLength = u.byteLength + byteLength x := by
      rw [hs, byteLength_append]
    cases x with
    | nil => exact ⟨[], by simpa using hs.symm, by simpa using hv.symm⟩
    | cons c x =>
      have hpos : 0 < byteLength (c :: x) := byteLength_pos (List.cons_ne_nil c x)
      omega

/-- The bytes of a part of a text are found where the part is. -/
theorem extract_bytes (front part rest : Text) :
    (front ++ part ++ rest).bytes.extract front.byteLength (front.byteLength + part.byteLength) =
      part.bytes := by
  rw [List.extract_eq_take_drop, Nat.add_sub_cancel_left, bytes_append, bytes_append,
    List.append_assoc, ← length_bytes front, ← length_bytes part, List.drop_left, List.take_left]

/-! ### Characters of one byte -/

/-- Up to its value, a character of one byte is its byte. -/
theorem toNat_toUInt8 {c : Char} (hc : c.utf8Size = 1) : c.toUInt8.toNat = c.toNat := by
  have hsmall : c.toNat ≤ 127 := Char.utf8Size_eq_one_iff.1 hc
  have hmod : c.toUInt8.toNat = c.toNat % 256 := UInt32.toNat_toUInt8 c.val
  rw [hmod]
  omega

/-- The bytes of a longer character are larger than those of the characters of one byte. -/
theorem le_of_mem_utf8EncodeChar {c : Char} (hc : c.utf8Size ≠ 1) {b : UInt8}
    (hb : b ∈ String.utf8EncodeChar c) : 128 ≤ b.toNat := by
  have hlarge : ¬ c.val.toNat ≤ 0x7f := by
    intro hle
    exact hc (Char.utf8Size_eq_one_iff.2 hle)
  unfold String.utf8EncodeChar at hb
  simp only [hlarge, if_false] at hb
  split at hb
  · simp only [List.mem_cons, List.not_mem_nil, or_false] at hb
    rcases hb with rfl | rfl <;> (rw [UInt8.toNat_ofNat']; omega)
  · split at hb
    · simp only [List.mem_cons, List.not_mem_nil, or_false] at hb
      rcases hb with rfl | rfl | rfl <;> (rw [UInt8.toNat_ofNat']; omega)
    · simp only [List.mem_cons, List.not_mem_nil, or_false] at hb
      rcases hb with rfl | rfl | rfl | rfl <;> (rw [UInt8.toNat_ofNat']; omega)

/-- Among the bytes of a character, the byte of a character of one byte is found only if it is that
character. -/
theorem getElem?_utf8EncodeChar_eq_iff {c d : Char} (hc : c.utf8Size = 1) {i : Nat} :
    (String.utf8EncodeChar d)[i]? = some c.toUInt8 ↔ d = c ∧ i = 0 := by
  constructor
  · intro h
    by_cases hd : d.utf8Size = 1
    · rw [String.utf8EncodeChar_eq_singleton hd, List.getElem?_singleton] at h
      split at h
      · rename_i hi
        have hbyte : d.toUInt8 = c.toUInt8 := Option.some.inj h
        have hnat : d.toNat = c.toNat := by
          rw [← toNat_toUInt8 hd, ← toNat_toUInt8 hc, hbyte]
        exact ⟨Char.toNat_inj.1 hnat, hi⟩
      · cases h
    · have hlarge : 128 ≤ c.toUInt8.toNat :=
        le_of_mem_utf8EncodeChar hd (List.mem_of_getElem? h)
      have hsmall : c.toNat ≤ 127 := Char.utf8Size_eq_one_iff.1 hc
      rw [toNat_toUInt8 hc] at hlarge
      omega
  · rintro ⟨rfl, rfl⟩
    rw [String.utf8EncodeChar_eq_singleton hc]
    rfl

/-- The byte of a character of one byte stands in the bytes of a text where the character stands in
the text. -/
theorem getElem?_bytes_eq_iff {c : Char} (hc : c.utf8Size = 1) {t : Text} {i : Nat} :
    t.bytes[i]? = some c.toUInt8 ↔
      ∃ before after, t = before ++ c :: after ∧ before.byteLength = i := by
  induction t generalizing i with
  | nil => simp
  | cons d t ih =>
    rw [bytes_cons]
    by_cases hi : i < d.utf8Size
    · rw [List.getElem?_append_left (by simpa using hi), getElem?_utf8EncodeChar_eq_iff hc]
      constructor
      · rintro ⟨rfl, rfl⟩
        exact ⟨[], t, rfl, rfl⟩
      · rintro ⟨before, after, heq, rfl⟩
        cases before with
        | nil =>
          cases heq
          exact ⟨rfl, rfl⟩
        | cons e before =>
          cases heq
          rw [byteLength_cons] at hi
          omega
    · rw [List.getElem?_append_right (by simpa using hi), String.length_utf8EncodeChar, ih]
      constructor
      · rintro ⟨before, after, rfl, hbefore⟩
        refine ⟨d :: before, after, rfl, ?_⟩
        rw [byteLength_cons]
        omega
      · rintro ⟨before, after, heq, rfl⟩
        cases before with
        | nil =>
          have hpos : 0 < d.utf8Size := d.utf8Size_pos
          exact absurd hpos hi
        | cons e before =>
          cases heq
          refine ⟨before, after, rfl, ?_⟩
          rw [byteLength_cons]
          omega

/-- The byte of a character of one byte is among the bytes of a text if the character is in the
text. -/
theorem toUInt8_mem_bytes_iff {c : Char} (hc : c.utf8Size = 1) {t : Text} :
    c.toUInt8 ∈ t.bytes ↔ c ∈ t := by
  rw [List.mem_iff_getElem?]
  constructor
  · rintro ⟨i, hi⟩
    obtain ⟨before, after, rfl, -⟩ := (getElem?_bytes_eq_iff hc).1 hi
    simp
  · intro hmem
    obtain ⟨before, after, rfl⟩ := List.append_of_mem hmem
    exact ⟨_, (getElem?_bytes_eq_iff hc).2 ⟨before, after, rfl, rfl⟩⟩

/-- The byte of a character of one byte comes first if the character does. -/
theorem getElem?_bytes_zero_eq_iff {c : Char} (hc : c.utf8Size = 1) {t : Text} :
    t.bytes[0]? = some c.toUInt8 ↔ t.head? = some c := by
  rw [getElem?_bytes_eq_iff hc]
  constructor
  · rintro ⟨before, after, rfl, hbefore⟩
    cases before with
    | nil => rfl
    | cons d before =>
      have hpos : 0 < byteLength (d :: before) := byteLength_pos (List.cons_ne_nil d before)
      omega
  · intro hhead
    obtain ⟨after, rfl⟩ := List.head?_eq_some_iff.1 hhead
    exact ⟨[], after, rfl, rfl⟩

/-- The bytes after a character of one byte are those of the text after it. -/
theorem getElem?_bytes_append_cons {c : Char} (hc : c.utf8Size = 1) (before after : Text)
    (k : Nat) : (before ++ c :: after).bytes[before.byteLength + 1 + k]? = after.bytes[k]? := by
  have hfront : (before ++ [c]).bytes.length = before.byteLength + 1 := by
    rw [length_bytes, byteLength_append, byteLength_cons, byteLength_nil, hc]
  have happend : before ++ c :: after = before ++ [c] ++ after := by simp
  rw [happend, bytes_append, List.getElem?_append_right (by omega), hfront,
    Nat.add_sub_cancel_left]

end LinkTemplate.Text
