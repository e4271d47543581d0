import LinkTemplate.Encoder
import LinkTemplate.Proofs.Text
import Mathlib.Data.List.Basic
/-!
# Percent encoding

Percent-encoded text consists of unreserved characters and escapes `%XX`
(`Encoder.IsPercentEncoded`), so it holds none of the characters that delimit the parts
of a template.  Decoding gives the bytes that were encoded, whatever they look like:
a literal `%` is escaped itself (`Encoder.percentDecode_percent`).

The encoder looks at bytes and not at characters.  It takes a byte for an unreserved
character exactly if the byte belongs to one, because the bytes of longer characters
are not ASCII (`Encoder.isUnreserved_byte_iff`).  So an unreserved character is kept, and
of any other every byte is escaped, which makes the text longer.
-/

namespace LinkTemplate.Encoder

/-! ### Unreserved characters -/

theorem isUnreserved_eq_true_iff {c : Char} : isUnreserved c = true ↔
    ('A' ≤ c ∧ c ≤ 'Z') ∨ ('a' ≤ c ∧ c ≤ 'z') ∨ ('0' ≤ c ∧ c ≤ '9') ∨
      c ∈ ['-', '.', '_', '~'] := by
  have hupper : c.isUpper = true ↔ 'A' ≤ c ∧ c ≤ 'Z' := decide_eq_true_iff
  have hlower : c.isLower = true ↔ 'a' ≤ c ∧ c ≤ 'z' :=
    Bool.and_eq_true_iff.trans (and_congr decide_eq_true_iff decide_eq_true_iff)
  have hdigit : c.isDigit = true ↔ '0' ≤ c ∧ c ≤ '9' :=
    Bool.and_eq_true_iff.trans (and_congr decide_eq_true_iff decide_eq_true_iff)
  have halphanum : c.isAlphanum = (c.isUpper || c.isLower || c.isDigit) := rfl
  simp only [isUnreserved, halphanum, Bool.or_eq_true, decide_eq_true_eq, hupper, hlower, hdigit,
    or_assoc, List.mem_cons, List.not_mem_nil, or_false]

/-- Unreserved characters are ASCII. -/
theorem utf8Size_of_isUnreserved {c : Char} (h : isUnreserved c = true) : c.utf8Size = 1 := by
  have hle : ∀ d : Char, d.toNat ≤ 127 → c ≤ d → c.utf8Size = 1 := by
    intro d hd hcd
    have hnat : c.toNat ≤ d.toNat := hcd
    exact Char.utf8Size_eq_one_iff.2 (Nat.le_trans hnat hd)
  have hmark : ∀ d ∈ ['-', '.', '_', '~'], d.utf8Size = 1 := by simp [Char.utf8Size]
  rcases isUnreserved_eq_true_iff.1 h with ⟨-, hc⟩ | ⟨-, hc⟩ | ⟨-, hc⟩ | hc
  · exact hle 'Z' (by decide) hc
  · exact hle 'z' (by decide) hc
  · exact hle '9' (by decide) hc
  · exact hmark c hc

/-- A byte is the code point of a character. -/
theorem toNat_ofNat_byte (b : UInt8) : (Char.ofNat b.toNat).toNat = b.toNat := by
  have hlt : b.toNat < 256 := b.toNat_lt
  have hvalid : b.toNat.isValidChar := .inl (by omega)
  rw [Char.ofNat, dif_pos hvalid]
  rfl

/-- A byte in the UTF-8 form of a character looks like an unreserved character exactly if it is
the form of one. -/
theorem isUnreserved_byte_iff {c : Char} {b : UInt8} (hb : b ∈ String.utf8EncodeChar c) :
    isUnreserved (Char.ofNat b.toNat) = true ↔ isUnreserved c = true := by
  by_cases hc : c.utf8Size = 1
  · rw [String.utf8EncodeChar_eq_singleton hc, List.mem_singleton] at hb
    have hnat : (Char.ofNat b.toNat).toNat = c.toNat := by
      rw [toNat_ofNat_byte, hb]
      exact Text.toNat_toUInt8 hc
    rw [Char.toNat_inj.1 hnat]
  · have hlarge : 128 ≤ b.toNat := Text.le_of_mem_utf8EncodeChar hc hb
    refine iff_of_false ?_ fun h => hc (utf8Size_of_isUnreserved h)
    intro h
    have hsmall : (Char.ofNat b.toNat).toNat ≤ 127 :=
      Char.utf8Size_eq_one_iff.1 (utf8Size_of_isUnreserved h)
    rw [toNat_ofNat_byte] at hsmall
    omega

/-! ### Escapes -/

/-- The hexadecimal digits that are written. -/
def IsUpperHexDigit (c : Char) : Prop := ('0' ≤ c ∧ c ≤ '9') ∨ ('A' ≤ c ∧ c ≤ 'F')

instance (c : Char) : Decidable (IsUpperHexDigit c) := inferInstanceAs (Decidable (_ ∨ _))

theorem isUpperHexDigit_hexDigit {n : Nat} (h : n < 16) : IsUpperHexDigit (hexDigit n) := by
  revert n
  decide

theorem hexDigitValue?_hexDigit {n : Nat} (h : n < 16) :
    Text.hexDigitValue? (hexDigit n) = some n := by
  revert n
  decide

theorem IsUpperHexDigit.isUnreserved {c : Char} (h : IsUpperHexDigit c) :
    isUnreserved c = true := by
  rw [isUnreserved_eq_true_iff]
  rcases h with h | h
  · exact .inr (.inr (.inl h))
  · exact .inl ⟨h.1, Nat.le_trans h.2 (by decide : 'F'.toNat ≤ 'Z'.toNat)⟩

/-- A byte as `%XX`. -/
def escapeByte (b : UInt8) : Text := ['%', hexDigit (b.toNat / 16), hexDigit (b.toNat % 16)]

theorem highDigit_lt (b : UInt8) : b.toNat / 16 < 16 := by
  have hlt : b.toNat < 256 := b.toNat_lt
  omega

theorem lowDigit_lt (b : UInt8) : b.toNat % 16 < 16 := Nat.mod_lt _ (by decide)

/-! ### What is written -/

/-- The form of percent-encoded text: unreserved characters and escapes. -/
inductive IsPercentEncoded : Text → Prop
  | nil : IsPercentEncoded []
  | unreserved {c : Char} {t : Text} :
      isUnreserved c = true → IsPercentEncoded t → IsPercentEncoded (c :: t)
  | escape {high low : Char} {t : Text} : IsUpperHexDigit high → IsUpperHexDigit low →
      IsPercentEncoded t → IsPercentEncoded ('%' :: high :: low :: t)

/-- Each byte is written as an unreserved character or as an escape. -/
theorem isPercentEncoded_flatMap_percentByte (bytes : List UInt8) :
    IsPercentEncoded (bytes.flatMap percentByte) := by
  induction bytes with
  | nil => exact .nil
  | cons b bytes ih =>
    rw [List.flatMap_cons, percentByte]
    split
    · rename_i hunreserved
      exact .unreserved hunreserved ih
    · exact .escape (isUpperHexDigit_hexDigit (highDigit_lt b))
        (isUpperHexDigit_hexDigit (lowDigit_lt b)) ih

theorem isPercentEncoded_percent (s : Text) : IsPercentEncoded (percent s) :=
  isPercentEncoded_flatMap_percentByte s.bytes

/-- Nothing but unreserved characters and `%` is written. -/
theorem IsPercentEncoded.isUnreserved_of_mem {t : Text} (h : IsPercentEncoded t) {c : Char}
    (hc : c ∈ t) (hne : c ≠ '%') : isUnreserved c = true := by
  induction h with
  | nil => cases hc
  | unreserved hunreserved _ ih =>
    rcases List.mem_cons.1 hc with rfl | hc
    · exact hunreserved
    · exact ih hc
  | escape hhigh hlow _ ih =>
    rcases List.mem_cons.1 hc with rfl | hc
    · exact absurd rfl hne
    · rcases List.mem_cons.1 hc with rfl | hc
      · exact hhigh.isUnreserved
      · rcases List.mem_cons.1 hc with rfl | hc
        · exact hlow.isUnreserved
        · exact ih hc

/-- A reserved character other than `%` is not written. -/
theorem notMem_percent {c : Char} (hne : c ≠ '%') (h : ¬ isUnreserved c = true) (s : Text) :
    c ∉ percent s :=
  fun hmem => h ((isPercentEncoded_percent s).isUnreserved_of_mem hmem hne)

/-! ### Reading it back -/

/-- A character other than `%` stands for its UTF-8 form. -/
theorem percentDecode_cons_of_ne {c : Char} (h : c ≠ '%') (t : Text) :
    percentDecode (c :: t) = String.utf8EncodeChar c ++ percentDecode t := by
  rw [percentDecode]
  intro high low rest hc
  exact absurd hc h

/-- What is written for a byte is read as that byte. -/
theorem percentDecode_percentByte_append (b : UInt8) (t : Text) :
    percentDecode (percentByte b ++ t) = b :: percentDecode t := by
  rw [percentByte]
  split
  · rename_i hunreserved
    have hne : Char.ofNat b.toNat ≠ '%' := by
      intro heq
      rw [heq] at hunreserved
      exact absurd hunreserved (by decide)
    have hsize := utf8Size_of_isUnreserved hunreserved
    have hbyte : (Char.ofNat b.toNat).toUInt8 = b :=
      UInt8.toNat_inj.1 ((Text.toNat_toUInt8 hsize).trans (toNat_ofNat_byte b))
    rw [List.singleton_append, percentDecode_cons_of_ne hne,
      String.utf8EncodeChar_eq_singleton hsize, List.singleton_append]
    exact congrArg (· :: percentDecode t) hbyte
  · have hvalue : b.toNat / 16 * 16 + b.toNat % 16 = b.toNat := by omega
    simp only [List.cons_append, List.nil_append]
    rw [percentDecode, hexDigitValue?_hexDigit (highDigit_lt b),
      hexDigitValue?_hexDigit (lowDigit_lt b)]
    simp only [hvalue, UInt8.ofNat_toNat]

theorem percentDecode_flatMap_percentByte (bytes : List UInt8) :
    percentDecode (bytes.flatMap percentByte) = bytes := by
  induction bytes with
  | nil => rfl
  | cons b bytes ih => rw [List.flatMap_cons, percentDecode_percentByte_append, ih]

/-- Decoding gives the bytes that were encoded. -/
theorem percentDecode_percent (s : Text) : percentDecode (percent s) = s.bytes :=
  percentDecode_flatMap_percentByte s.bytes

theorem percent_injective : Function.Injective percent := by
  intro s t h
  apply Text.bytes_injective
  rw [← percentDecode_percent s, ← percentDecode_percent t, h]

/-! ### What is kept -/

theorem percent_cons (c : Char) (s : Text) :
    percent (c :: s) = (String.utf8EncodeChar c).flatMap percentByte ++ percent s := by
  rw [percent, Text.bytes_cons, List.flatMap_append]
  rfl

/-- An unreserved character is kept. -/
theorem percent_cons_of_isUnreserved {c : Char} (h : isUnreserved c = true) (s : Text) :
    percent (c :: s) = c :: percent s := by
  have hsize := utf8Size_of_isUnreserved h
  have hchar : Char.ofNat c.toUInt8.toNat = c := by
    rw [Text.toNat_toUInt8 hsize, Char.ofNat_toNat]
  have hbyte : percentByte c.toUInt8 = [c] := by
    rw [percentByte, hchar]
    exact if_pos h
  rw [percent_cons, String.utf8EncodeChar_eq_singleton hsize, List.flatMap_singleton]
  exact congrArg (· ++ percent s) hbyte

/-- Of any other character every byte is escaped. -/
theorem percent_cons_of_not_isUnreserved {c : Char} (h : ¬ isUnreserved c = true) (s : Text) :
    percent (c :: s) = (String.utf8EncodeChar c).flatMap escapeByte ++ percent s := by
  have hbyte : ∀ b ∈ String.utf8EncodeChar c, percentByte b = escapeByte b := by
    intro b hb
    rw [percentByte]
    exact if_neg (mt (isUnreserved_byte_iff hb).1 h)
  rw [percent_cons, List.flatMap_congr hbyte]

/-- An escaped character becomes longer. -/
theorem one_lt_length_escaped (c : Char) :
    1 < ((String.utf8EncodeChar c).flatMap escapeByte).length := by
  cases hbytes : String.utf8EncodeChar c with
  | nil => exact absurd hbytes String.utf8EncodeChar_ne_nil
  | cons b bytes =>
    rw [List.flatMap_cons, List.length_append]
    exact Nat.lt_add_right _ (by decide : 1 < 3)

theorem length_le_length_percent (s : Text) : s.length ≤ (percent s).length := by
  induction s with
  | nil => exact Nat.le_refl 0
  | cons c s ih =>
    by_cases h : isUnreserved c = true
    · rw [percent_cons_of_isUnreserved h, List.length_cons, List.length_cons]
      omega
    · have hlong := one_lt_length_escaped c
      rw [percent_cons_of_not_isUnreserved h, List.length_append, List.length_cons]
      omega

/-- A text is left as it is exactly if nothing in it has to be escaped. -/
theorem percent_eq_self_iff {s : Text} : percent s = s ↔ ∀ c ∈ s, isUnreserved c = true := by
  induction s with
  | nil => simp
  | cons c s ih =>
    rw [List.forall_mem_cons]
    by_cases h : isUnreserved c = true
    · rw [percent_cons_of_isUnreserved h, List.cons_inj_right, ih, and_iff_right h]
    · refine iff_of_false ?_ fun hall => h hall.1
      intro heq
      have hlength : (percent (c :: s)).length = s.length + 1 := congrArg List.length heq
      have hlong := one_lt_length_escaped c
      have hrest := length_le_length_percent s
      rw [percent_cons_of_not_isUnreserved h, List.length_append] at hlength
      omega

/-- **Percent encoding is safe and reversible.**  What is written consists of ASCII letters, digits,
`-`, `.`, `_` and `~` and of escapes with upper-case digits, so none of the characters that delimit
the parts of a template is in it.  Decoding it gives the bytes of the text, so different texts have
different encodings.  Texts are encoded piece by piece, and a text is its own encoding exactly if
all its characters are unreserved. -/
theorem percent_safe_and_reversible (s t : Text) :
    (∀ c, isUnreserved c = true ↔ ('A' ≤ c ∧ c ≤ 'Z') ∨ ('a' ≤ c ∧ c ≤ 'z') ∨
      ('0' ≤ c ∧ c ≤ '9') ∨ c ∈ ['-', '.', '_', '~']) ∧
    IsPercentEncoded (percent s) ∧
    ('{' ∉ percent s ∧ '}' ∉ percent s ∧ '|' ∉ percent s ∧ ',' ∉ percent s) ∧
    percentDecode (percent s) = s.bytes ∧
    (percent s = percent t ↔ s = t) ∧
    percent (s ++ t) = percent s ++ percent t ∧
    (percent s = s ↔ ∀ c ∈ s, isUnreserved c = true) := by
  refine ⟨fun c => isUnreserved_eq_true_iff, isPercentEncoded_percent s, ⟨?_, ?_, ?_, ?_⟩,
    percentDecode_percent s, percent_injective.eq_iff, percent_append s t, percent_eq_self_iff⟩
  all_goals exact notMem_percent (by decide) (by decide) s

/-- Characters of several bytes, a literal `%` and a text that looks encoded. -/
example : percent "é%2f ~".toList = "%C3%A9%252f%20~".toList := by decide +kernel

end LinkTemplate.Encoder
