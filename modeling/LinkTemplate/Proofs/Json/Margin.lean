import LinkTemplate.Proofs.Json.Literal
/-!
# How near the bound a literal is refused

The significand of a literal is never larger than the digits that it is taken from, so the
two roundings are all that can carry a literal out of the range.  They make it larger by
less than a part in `2 ^ 51`.  So every literal is taken whose exact value is at most
`(1 - 1 / 2 ^ 50) * 2 ^ 1024`, unless its exponent is beyond those that are taken at their
value (`Literal.inRange_of_abs_value_le`).

One case needs care.  If digits in front of the point were dropped, the first digit behind
it may still fit 64 bits and is then taken in the place of a dropped one.  The dropped digit
did not fit, so it is larger.
-/

namespace LinkTemplate.Json

/-! ### Digits that are dropped -/

section Digits

variable {n : Nat}

theorem ofDigitChars_mono (ds : Text) {m n : Nat} (h : m ≤ n) :
    Nat.ofDigitChars 10 ds m ≤ Nat.ofDigitChars 10 ds n := by
  induction ds generalizing m n with
  | nil => exact h
  | cons c ds ih =>
    rw [ofDigitChars_cons_eq, ofDigitChars_cons_eq]
    exact ih (by omega)

theorem takeDigits_snd_le (ds : Text) (n : Nat) : (takeDigits n ds).2 ≤ ds.length := by
  induction ds generalizing n with
  | nil => exact Nat.zero_le _
  | cons c ds ih =>
    by_cases hlt : n * 10 + digitValue c < 2 ^ 64
    · rw [takeDigits_cons_of_lt hlt]
      exact Nat.succ_le_succ (ih _)
    · rw [takeDigits_cons_of_not_lt hlt]
      exact Nat.zero_le _

/-- Without digits nothing is appended. -/
theorem takeDigits_fst_of_snd_eq_zero {ds : Text} (h : (takeDigits n ds).2 = 0) :
    (takeDigits n ds).1 = n := by
  cases ds with
  | nil => rfl
  | cons c ds =>
    by_cases hlt : n * 10 + digitValue c < 2 ^ 64
    · rw [takeDigits_cons_of_lt hlt] at h
      cases h
    · rw [takeDigits_cons_of_not_lt hlt]

/-- Zeros in the places of the digits that are dropped make no larger number. -/
theorem takeDigits_mul_pow_le (ds : Text) (n : Nat) :
    (takeDigits n ds).1 * 10 ^ (ds.length - (takeDigits n ds).2) ≤ Nat.ofDigitChars 10 ds n := by
  induction ds generalizing n with
  | nil => simp [takeDigits]
  | cons c ds ih =>
    by_cases hlt : n * 10 + digitValue c < 2 ^ 64
    · rw [takeDigits_cons_of_lt hlt, ofDigitChars_cons_eq, List.length_cons,
        Nat.add_sub_add_right]
      exact ih _
    · rw [takeDigits_cons_of_not_lt hlt]
      exact mul_pow_le_ofDigitChars (c :: ds) n

/-- If digits are dropped, a number of 64 bits in the place of the first of them is not larger than
the number. -/
theorem mul_pow_le_of_takeDigits_lt {m : Nat} (hm : m < 2 ^ 64) {ds : Text}
    (h : (takeDigits n ds).2 < ds.length) :
    m * 10 ^ (ds.length - (takeDigits n ds).2 - 1) ≤ Nat.ofDigitChars 10 ds n := by
  induction ds generalizing n with
  | nil => cases h
  | cons c ds ih =>
    by_cases hlt : n * 10 + digitValue c < 2 ^ 64
    · rw [takeDigits_cons_of_lt hlt, List.length_cons] at h ⊢
      rw [ofDigitChars_cons_eq, Nat.add_sub_add_right]
      exact ih (Nat.lt_of_succ_lt_succ h)
    · rw [takeDigits_cons_of_not_lt hlt, ofDigitChars_cons_eq, List.length_cons]
      have hle : m ≤ n * 10 + digitValue c := by omega
      exact (Nat.mul_le_mul_right _ hle).trans (mul_pow_le_ofDigitChars ds _)

end Digits

/-! ### The significand and the exact value -/

namespace Literal

/-- With digits behind the point, the significand in its place is not larger than all digits. -/
theorem significand_mul_pow_le {l : Literal} {ds : Digits} (hds : l.fraction? = some ds)
    {taken : Nat} (htaken : (takeDigits (takeDigits 0 l.whole.text).1 ds.text).2 = taken) :
    l.significand * 10 ^ (l.dropped + (ds.text.length - taken)) ≤
      Nat.ofDigitChars 10 (l.whole.text ++ ds.text) 0 := by
  have hsignificand : l.significand = (takeDigits (takeDigits 0 l.whole.text).1 ds.text).1 := by
    rw [significand, hds]
  have hwhole : (takeDigits 0 l.whole.text).1 * 10 ^ l.dropped ≤
      Nat.ofDigitChars 10 l.whole.text 0 := takeDigits_mul_pow_le l.whole.text 0
  have happend := mul_pow_le_ofDigitChars ds.text (Nat.ofDigitChars 10 l.whole.text 0)
  rw [Nat.ofDigitChars_append]
  by_cases hdropped : l.dropped = 0
  · -- no digit in front of the point is dropped
    rw [hdropped, Nat.pow_zero, Nat.mul_one] at hwhole
    have hfraction := takeDigits_mul_pow_le ds.text (takeDigits 0 l.whole.text).1
    rw [htaken, ← hsignificand] at hfraction
    rw [hdropped, Nat.zero_add]
    exact hfraction.trans (ofDigitChars_mono ds.text hwhole)
  rcases Nat.eq_zero_or_pos taken with rfl | hpos
  · -- no digit behind the point is taken
    rw [hsignificand, takeDigits_fst_of_snd_eq_zero htaken, Nat.sub_zero, Nat.pow_add,
      ← Nat.mul_assoc]
    exact (Nat.mul_le_mul_right _ hwhole).trans happend
  · -- the first digit behind the point takes the place of one that is dropped
    have hshort : (takeDigits 0 l.whole.text).2 < l.whole.text.length := by
      have hcount : l.dropped = l.whole.text.length - (takeDigits 0 l.whole.text).2 := rfl
      omega
    have hplace : l.significand * 10 ^ (l.dropped - 1) ≤ Nat.ofDigitChars 10 l.whole.text 0 :=
      mul_pow_le_of_takeDigits_lt l.significand_lt hshort
    have htakenle : taken ≤ ds.text.length := htaken ▸ takeDigits_snd_le ds.text _
    have hexponent : l.dropped + (ds.text.length - taken) ≤ l.dropped - 1 + ds.text.length := by
      omega
    calc l.significand * 10 ^ (l.dropped + (ds.text.length - taken))
        ≤ l.significand * 10 ^ (l.dropped - 1 + ds.text.length) :=
          Nat.mul_le_mul_left _ (Nat.pow_le_pow_right (by decide) hexponent)
      _ = l.significand * 10 ^ (l.dropped - 1) * 10 ^ ds.text.length := by
          rw [Nat.pow_add, Nat.mul_assoc]
      _ ≤ Nat.ofDigitChars 10 l.whole.text 0 * 10 ^ ds.text.length :=
          Nat.mul_le_mul_right _ hplace
      _ ≤ Nat.ofDigitChars 10 ds.text (Nat.ofDigitChars 10 l.whole.text 0) := happend

/-- The significand in its place is not larger than all digits. -/
theorem exists_significand_mul_pow_le (l : Literal) :
    ∃ place : Nat, l.shift = place - l.places ∧ l.significand * 10 ^ place ≤ l.digits := by
  unfold places digits
  cases hds : l.fraction? with
  | none =>
    refine ⟨l.dropped, ?_, ?_⟩
    · rw [shift, hds]
      exact (Int.sub_zero _).symm
    · rw [significand, hds, Option.elim_none, List.append_nil]
      exact takeDigits_mul_pow_le l.whole.text 0
  | some ds =>
    have hcount := takeDigits_snd_le ds.text (takeDigits 0 l.whole.text).1
    refine ⟨_, ?_, significand_mul_pow_le hds rfl⟩
    rw [shift, hds, Option.elim_some]
    dsimp only
    omega

/-- The significand with its power of ten is not larger than the exact value. -/
theorem significand_mul_zpow_le_abs_value (l : Literal) :
    (l.significand : ℚ) * 10 ^ (l.shift + l.exponent?.elim 0 Exponent.value) ≤ |l.value| := by
  obtain ⟨place, hshift, hle⟩ := l.exists_significand_mul_pow_le
  have hleq : (l.significand : ℚ) * 10 ^ place ≤ l.digits := by exact_mod_cast hle
  have hsign : |(if l.negative then -1 else 1 : ℚ)| = 1 := by
    split_ifs
    · rw [abs_neg, abs_one]
    · exact abs_one
  have hpower : (10 : ℚ) ^ (l.shift + l.exponent?.elim 0 Exponent.value) =
      10 ^ place * 10 ^ (l.exponent?.elim 0 Exponent.value - l.places) := by
    rw [← zpow_natCast, ← zpow_add₀ (by norm_num), hshift]
    congr 1
    ring
  rw [value, abs_mul, abs_mul, hsign, one_mul, Nat.abs_cast, abs_of_pos (by positivity), hpower,
    ← mul_assoc]
  gcongr

/-- **Literals below the bound are taken.**  Unless its exponent is too large to be taken at its
value, a literal is in the range if its magnitude is at least a part in `2 ^ 50` below
`2 ^ 1024`. -/
theorem inRange_of_abs_value_le {l : Literal}
    (hexponent : ∀ e, l.exponent? = some e → e.digits.value ≤ Json.maxExponent)
    (hvalue : |l.value| ≤ (1 - 1 / 2 ^ 50) * 2 ^ 1024) : l.InRange := by
  have hle := l.significand_mul_zpow_le_abs_value.trans hvalue
  unfold InRange
  cases he : l.exponent? with
  | none =>
    rw [he, Option.elim_none, add_zero] at hle
    exact fits_of_le l.significand_lt hle
  | some e =>
    rw [he, Option.elim_some] at hle
    dsimp only
    rw [if_neg (hexponent e he).not_gt]
    exact fits_of_le l.significand_lt hle

end Literal

end LinkTemplate.Json
