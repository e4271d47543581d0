import LinkTemplate.Json.Read
import LinkTemplate.Proofs.Number.Range
/-!
# Scaling a significand

A number of a document is a significand of 64 bits and a power of ten.  Both are rounded
to binary values before they are multiplied, so whether the number is in the range of the
format is a question about the product of two rounded numbers (`Json.Fits`).  Nothing else
can go wrong: a negative power is divided by, which stays in the range in however many
steps it is done, and zero can be scaled by any power.
-/

namespace LinkTemplate.Json

/-- A significand can be scaled by a power of ten: the product of their binary values is below the
bound of the format. -/
def Fits (m : Nat) (e : Int) : Prop :=
  m = 0 ∨ ∃ x y, Magnitude.ofRatio? m 1 = some x ∧ Magnitude.powerOfTen? e.toNat = some y ∧
    x.value * y.value < Magnitude.overflow

/-- Scaling down stays in the range, in however many steps. -/
theorem exists_scaleDecimal_of_neg {x : Magnitude} (hx : x.value < Magnitude.overflow) {e : Int}
    (he : e < 0) : ∃ z, scaleDecimal x e = some z := by
  generalize hsize : e.natAbs = size
  induction size using Nat.strong_induction_on generalizing x e with
  | h size ih =>
    rw [scaleDecimal]
    by_cases hstep : e.natAbs ≤ 308
    · obtain ⟨y, hy, hone⟩ := Magnitude.exists_powerOfTen? hstep
      obtain ⟨q, hq, -⟩ := Magnitude.exists_div?_eq_some hx hone
      rw [if_pos hstep, hy, Option.bind_eq_bind, Option.bind_some, if_neg he.not_ge]
      exact ⟨q, hq⟩
    · rw [if_neg hstep]
      by_cases hmantissa : x.mantissa = 0
      · exact ⟨x, by rw [if_pos hmantissa]⟩
      · obtain ⟨y, hy, hone⟩ := Magnitude.exists_powerOfTen? (le_refl 308)
        obtain ⟨q, hq, hlt⟩ := Magnitude.exists_div?_eq_some hx hone
        have hnext : ∃ z, scaleDecimal q (e + 308) = some z :=
          ih (e + 308).natAbs (by omega) hlt (by omega) rfl
        rw [if_neg hmantissa, if_neg he.not_ge, hy, Option.bind_eq_bind, Option.bind_some, hq,
          Option.bind_some]
        exact hnext

/-- Scaling up is one multiplication; a value that is not zero cannot be scaled by a power that is
too large. -/
theorem scaleDecimal_of_nonneg {x : Magnitude} (hx : x.mantissa ≠ 0) {e : Int} (he : 0 ≤ e) :
    scaleDecimal x e = (Magnitude.powerOfTen? e.toNat).bind x.mul? := by
  have habs : e.natAbs = e.toNat := by omega
  rw [scaleDecimal, habs]
  by_cases hstep : e.toNat ≤ 308
  · obtain ⟨y, hy, -⟩ := Magnitude.exists_powerOfTen? hstep
    rw [if_pos hstep, hy, Option.bind_eq_bind, Option.bind_some, Option.bind_some, if_pos he]
  · have hnone : Magnitude.powerOfTen? e.toNat = none :=
      (Magnitude.powerOfTen?_eq_none_iff _).2 (not_le.1 hstep)
    rw [if_neg hstep, if_neg hx, if_pos he, hnone]
    rfl

/-- A significand of 64 bits has a binary value. -/
theorem exists_ofRatio?_of_lt {m : Nat} (hm : m < 2 ^ 64) :
    ∃ x, Magnitude.ofRatio? m 1 = some x ∧ x.value < Magnitude.overflow := by
  have hbound : ((m : ℚ) / (1 : Nat)) < Magnitude.overflow := by
    have hmq : (m : ℚ) < 2 ^ (64 : Int) := by exact_mod_cast hm
    rw [Nat.cast_one, div_one]
    exact hmq.trans (Magnitude.two_zpow_lt_overflow (by decide))
  cases hx : Magnitude.ofRatio? m 1 with
  | none => exact absurd ((Magnitude.ofRatio?_eq_none_iff Nat.one_pos).1 hx) hbound.not_ge
  | some x => exact ⟨x, rfl, Magnitude.value_lt_overflow Nat.one_pos hx⟩

/-- Zero can be scaled by any power. -/
theorem exists_scaleDecimal_of_zero {x : Magnitude} (hx : x.mantissa = 0) (e : Int) :
    ∃ z, scaleDecimal x e = some z := by
  have hvalue : x.value = 0 := by rw [Magnitude.value, hx, Nat.cast_zero, zero_mul]
  by_cases he : e < 0
  · exact exists_scaleDecimal_of_neg (hvalue.trans_lt Magnitude.overflow_pos) he
  rw [scaleDecimal]
  by_cases hstep : e.natAbs ≤ 308
  · obtain ⟨y, hy, -⟩ := Magnitude.exists_powerOfTen? hstep
    rw [if_pos hstep, hy, Option.bind_eq_bind, Option.bind_some, if_pos (not_lt.1 he)]
    cases hz : x.mul? y with
    | none =>
      rw [Magnitude.mul?_eq_none_iff, hvalue, zero_mul] at hz
      exact absurd hz Magnitude.overflow_pos.not_ge
    | some z => exact ⟨z, rfl⟩
  · exact ⟨x, by rw [if_neg hstep, if_pos hx]⟩

/-- A significand of 64 bits can be scaled down. -/
theorem fits_of_nonpos {m : Nat} (hm : m < 2 ^ 64) {e : Int} (he : e ≤ 0) : Fits m e := by
  obtain ⟨x, hx, hrange⟩ := exists_ofRatio?_of_lt hm
  -- the power zero is one
  have hpower : Magnitude.powerOfTen? e.toNat = some ⟨2 ^ 52, -52⟩ := by
    rw [Int.toNat_of_nonpos he]
    decide +kernel
  have hunit : (⟨2 ^ 52, -52⟩ : Magnitude).value = 1 := by norm_num [Magnitude.value]
  refine .inr ⟨x, _, hx, hpower, ?_⟩
  rw [hunit, mul_one]
  exact hrange

/-- The two roundings cannot carry a product out of the range that is a little below the bound. -/
theorem fits_of_le {m : Nat} (hm : m < 2 ^ 64) {e : Int}
    (hle : (m : ℚ) * 10 ^ e ≤ (1 - 1 / 2 ^ 50) * 2 ^ 1024) : Fits m e := by
  rcases Int.le_total e 0 with he | he
  · exact fits_of_nonpos hm he
  rcases Nat.eq_zero_or_pos m with rfl | hpos
  · exact .inl rfl
  obtain ⟨k, rfl⟩ := Int.eq_ofNat_of_zero_le he
  obtain ⟨x, hx, -⟩ := exists_ofRatio?_of_lt hm
  have hone : ∀ {n : Nat}, 0 < n → (1 : ℚ) ≤ (n : ℚ) / (1 : Nat) := by
    intro n hn
    rw [Nat.cast_one, div_one]
    exact_mod_cast hn
  have hpower : 0 < 10 ^ k := Nat.pow_pos (by decide)
  have hoverflow : Magnitude.overflow = (1 - 1 / 2 ^ 54) * 2 ^ 1024 := by
    have hsplit : (2 : ℚ) ^ 1024 = 2 ^ 54 * 2 ^ 970 := pow_add 2 54 970
    rw [Magnitude.overflow, hsplit]
    generalize (2 : ℚ) ^ 970 = unit
    ring
  have hbound : (0 : ℚ) < 2 ^ 1024 := pow_pos two_pos 1024
  generalize (2 : ℚ) ^ 1024 = bound at hle hoverflow hbound
  rw [zpow_natCast] at hle
  have hten : (10 : ℚ) ^ k ≤ m * 10 ^ k :=
    le_mul_of_one_le_left (by positivity) (by exact_mod_cast hpos)
  cases hy : Magnitude.powerOfTen? k with
  | none =>
    have hlarge := (Magnitude.ofRatio?_eq_none_iff Nat.one_pos).1 hy
    rw [Nat.pow_eq, Nat.cast_one, div_one, Nat.cast_pow, hoverflow] at hlarge
    push_cast at hlarge
    linarith
  | some y =>
    have hxle := Magnitude.value_le_of_one_le Nat.one_pos (hone hpos) hx
    have hyle := Magnitude.value_le_of_one_le Nat.one_pos (hone hpower) hy
    rw [Nat.cast_one, div_one] at hxle hyle
    rw [Nat.cast_pow, Nat.cast_ofNat] at hyle
    have hy0 : 0 ≤ y.value :=
      zero_le_one.trans (Magnitude.one_le_value Nat.one_pos (hone hpower) hy)
    refine .inr ⟨x, y, hx, hy, ?_⟩
    calc x.value * y.value
        ≤ m * (1 + 1 / 2 ^ 52) * (10 ^ k * (1 + 1 / 2 ^ 52)) := by gcongr
      _ = m * 10 ^ k * (1 + 1 / 2 ^ 52) ^ 2 := by ring
      _ ≤ (1 - 1 / 2 ^ 50) * bound * (1 + 1 / 2 ^ 52) ^ 2 := by gcongr
      _ < Magnitude.overflow := by
        rw [hoverflow]
        linarith

/-- A significand of 64 bits is scaled exactly if it can be. -/
theorem exists_scaleDecimal_iff_fits {m : Nat} (hm : m < 2 ^ 64) (e : Int) :
    (∃ z, (Magnitude.ofRatio? m 1).bind (scaleDecimal · e) = some z) ↔ Fits m e := by
  obtain ⟨x, hx, hrange⟩ := exists_ofRatio?_of_lt hm
  rw [hx, Option.bind_some]
  rcases lt_or_ge e 0 with he | he
  · exact iff_of_true (exists_scaleDecimal_of_neg hrange he) (fits_of_nonpos hm he.le)
  rcases Nat.eq_zero_or_pos m with rfl | hpos
  · cases hx
    exact iff_of_true (exists_scaleDecimal_of_zero rfl e) (.inl rfl)
  have hone : 1 ≤ x.value := by
    refine Magnitude.one_le_value Nat.one_pos ?_ hx
    rw [Nat.cast_one, div_one]
    exact_mod_cast hpos
  have hmantissa : x.mantissa ≠ 0 := by
    intro hzero
    rw [Magnitude.value, hzero, Nat.cast_zero, zero_mul] at hone
    exact absurd hone (by norm_num)
  rw [scaleDecimal_of_nonneg hmantissa he]
  cases hy : Magnitude.powerOfTen? e.toNat with
  | none => simp [Fits, hpos.ne', hy]
  | some y =>
    have hproduct : (∃ z, x.mul? y = some z) ↔ x.value * y.value < Magnitude.overflow := by
      rw [← not_le, ← Magnitude.mul?_eq_none_iff, ← Option.ne_none_iff_exists']
    rw [Option.bind_some, hproduct]
    simp [Fits, hpos.ne', hx, hy]

/-- A significand of 64 bits is read with its power of ten exactly if it can be scaled. -/
theorem exists_realOfParts_iff (negative : Bool) {m : Nat} (hm : m < 2 ^ 64) (e : Int) :
    (∃ n, realOfParts negative m e = .ok n) ↔ Fits m e := by
  rw [← exists_scaleDecimal_iff_fits hm, realOfParts]
  cases (Magnitude.ofRatio? m 1).bind (scaleDecimal · e) <;> simp

/-- What cannot be scaled is malformed. -/
theorem eq_malformed_of_realOfParts {negative : Bool} {m : Nat} {e : Int} {fault : JsonFault}
    (h : realOfParts negative m e = .error fault) : fault = .malformed := by
  unfold realOfParts at h
  split at h
  · cases h
  · exact (Except.error.inj h).symm

end LinkTemplate.Json
