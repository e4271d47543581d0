import LinkTemplate.Number
import LinkTemplate.Proofs.Number.Range
import LinkTemplate.Proofs.Text
/-!
# Shortest text of large values

A value is written with at most 17 significant digits, in positional notation.  So a value
of 19 digits or more ends with zeros: its last two digits are not looked at.
-/

namespace LinkTemplate

namespace Decimal

/-- The number that digits and an exponent stand for. -/
def value (x : Decimal) : ℚ := x.digits * 10 ^ x.exponent

/-- Zeros are moved into the exponent, never out of it. -/
theorem exponent_le_stripZeros (fuel : Nat) (x : Decimal) :
    x.exponent ≤ (stripZeros fuel x).exponent := by
  induction fuel generalizing x with
  | zero => exact le_rfl
  | succ fuel ih =>
    rw [stripZeros]
    split_ifs
    · have hnext := ih ⟨x.digits / 10, x.exponent + 1⟩
      dsimp only at hnext
      omega
    · exact le_rfl

theorem exponent_le_normalize (x : Decimal) : x.exponent ≤ x.normalize.exponent :=
  exponent_le_stripZeros _ x

/-- A decimal without digits behind the point is written like the number that it stands for. -/
theorem positional_eq_ofNat_iff {x : Decimal} (hx : 0 ≤ x.exponent) {n : Nat} (hn : n ≠ 0) :
    x.positional = Text.ofNat n ↔ x.value = n := by
  obtain ⟨digits, exponent⟩ := x
  obtain ⟨zeros, rfl⟩ := Int.eq_ofNat_of_zero_le hx
  have htext : (⟨digits, zeros⟩ : Decimal).positional =
      Text.ofNat digits ++ List.replicate zeros '0' := rfl
  have hvalue : (⟨digits, zeros⟩ : Decimal).value = ((digits * 10 ^ zeros : Nat) : ℚ) := by
    rw [value, zpow_natCast, Nat.cast_mul, Nat.cast_pow]
    rfl
  rw [htext, hvalue, Nat.cast_inj]
  by_cases hdigits : digits = 0
  · -- zero is the only number whose text begins with a zero
    subst hdigits
    have hzero : Text.ofNat 0 = ['0'] := rfl
    refine iff_of_false (fun h => ?_) (by rw [Nat.zero_mul]; exact hn.symm)
    rw [hzero, List.singleton_append] at h
    have hnil := Text.eq_nil_of_ofNat_eq_cons h.symm
    rw [hnil, ← hzero, Text.ofNat_inj] at h
    exact hn h.symm
  · rw [Text.ofNat_append_zeros hdigits, Text.ofNat_inj]

end Decimal

namespace Magnitude

/-- A candidate is a multiple of the power of ten that it was looked for among. -/
theorem exponent_of_candidate? {x : Magnitude} {k : Int} {c : Decimal}
    (h : x.candidate? k = some c) : c.exponent = k := by
  unfold candidate? at h
  dsimp only at h
  split at h
  · cases h
    rfl
  · cases h
    rfl
  · cases h
    rfl
  · cases h

/-- A number of 19 digits has a leading digit with at least 18 digits behind it. -/
theorem le_leadingExponent {n d : Nat} (hd : 0 < d) (h : 10 ^ 18 * d ≤ n) :
    18 ≤ leadingExponent n d := by
  have hle : d ≤ n := (Nat.le_mul_of_pos_left d (by decide)).trans h
  have hquotient : 10 ^ 18 ≤ n / d := (Nat.le_div_iff_mul_le hd).2 h
  have hlength : ¬ (Nat.toDigits 10 (n / d)).length ≤ 18 := by
    rw [Nat.length_toDigits_le_iff (by decide) (by decide)]
    exact hquotient.not_gt
  rw [leadingExponent, if_pos hle]
  omega

/-- The shortest decimal of a value of 19 digits is zero or a multiple of a hundred. -/
theorem exponent_shortest {x : Magnitude} (hx : 10 ^ 18 ≤ x.value) :
    x.shortest = ⟨0, 0⟩ ∨ 2 ≤ x.shortest.exponent := by
  have hmantissa : x.mantissa ≠ 0 := by
    intro hzero
    rw [value, hzero, Nat.cast_zero, zero_mul] at hx
    exact absurd hx (by norm_num)
  have hlead : 18 ≤ leadingExponent x.toRatio.1 x.toRatio.2 := by
    have hpos : (0 : ℚ) < x.toRatio.2 := by exact_mod_cast x.toRatio_snd_pos
    refine le_leadingExponent x.toRatio_snd_pos ?_
    rw [← toRatio_div, le_div_iff₀ hpos] at hx
    exact_mod_cast hx
  rw [shortest, if_neg hmantissa]
  dsimp only
  cases hfound : (List.range 17).findSome? fun (extra : Nat) =>
      x.candidate? (leadingExponent x.toRatio.1 x.toRatio.2 - extra) with
  | none => exact .inl rfl
  | some c =>
    right
    obtain ⟨extra, hextra, hc⟩ := List.exists_of_findSome?_eq_some hfound
    have hlt : extra < 17 := List.mem_range.1 hextra
    have hexponent := exponent_of_candidate? hc
    have hnormal := c.exponent_le_normalize
    rw [Option.getD_some]
    omega

end Magnitude

end LinkTemplate
