import LinkTemplate.Number
import Mathlib.Algebra.Order.Field.Power
import Mathlib.Algebra.Order.Field.Rat
import Mathlib.Data.Nat.Cast.Order.Field
import Mathlib.Tactic.FieldSimp
import Mathlib.Tactic.GCongr
import Mathlib.Tactic.Linarith
import Mathlib.Tactic.NormNum
import Mathlib.Tactic.Positivity
import Mathlib.Tactic.Ring
/-!
# The range of the binary format

A fraction is rounded to a value of the format unless it is too large.  The bound is
half way between the largest value and `2 ^ 1024`, the next number on its grid, and the
bound itself is too large, since the mantissa of the largest value is odd
(`Magnitude.ofRatio?_eq_none_iff`).  The reason is that the grid is chosen so that the
fraction takes exactly 53 bits on it (`Magnitude.normalExponent_spec`), so only a
fraction on the coarsest grid can be rounded off the grid.

A product is too large if the product of the values is, and a quotient by a value that
is at least one is never too large.
-/

namespace LinkTemplate

/-! ### Rounding to a natural number -/

/-- A number is rounded to one of its neighbours. -/
theorem roundHalfEven_bounds (n d : Nat) :
    n / d ≤ roundHalfEven n d ∧ roundHalfEven n d ≤ n / d + 1 := by
  unfold roundHalfEven
  dsimp only
  split_ifs <;> omega

/-- Half way between an odd number and the next one is rounded up. -/
theorem succ_le_roundHalfEven_iff {n d k : Nat} (hd : 0 < d) (hodd : k % 2 = 1) :
    k + 1 ≤ roundHalfEven n d ↔ (2 * k + 1) * d ≤ 2 * n := by
  have hdiv : d * (n / d) + n % d = n := Nat.div_add_mod n d
  have hmod : n % d < d := Nat.mod_lt n hd
  have hsum : (2 * k + 1) * d = 2 * (d * k) + d := by ring
  rw [hsum]
  rcases Nat.lt_trichotomy (n / d) k with hlt | heq | hgt
  · -- the number is at most `k`, so it is rounded to at most `k`
    have hmul : d * (n / d + 1) ≤ d * k := Nat.mul_le_mul_left d hlt
    rw [Nat.mul_succ] at hmul
    have hround := (roundHalfEven_bounds n d).2
    omega
  · have hround : k + 1 ≤ roundHalfEven n d ↔ d ≤ 2 * (n % d) := by
      unfold roundHalfEven
      dsimp only
      rw [heq]
      split_ifs <;> omega
    rw [hround, ← heq]
    omega
  · have hmul : d * (k + 1) ≤ d * (n / d) := Nat.mul_le_mul_left d hgt
    rw [Nat.mul_succ] at hmul
    have hround := (roundHalfEven_bounds n d).1
    omega

namespace Magnitude

/-! ### Scaling -/

/-- The number that a mantissa and an exponent stand for. -/
def value (x : Magnitude) : ℚ := x.mantissa * 2 ^ x.exponent

/-- The largest value. -/
def largest : Magnitude := ⟨2 ^ 53 - 1, maxExponent⟩

/-- Half way between the largest value and the next number on its grid. -/
def overflow : ℚ := 2 ^ 1024 - 2 ^ 970

theorem scale_snd_pos {n d : Nat} (hd : 0 < d) (e : Int) : 0 < (scale n d e).2 := by
  unfold scale
  cases e with
  | ofNat k => exact Nat.mul_pos hd (Nat.pow_pos Nat.two_pos)
  | negSucc k => exact hd

/-- Scaling is division by a power of two. -/
theorem scale_div (n d : Nat) (e : Int) :
    ((scale n d e).1 : ℚ) / (scale n d e).2 = n / d * 2 ^ (-e) := by
  unfold scale
  cases e with
  | ofNat k =>
    have hpow : (2 : ℚ) ^ (-(Int.ofNat k)) = (2 ^ k)⁻¹ := by
      rw [Int.ofNat_eq_natCast, zpow_neg, zpow_natCast]
    simp only [Nat.pow_eq]
    rw [hpow]
    push_cast
    rw [← div_eq_mul_inv, div_div]
  | negSucc k =>
    have hpow : (2 : ℚ) ^ (-(Int.negSucc k)) = 2 ^ (k + 1) := by
      rw [Int.neg_negSucc, ← zpow_natCast]
    simp only [Nat.pow_eq]
    rw [hpow]
    push_cast
    ring

/-- Whole units of a scaled fraction are counted by division. -/
theorem scale_div_lt_iff {n d : Nat} (hd : 0 < d) (e : Int) (k : Nat) :
    (scale n d e).1 / (scale n d e).2 < k ↔ (n / d : ℚ) * 2 ^ (-e) < k := by
  have hpos : 0 < (scale n d e).2 := scale_snd_pos hd e
  have hposq : (0 : ℚ) < (scale n d e).2 := by exact_mod_cast hpos
  rw [← scale_div, Nat.div_lt_iff_lt_mul hpos, div_lt_iff₀ hposq]
  norm_cast

/-! ### The grid of a fraction -/

theorem two_zpow_pos (e : Int) : (0 : ℚ) < 2 ^ e := zpow_pos two_pos e

theorem two_zpow_mul {a b c : Int} (h : a + b = c) : (2 : ℚ) ^ a * 2 ^ b = 2 ^ c := by
  rw [← zpow_add₀ two_ne_zero, h]

/-- A bound in units of a grid is a bound of the number. -/
theorem le_mul_two_zpow_neg_iff {c q : ℚ} {e : Int} : c ≤ q * 2 ^ (-e) ↔ c * 2 ^ e ≤ q := by
  rw [zpow_neg, ← div_eq_mul_inv, le_div_iff₀ (two_zpow_pos e)]

/-- The binary logarithms of numerator and denominator give a lower bound of a fraction. -/
theorem two_zpow_le_div {n d : Nat} (hn : 0 < n) (hd : 0 < d) :
    (2 : ℚ) ^ ((n.log2 : Int) - d.log2 - 1) ≤ n / d := by
  have hdq : (0 : ℚ) < d := by exact_mod_cast hd
  have hnlow : (2 : ℚ) ^ n.log2 ≤ n := by exact_mod_cast Nat.log2_self_le hn.ne'
  have hdhigh : (d : ℚ) < 2 ^ (d.log2 + 1) := by exact_mod_cast Nat.lt_log2_self
  rw [le_div_iff₀ hdq]
  calc (2 : ℚ) ^ ((n.log2 : Int) - d.log2 - 1) * d
      ≤ 2 ^ ((n.log2 : Int) - d.log2 - 1) * 2 ^ ((d.log2 + 1 : Nat) : Int) := by
        rw [zpow_natCast]
        gcongr
    _ = 2 ^ n.log2 := by
        rw [← zpow_natCast]
        exact two_zpow_mul (by push_cast; ring)
    _ ≤ n := hnlow

/-- The binary logarithms of numerator and denominator give an upper bound of a fraction. -/
theorem div_lt_two_zpow {n d : Nat} (hd : 0 < d) :
    (n / d : ℚ) < 2 ^ ((n.log2 : Int) - d.log2 + 1) := by
  have hdq : (0 : ℚ) < d := by exact_mod_cast hd
  have hnhigh : (n : ℚ) < 2 ^ (n.log2 + 1) := by exact_mod_cast Nat.lt_log2_self
  have hdlow : (2 : ℚ) ^ d.log2 ≤ d := by exact_mod_cast Nat.log2_self_le hd.ne'
  rw [div_lt_iff₀ hdq]
  calc (n : ℚ) < 2 ^ (n.log2 + 1) := hnhigh
    _ = 2 ^ ((n.log2 : Int) - d.log2 + 1) * 2 ^ (d.log2 : Int) := by
        rw [← zpow_natCast]
        exact (two_zpow_mul (by push_cast; ring)).symm
    _ ≤ 2 ^ ((n.log2 : Int) - d.log2 + 1) * d := by
        rw [zpow_natCast]
        gcongr

/-- The exponent that the binary logarithms suggest; it is right, or one too large. -/
def guessedExponent (n d : Nat) : Int := (n.log2 : Int) - d.log2 - 52

theorem normalExponent_eq (n d : Nat) : normalExponent n d =
    if (scale n d (guessedExponent n d)).1 / (scale n d (guessedExponent n d)).2 < 2 ^ 52 then
      guessedExponent n d - 1 else guessedExponent n d := rfl

/-- On its normal grid a fraction takes 53 bits. -/
theorem normalExponent_spec {n d : Nat} (hn : 0 < n) (hd : 0 < d) :
    (2 : ℚ) ^ 52 ≤ n / d * 2 ^ (-normalExponent n d) ∧
      (n / d : ℚ) * 2 ^ (-normalExponent n d) < 2 ^ 53 := by
  have hsplit := scale_div_lt_iff (n := n) hd (guessedExponent n d) (2 ^ 52)
  have hlow := mul_le_mul_of_nonneg_right (two_zpow_le_div hn hd)
    (two_zpow_pos (-guessedExponent n d)).le
  have hhigh := mul_lt_mul_of_pos_right (div_lt_two_zpow (n := n) hd)
    (two_zpow_pos (-guessedExponent n d))
  rw [two_zpow_mul (c := 51) (by rw [guessedExponent]; ring), zpow_ofNat] at hlow
  rw [two_zpow_mul (c := 53) (by rw [guessedExponent]; ring), zpow_ofNat] at hhigh
  rw [Nat.cast_pow, Nat.cast_ofNat] at hsplit
  rw [normalExponent_eq]
  by_cases hsmall : (n / d : ℚ) * 2 ^ (-guessedExponent n d) < 2 ^ 52
  · have hdouble : (2 : ℚ) ^ (-(guessedExponent n d - 1)) = 2 ^ (-guessedExponent n d) * 2 := by
      rw [← two_zpow_mul (a := -guessedExponent n d) (b := 1) (by ring), zpow_one]
    rw [if_pos (hsplit.2 hsmall), hdouble, ← mul_assoc]
    constructor
    · linarith
    · linarith
  · rw [if_neg (fun h => hsmall (hsplit.1 h))]
    exact ⟨not_lt.1 hsmall, hhigh⟩

/-! ### Which fractions are too large -/

/-- The exponent of the grid to which a fraction is rounded. -/
def gridExponent (n d : Nat) : Int := max (normalExponent n d) minExponent

/-- The mantissa that a fraction is rounded to on its grid; it may have become one bit too long. -/
def gridMantissa (n d : Nat) : Nat :=
  roundHalfEven (scale n d (gridExponent n d)).1 (scale n d (gridExponent n d)).2

theorem ofRatio?_of_pos {n d : Nat} (hn : 0 < n) : ofRatio? n d =
    if gridMantissa n d = 2 ^ 53 then
      if maxExponent < gridExponent n d + 1 then none else some ⟨2 ^ 52, gridExponent n d + 1⟩
    else if maxExponent < gridExponent n d then none
    else some ⟨gridMantissa n d, gridExponent n d⟩ := by
  have hpair : ofRatio? n d =
      (if gridMantissa n d = 2 ^ 53 then (2 ^ 52, gridExponent n d + 1)
        else (gridMantissa n d, gridExponent n d)).rec
        fun m e => if maxExponent < e then none else some ⟨m, e⟩ := by
    unfold ofRatio?
    rw [if_neg hn.ne']
    rfl
  rw [hpair]
  by_cases hcarry : gridMantissa n d = 2 ^ 53
  · rw [if_pos hcarry, if_pos hcarry]
  · rw [if_neg hcarry, if_neg hcarry]

/-- A fraction takes at most 53 bits on its grid. -/
theorem div_mul_gridExponent_lt {n d : Nat} (hn : 0 < n) (hd : 0 < d) :
    (n / d : ℚ) * 2 ^ (-gridExponent n d) < 2 ^ 53 := by
  have hle : normalExponent n d ≤ gridExponent n d := le_max_left _ _
  have hpow : (2 : ℚ) ^ (-gridExponent n d) ≤ 2 ^ (-normalExponent n d) :=
    zpow_le_zpow_right₀ one_le_two (neg_le_neg hle)
  have hnonneg : (0 : ℚ) ≤ n / d := by positivity
  calc (n / d : ℚ) * 2 ^ (-gridExponent n d)
      ≤ n / d * 2 ^ (-normalExponent n d) := mul_le_mul_of_nonneg_left hpow hnonneg
    _ < 2 ^ 53 := (normalExponent_spec hn hd).2

/-- A fraction is rounded to at most `2 ^ 53` units of its grid. -/
theorem gridMantissa_le {n d : Nat} (hn : 0 < n) (hd : 0 < d) : gridMantissa n d ≤ 2 ^ 53 := by
  have hlt := div_mul_gridExponent_lt hn hd
  have hfloor : (scale n d (gridExponent n d)).1 / (scale n d (gridExponent n d)).2 < 2 ^ 53 := by
    rw [scale_div_lt_iff hd]
    exact_mod_cast hlt
  have hround := (roundHalfEven_bounds (scale n d (gridExponent n d)).1
    (scale n d (gridExponent n d)).2).2
  exact hround.trans hfloor

/-- A fraction is rounded to `2 ^ 53` units of its grid from half a unit below on. -/
theorem gridMantissa_eq_iff {n d : Nat} (hn : 0 < n) (hd : 0 < d) :
    gridMantissa n d = 2 ^ 53 ↔
      (2 ^ 53 - 1 / 2 : ℚ) ≤ n / d * 2 ^ (-gridExponent n d) := by
  have hle : gridMantissa n d ≤ 2 ^ 53 := gridMantissa_le hn hd
  have hpos : 0 < (scale n d (gridExponent n d)).2 := scale_snd_pos hd _
  have hposq : (0 : ℚ) < (scale n d (gridExponent n d)).2 := by exact_mod_cast hpos
  have hround := succ_le_roundHalfEven_iff (n := (scale n d (gridExponent n d)).1) (k := 2 ^ 53 - 1)
    hpos (by norm_num)
  have hunits : gridMantissa n d = 2 ^ 53 ↔ 2 ^ 53 - 1 + 1 ≤ gridMantissa n d := by omega
  rw [hunits, gridMantissa, hround, ← scale_div, le_div_iff₀ hposq,
    ← Nat.cast_le (α := ℚ)]
  push_cast
  constructor <;> intro h <;> linarith

/-- The bound of the range in units of the coarsest grid. -/
theorem overflow_eq : (2 ^ 53 - 1 / 2 : ℚ) * 2 ^ maxExponent = overflow := by
  have hmax : maxExponent = ((971 : Nat) : Int) := rfl
  have hsplit : (2 : ℚ) ^ 1024 = 2 ^ 53 * 2 ^ 971 := pow_add 2 53 971
  have hhalf : (2 : ℚ) ^ 971 = 2 ^ 970 * 2 := pow_succ 2 970
  rw [hmax, zpow_natCast, overflow, hsplit, hhalf]
  generalize (2 : ℚ) ^ 970 = half
  ring

theorem two_zpow_lt_overflow {e : Int} (he : e < 1024) : (2 : ℚ) ^ e < overflow := by
  have hmax : maxExponent = 971 := rfl
  have hle : (2 : ℚ) ^ e ≤ 2 ^ (52 + maxExponent) :=
    zpow_le_zpow_right₀ one_le_two (by rw [hmax]; omega)
  have hpow : (2 : ℚ) ^ (52 + maxExponent) = 2 ^ 52 * 2 ^ maxExponent := by
    rw [← two_zpow_mul rfl, zpow_ofNat]
  have hlt : (2 : ℚ) ^ 52 < 2 ^ 53 - 1 / 2 := by norm_num
  calc (2 : ℚ) ^ e ≤ 2 ^ 52 * 2 ^ maxExponent := hle.trans hpow.le
    _ < (2 ^ 53 - 1 / 2) * 2 ^ maxExponent := mul_lt_mul_of_pos_right hlt (two_zpow_pos _)
    _ = overflow := overflow_eq

theorem overflow_pos : 0 < overflow := (two_zpow_pos 0).trans (two_zpow_lt_overflow (by decide))

theorem overflow_le_two_zpow {e : Int} (he : 1024 ≤ e) : overflow ≤ (2 : ℚ) ^ e := by
  have hle : (2 : ℚ) ^ ((1024 : Nat) : Int) ≤ 2 ^ e := zpow_le_zpow_right₀ one_le_two he
  have hpos : (0 : ℚ) < 2 ^ 970 := pow_pos two_pos 970
  rw [zpow_natCast] at hle
  exact (sub_le_self _ hpos.le).trans hle

/-- **Which fractions are too large.**  A fraction cannot be rounded to a value of the format if it
is at least half way from the largest value to the next number on its grid. -/
theorem ofRatio?_eq_none_iff {n d : Nat} (hd : 0 < d) :
    ofRatio? n d = none ↔ overflow ≤ (n / d : ℚ) := by
  have hmax : maxExponent = 971 := rfl
  have hmin : minExponent = -1074 := rfl
  rcases Nat.eq_zero_or_pos n with rfl | hn
  · have hzero : ofRatio? 0 d = some zero := rfl
    rw [hzero, Nat.cast_zero, zero_div]
    exact iff_of_false nofun overflow_pos.not_ge
  have hmantissa := gridMantissa_eq_iff hn hd
  rw [le_mul_two_zpow_neg_iff] at hmantissa
  rw [ofRatio?_of_pos hn]
  rcases lt_trichotomy (gridExponent n d) maxExponent with hlt | heq | hgt
  · -- there is room for a carry
    have hdiv : (n / d : ℚ) < 2 ^ (53 + gridExponent n d) := by
      have hbound := div_mul_gridExponent_lt hn hd
      rw [← not_le, le_mul_two_zpow_neg_iff, not_le, ← zpow_ofNat, two_zpow_mul rfl] at hbound
      exact hbound
    have hsmall : (n / d : ℚ) < overflow := hdiv.trans (two_zpow_lt_overflow (by omega))
    rw [if_neg (by omega : ¬ maxExponent < gridExponent n d + 1), if_neg hlt.not_gt]
    exact iff_of_false (by split_ifs <;> exact nofun) hsmall.not_ge
  · -- a carry leaves the range
    rw [heq, overflow_eq] at hmantissa
    rw [← hmantissa, heq, if_pos (by omega : maxExponent < maxExponent + 1),
      if_neg (lt_irrefl maxExponent)]
    by_cases hcarry : gridMantissa n d = 2 ^ 53
    · rw [if_pos hcarry]
      exact iff_of_true rfl hcarry
    · rw [if_neg hcarry]
      exact iff_of_false nofun hcarry
  · have hnormal : gridExponent n d = normalExponent n d := by
      unfold gridExponent at hgt ⊢
      omega
    have hlarge : overflow ≤ (n / d : ℚ) := by
      have hbound := (normalExponent_spec hn hd).1
      rw [le_mul_two_zpow_neg_iff, ← zpow_ofNat, two_zpow_mul rfl] at hbound
      exact (overflow_le_two_zpow (by omega)).trans hbound
    rw [if_pos (by omega : maxExponent < gridExponent n d + 1), if_pos hgt]
    exact iff_of_true (by split_ifs <;> rfl) hlarge

/-! ### What a fraction is rounded to -/

/-- A carry moves one bit from the mantissa to the exponent. -/
theorem value_of_ofRatio? {n d : Nat} (hn : 0 < n) {x : Magnitude} (h : ofRatio? n d = some x) :
    x.value = gridMantissa n d * 2 ^ gridExponent n d := by
  rw [ofRatio?_of_pos hn] at h
  split_ifs at h with hcarry
  · cases h
    have hunits : (2 : ℚ) ^ (52 : Int) * 2 ^ (gridExponent n d + 1) =
        2 ^ (53 : Int) * 2 ^ gridExponent n d :=
      (two_zpow_mul (by ring)).trans (two_zpow_mul (c := 53 + gridExponent n d) rfl).symm
    rw [hcarry, value]
    exact_mod_cast hunits
  · cases h
    rfl

/-- What a fraction is rounded to is in the range. -/
theorem value_lt_overflow {n d : Nat} (hd : 0 < d) {x : Magnitude} (h : ofRatio? n d = some x) :
    x.value < overflow := by
  have hmax : maxExponent = 971 := rfl
  rcases Nat.eq_zero_or_pos n with rfl | hn
  · cases h
    rw [value, zero, Nat.cast_zero, zero_mul]
    exact overflow_pos
  have hle := gridMantissa_le hn hd
  rw [value_of_ofRatio? hn h]
  rw [ofRatio?_of_pos hn] at h
  split_ifs at h with hcarry hexponent hexponent
  · rw [hcarry, Nat.cast_pow, Nat.cast_ofNat, ← zpow_ofNat, two_zpow_mul rfl]
    exact two_zpow_lt_overflow (by omega)
  · have hunits : (gridMantissa n d : ℚ) < 2 ^ 53 - 1 / 2 := by
      have hlt : gridMantissa n d + 1 ≤ 2 ^ 53 := by omega
      have hltq : (gridMantissa n d : ℚ) + 1 ≤ 2 ^ 53 := by exact_mod_cast hlt
      linarith
    calc (gridMantissa n d : ℚ) * 2 ^ gridExponent n d
        ≤ gridMantissa n d * 2 ^ maxExponent := by
          gcongr
          · exact one_le_two
          · exact not_lt.1 hexponent
      _ < (2 ^ 53 - 1 / 2) * 2 ^ maxExponent := mul_lt_mul_of_pos_right hunits (two_zpow_pos _)
      _ = overflow := overflow_eq

/-- A fraction that is not tiny takes 53 bits on its grid. -/
theorem normal_of_two_zpow_le {k : Int} (hk : -1022 ≤ k) {n d : Nat} (hd : 0 < d)
    (hle : (2 : ℚ) ^ k ≤ n / d) :
    0 < n ∧ k - 52 ≤ gridExponent n d ∧ (2 : ℚ) ^ 52 ≤ n / d * 2 ^ (-gridExponent n d) := by
  have hmin : minExponent = -1074 := rfl
  have hn : 0 < n := by
    rcases Nat.eq_zero_or_pos n with rfl | hn
    · rw [Nat.cast_zero, zero_div] at hle
      exact absurd hle (two_zpow_pos k).not_ge
    · exact hn
  have hspec := normalExponent_spec hn hd
  have hexponent : k - 52 ≤ normalExponent n d := by
    have hlt := hspec.2
    rw [← not_le, le_mul_two_zpow_neg_iff, not_le, ← zpow_ofNat, two_zpow_mul rfl] at hlt
    have hpower := (zpow_lt_zpow_iff_right₀ one_lt_two).1 (hle.trans_lt hlt)
    omega
  have hgrid : gridExponent n d = normalExponent n d := max_eq_left (by omega)
  rw [hgrid]
  exact ⟨hn, hexponent, hspec.1⟩

/-- What is at least a power of two is rounded to at least that, unless the power is tiny. -/
theorem two_zpow_le_value {k : Int} (hk : -1022 ≤ k) {n d : Nat} (hd : 0 < d)
    (hle : (2 : ℚ) ^ k ≤ n / d) {x : Magnitude} (h : ofRatio? n d = some x) :
    (2 : ℚ) ^ k ≤ x.value := by
  obtain ⟨hn, hexponent, hunits⟩ := normal_of_two_zpow_le hk hd hle
  have hmantissa : 2 ^ 52 ≤ gridMantissa n d := by
    have hfloor :
        ¬ (scale n d (gridExponent n d)).1 / (scale n d (gridExponent n d)).2 < 2 ^ 52 := by
      rw [scale_div_lt_iff hd, Nat.cast_pow, Nat.cast_ofNat]
      exact hunits.not_gt
    exact (not_lt.1 hfloor).trans (roundHalfEven_bounds _ _).1
  have hmantissaq : (2 : ℚ) ^ 52 ≤ gridMantissa n d := by exact_mod_cast hmantissa
  rw [value_of_ofRatio? hn h]
  calc (2 : ℚ) ^ k = 2 ^ 52 * 2 ^ (k - 52) := by
        rw [← zpow_ofNat, two_zpow_mul (by ring)]
    _ ≤ gridMantissa n d * 2 ^ gridExponent n d := by
        gcongr
        exact one_le_two

/-- What is at least one is rounded to at least one. -/
theorem one_le_value {n d : Nat} (hd : 0 < d) (hone : (1 : ℚ) ≤ n / d) {x : Magnitude}
    (h : ofRatio? n d = some x) : 1 ≤ x.value :=
  two_zpow_le_value (by decide : -1022 ≤ 0) hd hone h

/-- Rounding makes what is at least one larger by less than a part in `2 ^ 52`. -/
theorem value_le_of_one_le {n d : Nat} (hd : 0 < d) (hone : (1 : ℚ) ≤ n / d) {x : Magnitude}
    (h : ofRatio? n d = some x) : x.value ≤ n / d * (1 + 1 / 2 ^ 52) := by
  obtain ⟨hn, -, hunits⟩ := normal_of_two_zpow_le (by decide : -1022 ≤ 0) hd hone
  have hround : (gridMantissa n d : ℚ) ≤ n / d * 2 ^ (-gridExponent n d) + 1 := by
    have hbound := (roundHalfEven_bounds (scale n d (gridExponent n d)).1
      (scale n d (gridExponent n d)).2).2
    have hboundq : (gridMantissa n d : ℚ) ≤
        ((scale n d (gridExponent n d)).1 / (scale n d (gridExponent n d)).2 : Nat) + 1 := by
      exact_mod_cast hbound
    have hfloor :
        (((scale n d (gridExponent n d)).1 / (scale n d (gridExponent n d)).2 : Nat) : ℚ) ≤
          n / d * 2 ^ (-gridExponent n d) := by
      rw [← scale_div]
      exact Nat.cast_div_le
    linarith
  have hmantissa : (gridMantissa n d : ℚ) ≤
      n / d * 2 ^ (-gridExponent n d) * (1 + 1 / 2 ^ 52) := by
    linarith
  rw [value_of_ofRatio? hn h]
  calc (gridMantissa n d : ℚ) * 2 ^ gridExponent n d
      ≤ n / d * 2 ^ (-gridExponent n d) * (1 + 1 / 2 ^ 52) * 2 ^ gridExponent n d :=
        mul_le_mul_of_nonneg_right hmantissa (two_zpow_pos _).le
    _ = n / d * (1 + 1 / 2 ^ 52) * (2 ^ (-gridExponent n d) * 2 ^ gridExponent n d) := by ring
    _ = n / d * (1 + 1 / 2 ^ 52) := by
        rw [two_zpow_mul (c := 0) (by ring), zpow_zero, mul_one]

/-! ### Products, quotients and powers of ten -/

theorem toRatio_snd_pos (x : Magnitude) : 0 < x.toRatio.2 := scale_snd_pos Nat.one_pos _

/-- The fraction of a value is its value. -/
theorem toRatio_div (x : Magnitude) : (x.toRatio.1 : ℚ) / x.toRatio.2 = x.value := by
  rw [toRatio, scale_div, neg_neg, Nat.cast_one, div_one, value]

/-- A product is too large if the product of the values is. -/
theorem mul?_eq_none_iff (x y : Magnitude) : x.mul? y = none ↔ overflow ≤ x.value * y.value := by
  have hd : 0 < x.toRatio.2 * y.toRatio.2 := Nat.mul_pos x.toRatio_snd_pos y.toRatio_snd_pos
  have hratio : x.mul? y = ofRatio? (x.toRatio.1 * y.toRatio.1) (x.toRatio.2 * y.toRatio.2) := rfl
  rw [hratio, ofRatio?_eq_none_iff hd, Nat.cast_mul, Nat.cast_mul, mul_div_mul_comm, toRatio_div,
    toRatio_div]

/-- A quotient by a value that is at least one is in the range. -/
theorem exists_div?_eq_some {x y : Magnitude} (hx : x.value < overflow) (hy : 1 ≤ y.value) :
    ∃ z, x.div? y = some z ∧ z.value < overflow := by
  have hypos : (0 : ℚ) < y.value := one_pos.trans_le hy
  have hnum : 0 < y.toRatio.1 := by
    rcases Nat.eq_zero_or_pos y.toRatio.1 with hzero | hpos
    · rw [← toRatio_div, hzero, Nat.cast_zero, zero_div] at hypos
      exact absurd hypos (lt_irrefl 0)
    · exact hpos
  have hd : 0 < x.toRatio.2 * y.toRatio.1 := Nat.mul_pos x.toRatio_snd_pos hnum
  have hratio : x.div? y = ofRatio? (x.toRatio.1 * y.toRatio.2) (x.toRatio.2 * y.toRatio.1) := rfl
  have hquotient : ((x.toRatio.1 * y.toRatio.2 : Nat) : ℚ) / (x.toRatio.2 * y.toRatio.1 : Nat) =
      x.value / y.value := by
    rw [← toRatio_div x, ← toRatio_div y, Nat.cast_mul, Nat.cast_mul, div_div_div_eq]
  have hnonneg : 0 ≤ x.value := by
    rw [← toRatio_div]
    positivity
  have hsmall : x.value / y.value < overflow := (div_le_self hnonneg hy).trans_lt hx
  rw [hratio]
  cases hz : ofRatio? (x.toRatio.1 * y.toRatio.2) (x.toRatio.2 * y.toRatio.1) with
  | none =>
    rw [ofRatio?_eq_none_iff hd, hquotient] at hz
    exact absurd hz hsmall.not_ge
  | some z => exact ⟨z, rfl, value_lt_overflow hd hz⟩

/-- The powers of ten of the format are those with exponents up to 308. -/
theorem powerOfTen?_eq_none_iff (k : Nat) : powerOfTen? k = none ↔ 308 < k := by
  have hratio : powerOfTen? k = ofRatio? (10 ^ k) 1 := rfl
  have hbound : overflow = ((2 ^ 1024 - 2 ^ 970 : Nat) : ℚ) := by
    have hle : 2 ^ 970 ≤ 2 ^ 1024 := by decide +kernel
    rw [Nat.cast_sub hle, Nat.cast_pow, Nat.cast_pow]
    rfl
  have hmono : ∀ {i j : Nat}, i ≤ j → 10 ^ i ≤ 10 ^ j := Nat.pow_le_pow_right (by decide)
  rw [hratio, ofRatio?_eq_none_iff Nat.one_pos, hbound, Nat.cast_one, div_one, Nat.cast_le]
  constructor
  · intro hle
    have hlt : 10 ^ 308 < 2 ^ 1024 - 2 ^ 970 := by decide +kernel
    by_contra hk
    exact (hlt.trans_le hle).not_ge (hmono (not_lt.1 hk))
  · intro hk
    have hle : 2 ^ 1024 - 2 ^ 970 ≤ 10 ^ 309 := by decide +kernel
    exact hle.trans (hmono hk)

/-- A power of ten of the format is at least one. -/
theorem exists_powerOfTen? {k : Nat} (hk : k ≤ 308) :
    ∃ y, powerOfTen? k = some y ∧ 1 ≤ y.value := by
  cases hy : powerOfTen? k with
  | none =>
    rw [powerOfTen?_eq_none_iff] at hy
    omega
  | some y =>
    have hone : (1 : ℚ) ≤ ((10 ^ k : Nat) : ℚ) / (1 : Nat) := by
      rw [Nat.cast_one, div_one]
      exact_mod_cast Nat.one_le_pow k 10 (by decide)
    exact ⟨y, rfl, one_le_value Nat.one_pos hone hy⟩

end Magnitude

end LinkTemplate
