import LinkTemplate.Proofs.Json.Scale
import LinkTemplate.Proofs.Text
/-!
# Number literals

A number of a document is written as digits, perhaps with a sign in front, a fraction and
an exponent (`Json.Literal`).  Its reader takes the leading digits that fit 64 bits and
scales them by the power of ten of their place, and it finds the number again whatever
follows, as long as that does not continue the number (`Literal.readUnsigned_append`).

The only literals that are refused are those that are too large.  Significand and power
are rounded before they are multiplied, so the bound is one of the product of two rounded
numbers (`Literal.InRange`), and a literal just below the bound of the format may be
refused (`Literal.not_inRange_edge`).

An integer literal that fits 64 signed bits, other than a zero with a sign, stands for its
integer and is taken over in decimal.
-/

namespace LinkTemplate

/-- An integer of 64 signed bits is written in decimal. -/
theorem Number.toText_integer {z : Int} (hlow : -2 ^ 63 ≤ z) (hhigh : z < 2 ^ 63) :
    (integer z).toText = Text.ofInt z := by
  have hpow : Nat.pow 2 (64 - 1) = 2 ^ 63 := rfl
  have hfits : fitsSigned 64 z = true := by
    unfold fitsSigned
    split_ifs
    · exact decide_eq_true (by omega)
    · exact decide_eq_true (by omega)
  rw [toText, if_pos hfits]

namespace Json

/-! ### Literals -/

/-- One or more decimal digits. -/
structure Digits where
  text : Text
  ne_nil : text ≠ []
  isDigit : ∀ c ∈ text, c.isDigit = true

namespace Digits

/-- The number that digits stand for. -/
def value (ds : Digits) : Nat := Nat.ofDigitChars 10 ds.text 0

/-- The digits of a number in decimal. -/
def ofNat (n : Nat) : Digits where
  text := Text.ofNat n
  ne_nil := Text.ofNat_ne_nil n
  isDigit _ hc := Text.isDigit_of_mem_ofNat hc

@[simp] theorem value_ofNat (n : Nat) : (ofNat n).value = n := Text.ofDigitChars_ofNat n

end Digits

/-- The sign of an exponent may be left out. -/
inductive ExponentSign where
  | implicit
  | plus
  | minus
deriving DecidableEq

def ExponentSign.text : ExponentSign → Text
  | implicit => []
  | plus => ['+']
  | minus => ['-']

/-- A power of ten by which a number is scaled. -/
structure Exponent where
  upper : Bool
  sign : ExponentSign
  digits : Digits

namespace Exponent

/-- The text after the letter. -/
def unmarked (e : Exponent) : Text := e.sign.text ++ e.digits.text

def text (e : Exponent) : Text := (if e.upper then 'E' else 'e') :: e.unmarked

def value (e : Exponent) : Int := if e.sign = .minus then -e.digits.value else e.digits.value

/-- What an exponent makes of a significand whose last digit has the place `shift`.  Large exponents
are decided without computing the power. -/
def scale (e : Exponent) (negative : Bool) (significand : Nat) (shift : Int) :
    Except JsonFault Number :=
  if maxExponent < e.digits.value then
    if significand ≠ 0 ∧ e.sign ≠ .minus then .error .malformed
    else .ok (.real (.finite negative .zero))
  else realOfParts negative significand (shift + e.value)

end Exponent

/-- A number as it is written. -/
structure Literal where
  negative : Bool
  whole : Digits
  /-- A leading zero stands alone. -/
  leading_zero : ∀ t, whole.text = '0' :: t → t = []
  fraction? : Option Digits
  exponent? : Option Exponent

namespace Literal

/-- What follows the digits in front of the point. -/
def tail (l : Literal) : Text :=
  (l.fraction?.elim [] fun ds => '.' :: ds.text) ++ l.exponent?.elim [] Exponent.text

/-- The text without the sign. -/
def unsigned (l : Literal) : Text := l.whole.text ++ l.tail

def text (l : Literal) : Text := if l.negative then '-' :: l.unsigned else l.unsigned

/-- The integer that a literal without fraction and exponent stands for. -/
def integer? (l : Literal) : Option Int :=
  if l.fraction?.isNone ∧ l.exponent?.isNone then
    some (if l.negative then -l.whole.value else l.whole.value)
  else none

/-- All digits of a literal, read as one number. -/
def digits (l : Literal) : Nat :=
  Nat.ofDigitChars 10 (l.whole.text ++ l.fraction?.elim [] Digits.text) 0

/-- The number of digits behind the point. -/
def places (l : Literal) : Nat := l.fraction?.elim 0 fun ds => ds.text.length

/-- The exact value of a literal. -/
def value (l : Literal) : ℚ :=
  (if l.negative then -1 else 1) * l.digits *
    10 ^ (l.exponent?.elim 0 Exponent.value - l.places)

/-! ### What a literal stands for -/

/-- The number of digits in front of the point that do not fit 64 bits. -/
def dropped (l : Literal) : Nat := l.whole.text.length - (takeDigits 0 l.whole.text).2

/-- The leading digits, as many as fit 64 bits. -/
def significand (l : Literal) : Nat :=
  match l.fraction? with
  | none => (takeDigits 0 l.whole.text).1
  | some ds => (takeDigits (takeDigits 0 l.whole.text).1 ds.text).1

/-- The place of the last digit of the significand, the exponent apart. -/
def shift (l : Literal) : Int :=
  match l.fraction? with
  | none => l.dropped
  | some ds => l.dropped - (takeDigits (takeDigits 0 l.whole.text).1 ds.text).2

/-- What a literal is read as. -/
def reading (l : Literal) : Except JsonFault Number :=
  match l.exponent? with
  | none =>
    if l.fraction?.isNone ∧ l.dropped = 0 then .ok (integerOfParts l.negative l.significand)
    else realOfParts l.negative l.significand l.shift
  | some e => e.scale l.negative l.significand l.shift

/-- The number that a literal stands for; infinity if it is too large. -/
def number (l : Literal) : Number :=
  match l.reading with
  | .ok n => n
  | .error _ => .real (.infinite l.negative)

/-- The binary value of the significand times that of the power of ten is below the bound of the
format.  Large exponents are decided without computing the power. -/
def InRange (l : Literal) : Prop :=
  match l.exponent? with
  | none => Fits l.significand l.shift
  | some e =>
    if maxExponent < e.digits.value then l.significand = 0 ∨ e.sign = .minus
    else Fits l.significand (l.shift + e.value)

end Literal

/-! ### Digits -/

theorem ofDigitChars_cons_eq (c : Char) (ds : Text) (n : Nat) :
    Nat.ofDigitChars 10 (c :: ds) n = Nat.ofDigitChars 10 ds (n * 10 + digitValue c) := by
  rw [Nat.ofDigitChars_cons, Nat.mul_comm, digitValue]

/-- Zeros are the smallest digits that can be appended. -/
theorem mul_pow_le_ofDigitChars (ds : Text) (n : Nat) :
    n * 10 ^ ds.length ≤ Nat.ofDigitChars 10 ds n := by
  rw [Nat.ofDigitChars_eq_ofDigitChars_zero, Nat.mul_comm]
  exact Nat.le_add_right _ _

/-- Appending digits to a number only makes it larger. -/
theorem le_ofDigitChars (ds : Text) (n : Nat) : n ≤ Nat.ofDigitChars 10 ds n :=
  (Nat.le_mul_of_pos_right n (by positivity)).trans (mul_pow_le_ofDigitChars ds n)

theorem takeDigits_cons_of_lt {c : Char} {n : Nat} (h : n * 10 + digitValue c < 2 ^ 64)
    (ds : Text) :
    takeDigits n (c :: ds) = ((takeDigits (n * 10 + digitValue c) ds).1,
      (takeDigits (n * 10 + digitValue c) ds).2 + 1) := by
  have hlt : n * 10 + digitValue c < Nat.pow 2 64 := h
  rw [takeDigits]
  exact if_pos hlt

theorem takeDigits_cons_of_not_lt {c : Char} {n : Nat} (h : ¬ n * 10 + digitValue c < 2 ^ 64)
    (ds : Text) : takeDigits n (c :: ds) = (n, 0) := by
  have hlt : ¬ n * 10 + digitValue c < Nat.pow 2 64 := h
  rw [takeDigits]
  exact if_neg hlt

/-- Digits that fit 64 bits together are all taken. -/
theorem takeDigits_of_lt {ds : Text} {n : Nat} (h : Nat.ofDigitChars 10 ds n < 2 ^ 64) :
    takeDigits n ds = (Nat.ofDigitChars 10 ds n, ds.length) := by
  induction ds generalizing n with
  | nil => rfl
  | cons c ds ih =>
    rw [ofDigitChars_cons_eq] at h ⊢
    rw [takeDigits_cons_of_lt ((le_ofDigitChars ds _).trans_lt h), ih h, List.length_cons]

/-- What is taken fits 64 bits. -/
theorem takeDigits_fst_lt {ds : Text} {n : Nat} (h : n < 2 ^ 64) :
    (takeDigits n ds).1 < 2 ^ 64 := by
  induction ds generalizing n with
  | nil => exact h
  | cons c ds ih =>
    by_cases hlt : n * 10 + digitValue c < 2 ^ 64
    · rw [takeDigits_cons_of_lt hlt]
      exact ih hlt
    · rw [takeDigits_cons_of_not_lt hlt]
      exact h

/-- The text does not begin with a digit. -/
def NoDigit (t : Text) : Prop := ∀ c u, t = c :: u → c.isDigit = false

/-- The digits in front of what does not begin with a digit. -/
theorem Digits.takeWhile_append (ds : Digits) {t : Text} (ht : NoDigit t) :
    (ds.text ++ t).takeWhile Char.isDigit = ds.text := by
  have hnil : t.takeWhile Char.isDigit = [] := by
    cases t with
    | nil => rfl
    | cons c u => rw [List.takeWhile_cons, ht c u rfl, if_neg Bool.false_ne_true]
  rw [List.takeWhile_append_of_pos ds.isDigit, hnil, List.append_nil]

/-- What is left behind the digits. -/
theorem Digits.dropWhile_append (ds : Digits) {t : Text} (ht : NoDigit t) :
    (ds.text ++ t).dropWhile Char.isDigit = t := by
  rw [List.dropWhile_append_of_pos ds.isDigit]
  cases t with
  | nil => rfl
  | cons c u => rw [List.dropWhile_cons, ht c u rfl, if_neg Bool.false_ne_true]

/-- Digits begin with a digit. -/
theorem Digits.exists_cons (ds : Digits) : ∃ c u, ds.text = c :: u ∧ c.isDigit = true := by
  obtain ⟨c, u, hcons⟩ := List.exists_cons_of_ne_nil ds.ne_nil
  exact ⟨c, u, hcons, ds.isDigit c (hcons ▸ List.mem_cons_self)⟩

theorem ne_of_isDigit {c d : Char} (hc : c.isDigit = true) (hd : d.isDigit = false) : c ≠ d := by
  rintro rfl
  exact Bool.false_ne_true (hd.symm.trans hc)

/-! ### Reading a literal -/

/-- The text does not continue a number. -/
def EndsNumber (t : Text) : Prop :=
  ∀ c u, t = c :: u → c.isDigit = false ∧ c ≠ '.' ∧ isExponentMark c = false

theorem EndsNumber.noDigit {t : Text} (h : EndsNumber t) : NoDigit t := fun c u ht => (h c u ht).1

/-- The value of digits is counted up from the left. -/
theorem Digits.foldl_eq_value (ds : Digits) :
    ds.text.foldl (fun n c => n * 10 + digitValue c) 0 = ds.value := by
  rw [Digits.value, Nat.ofDigitChars_eq_foldl]
  congr
  funext n c
  rw [Nat.mul_comm, digitValue]

/-- Whether the exponent is subtracted is all that is kept of its sign. -/
theorem Exponent.map_scale (e : Exponent) (negative : Bool) (significand : Nat) (shift : Int)
    (rest : Text) (down : Bool) (hdown : down = true ↔ e.sign = .minus) :
    (e.scale negative significand shift).map (fun n => (n, rest)) =
      if maxExponent < e.digits.value then
        if significand ≠ 0 ∧ !down then .error .malformed
        else .ok (.real (.finite negative .zero), rest)
      else (realOfParts negative significand
        (if down then shift - e.digits.value else shift + e.digits.value)).map
          fun n => (n, rest) := by
  have hup : (!down) = true ↔ e.sign ≠ .minus := by rw [ne_eq, ← hdown, Bool.not_eq_true']; simp
  have hvalue : shift + e.value =
      if down then shift - e.digits.value else shift + e.digits.value := by
    simp only [Exponent.value, ← hdown]
    split_ifs
    · exact (Int.sub_eq_add_neg).symm
    · rfl
  rw [Exponent.scale, hvalue]
  simp only [hup]
  split_ifs <;> rfl

/-- The digits of an exponent are read up to the end of the number. -/
theorem readExponent_append (e : Exponent) (negative : Bool) (significand : Nat) (shift : Int)
    {rest : Text} (hrest : EndsNumber rest) :
    readExponent negative significand shift (e.unmarked ++ rest) =
      (e.scale negative significand shift).map fun n => (n, rest) := by
  obtain ⟨c, u, hcons, hc⟩ := e.digits.exists_cons
  have htake := e.digits.takeWhile_append hrest.noDigit
  have hdrop := e.digits.dropWhile_append hrest.noDigit
  have hvalue := e.digits.foldl_eq_value
  rw [hcons, List.cons_append] at htake hdrop
  rw [hcons] at hvalue
  cases hsign : e.sign with
  | implicit =>
    have htext : e.unmarked ++ rest = c :: (u ++ rest) := by
      rw [Exponent.unmarked, hsign, ExponentSign.text, hcons]
      rfl
    have hplus : ∀ t, c :: (u ++ rest) = '+' :: t → False :=
      fun t h => ne_of_isDigit hc rfl (List.cons.inj h).1
    have hminus : ∀ t, c :: (u ++ rest) = '-' :: t → False :=
      fun t h => ne_of_isDigit hc rfl (List.cons.inj h).1
    rw [htext, readExponent, e.map_scale negative significand shift rest false (by simp [hsign])]
    · simp only [hc, htake, hdrop, hvalue, if_true]
    · exact hplus
    · exact hminus
  | plus =>
    have htext : e.unmarked ++ rest = '+' :: c :: (u ++ rest) := by
      rw [Exponent.unmarked, hsign, ExponentSign.text, hcons]
      rfl
    rw [htext, readExponent, e.map_scale negative significand shift rest false (by simp [hsign])]
    simp only [hc, htake, hdrop, hvalue, if_true]
  | minus =>
    have htext : e.unmarked ++ rest = '-' :: c :: (u ++ rest) := by
      rw [Exponent.unmarked, hsign, ExponentSign.text, hcons]
      rfl
    rw [htext, readExponent, e.map_scale negative significand shift rest true (by simp [hsign])]
    simp only [hc, htake, hdrop, hvalue, if_true]

/-- An exponent begins with its letter. -/
theorem Exponent.exists_mark (e : Exponent) : ∃ c, e.text = c :: e.unmarked ∧
    isExponentMark c = true ∧ c ≠ '.' ∧ c.isDigit = false := by
  unfold Exponent.text
  cases e.upper with
  | false => exact ⟨'e', rfl, rfl, by decide, rfl⟩
  | true => exact ⟨'E', rfl, rfl, by decide, rfl⟩

/-- Digits behind the point are appended to the significand. -/
theorem readTail_point (negative : Bool) (significand dropped : Nat) (ds : Digits) {t : Text}
    (ht : NoDigit t) :
    readTail negative significand dropped ('.' :: (ds.text ++ t)) =
      match t with
      | c :: after =>
        if isExponentMark c then
          readExponent negative (takeDigits significand ds.text).1
            (dropped - (takeDigits significand ds.text).2) after
        else (realOfParts negative (takeDigits significand ds.text).1
          (dropped - (takeDigits significand ds.text).2)).map fun n => (n, t)
      | [] => (realOfParts negative (takeDigits significand ds.text).1
          (dropped - (takeDigits significand ds.text).2)).map fun n => (n, t) := by
  have hempty : ds.text.isEmpty = false := by simpa using ds.ne_nil
  rw [readTail]
  simp only [ds.takeWhile_append ht, ds.dropWhile_append ht, hempty]
  cases t <;> rfl

/-- Behind the digits in front of the point, fraction and exponent are read. -/
theorem Literal.readTail_append (l : Literal) {rest : Text} (hrest : EndsNumber rest) :
    readTail l.negative (takeDigits 0 l.whole.text).1 l.dropped (l.tail ++ rest) =
      l.reading.map fun n => (n, rest) := by
  unfold Literal.tail Literal.reading Literal.significand Literal.shift
  cases hf : l.fraction? with
  | none =>
    cases he : l.exponent? with
    | none =>
      simp only [Option.elim_none, List.nil_append, Option.isNone_none, true_and]
      cases rest with
      | nil =>
        rw [readTail]
        split_ifs <;> rfl
      | cons c u =>
        obtain ⟨-, hpoint, hmark⟩ := hrest c u rfl
        rw [readTail, hmark]
        · simp only [Bool.false_eq_true, if_false]
          split_ifs <;> rfl
        · exact hpoint
    | some e =>
      obtain ⟨c, htext, hmark, hpoint, -⟩ := e.exists_mark
      simp only [Option.elim_none, Option.elim_some, List.nil_append, htext, List.cons_append]
      rw [readTail, hmark, if_pos rfl, readExponent_append e _ _ _ hrest]
      exact hpoint
  | some ds =>
    cases he : l.exponent? with
    | none =>
      simp only [Option.elim_none, Option.elim_some, List.append_nil, List.cons_append,
        Option.isNone_some, Bool.false_eq_true, false_and, if_false]
      rw [readTail_point _ _ _ ds hrest.noDigit]
      cases rest with
      | nil => rfl
      | cons c u =>
        obtain ⟨-, -, hmark⟩ := hrest c u rfl
        simp only [hmark, Bool.false_eq_true, if_false]
    | some e =>
      obtain ⟨c, htext, hmark, -, hdigit⟩ := e.exists_mark
      have hno : NoDigit (c :: (e.unmarked ++ rest)) := by
        rintro d t ⟨⟩
        exact hdigit
      simp only [Option.elim_some, htext, List.cons_append, List.append_assoc]
      rw [readTail_point _ _ _ ds hno]
      simp only [hmark, if_true]
      rw [readExponent_append e _ _ _ hrest]

/-- Neither fraction nor exponent begins with a digit. -/
theorem Literal.noDigit_tail_append (l : Literal) {rest : Text} (hrest : EndsNumber rest) :
    NoDigit (l.tail ++ rest) := by
  unfold Literal.tail
  cases l.fraction? with
  | none =>
    cases l.exponent? with
    | none => exact hrest.noDigit
    | some e =>
      obtain ⟨c, htext, -, -, hdigit⟩ := e.exists_mark
      rw [Option.elim_none, Option.elim_some, htext]
      rintro d t ⟨⟩
      exact hdigit
  | some ds =>
    rintro d t ⟨⟩
    rfl

/-- A literal is read up to the end of the number. -/
theorem Literal.readUnsigned_append (l : Literal) {rest : Text} (hrest : EndsNumber rest) :
    readUnsigned l.negative (l.unsigned ++ rest) = l.reading.map fun n => (n, rest) := by
  have htail := l.readTail_append hrest
  have hno := l.noDigit_tail_append hrest
  have htake := l.whole.takeWhile_append hno
  have hdrop := l.whole.dropWhile_append hno
  obtain ⟨c, u, hcons, hc⟩ := l.whole.exists_cons
  rw [Literal.unsigned, List.append_assoc]
  by_cases hzero : c = '0'
  · -- a leading zero stands alone
    have hu : u = [] := l.leading_zero u (by rw [hcons, hzero])
    have hone : takeDigits 0 ['0'] = (0, 1) := rfl
    have hdropped : l.dropped = 0 := by rw [Literal.dropped, hcons, hzero, hu, hone]; rfl
    rw [hdropped, hcons, hzero, hu, hone] at htail
    rw [hcons, hzero, hu, List.singleton_append]
    generalize l.tail ++ rest = t at htail hno
    cases t with
    | nil =>
      rw [readUnsigned, if_pos rfl]
      exact htail
    | cons d t =>
      rw [readUnsigned, if_pos rfl]
      simp only [hno d t rfl, Bool.false_eq_true, if_false]
      exact htail
  · rw [hcons, List.cons_append] at htake hdrop ⊢
    rw [readUnsigned.eq_def]
    simp only [if_neg hzero, if_pos hc, htake, hdrop]
    rw [Literal.dropped, hcons] at htail
    exact htail

/-! ### Which literals are too large -/

namespace Literal

theorem significand_lt (l : Literal) : l.significand < 2 ^ 64 := by
  unfold significand
  cases l.fraction? with
  | none => exact takeDigits_fst_lt (by decide)
  | some ds => exact takeDigits_fst_lt (takeDigits_fst_lt (by decide))

/-- A literal is taken exactly if it is not too large. -/
theorem exists_reading_eq_ok_iff (l : Literal) : (∃ n, l.reading = .ok n) ↔ l.InRange := by
  unfold reading InRange
  cases l.exponent? with
  | none =>
    dsimp only
    by_cases hinteger : l.fraction?.isNone = true ∧ l.dropped = 0
    · have hshift : l.shift = 0 := by
        rw [shift, Option.isNone_iff_eq_none.1 hinteger.1, hinteger.2]
        rfl
      rw [if_pos hinteger, hshift]
      exact iff_of_true ⟨_, rfl⟩ (fits_of_nonpos l.significand_lt le_rfl)
    · rw [if_neg hinteger]
      exact exists_realOfParts_iff l.negative l.significand_lt l.shift
  | some e =>
    dsimp only
    unfold Exponent.scale
    by_cases hlarge : maxExponent < e.digits.value
    · rw [if_pos hlarge, if_pos hlarge]
      by_cases hrefused : l.significand ≠ 0 ∧ e.sign ≠ .minus
      · rw [if_pos hrefused]
        exact iff_of_false nofun fun h => h.elim hrefused.1 hrefused.2
      · rw [if_neg hrefused]
        exact iff_of_true ⟨_, rfl⟩ (by tauto)
    · rw [if_neg hlarge, if_neg hlarge]
      exact exists_realOfParts_iff l.negative l.significand_lt _

/-- A literal in the range is read as its number. -/
theorem reading_of_inRange {l : Literal} (h : l.InRange) : l.reading = .ok l.number := by
  obtain ⟨n, hn⟩ := l.exists_reading_eq_ok_iff.2 h
  rw [number, hn]

/-- A literal that is too large is malformed. -/
theorem reading_of_not_inRange {l : Literal} (h : ¬ l.InRange) : l.reading = .error .malformed := by
  cases hread : l.reading with
  | ok n => exact absurd (l.exists_reading_eq_ok_iff.1 ⟨n, hread⟩) h
  | error fault =>
    suffices hfault : fault = .malformed by rw [hfault]
    unfold reading Exponent.scale at hread
    cases he : l.exponent? with
    | none =>
      simp only [he] at hread
      split_ifs at hread
      exact eq_malformed_of_realOfParts hread
    | some e =>
      simp only [he] at hread
      split_ifs at hread
      · exact (Except.error.inj hread).symm
      · exact eq_malformed_of_realOfParts hread

/-- A number a little below the largest value of the format. -/
def edge : Literal where
  negative := false
  whole := .ofNat 1
  leading_zero _ h := Text.eq_nil_of_ofNat_eq_cons (n := 1) h
  fraction? := some (.ofNat 797693134862315708)
  exponent? := some ⟨false, .implicit, .ofNat 308⟩

theorem abs_value_edge_le : |edge.value| ≤ Magnitude.largest.value := by
  have hdigits : edge.digits = 1797693134862315708 := by decide +kernel
  have hvalue : edge.value = ((1797693134862315708 * 10 ^ 290 : Nat) : ℚ) := by
    have hpow : (10 : ℚ) ^ (290 : Int) = ((10 ^ 290 : Nat) : ℚ) := by
      rw [Nat.cast_pow, ← zpow_natCast]
      rfl
    rw [value, hdigits, Nat.cast_mul, ← hpow]
    change (1 : ℚ) * _ * 10 ^ (308 - 18 : Int) = _
    rw [one_mul]
    rfl
  have hlargest : Magnitude.largest.value = (((2 ^ 53 - 1) * 2 ^ 971 : Nat) : ℚ) := by
    have hpow : (2 : ℚ) ^ (971 : Int) = ((2 ^ 971 : Nat) : ℚ) := by
      rw [Nat.cast_pow, ← zpow_natCast]
      rfl
    rw [Nat.cast_mul, ← hpow]
    rfl
  have hle : 1797693134862315708 * 10 ^ 290 ≤ (2 ^ 53 - 1) * 2 ^ 971 := by decide +kernel
  rw [hvalue, hlargest, abs_of_nonneg (Nat.cast_nonneg _)]
  exact Nat.cast_le.2 hle

/-- The two roundings of a literal may carry it out of the range: this one is not greater than the
largest value, and is refused. -/
theorem not_inRange_edge : ¬ edge.InRange := by
  have hsignificand : edge.significand = 1797693134862315708 := by decide +kernel
  have hshift : edge.shift = -18 := by decide +kernel
  have hsmall : ¬ maxExponent < 308 := by decide
  have hx : Magnitude.ofRatio? 1797693134862315708 1 = some ⟨7022238808055921, 8⟩ := by
    decide +kernel
  have hproduct : (Magnitude.powerOfTen? 290).bind (Magnitude.mul? ⟨7022238808055921, 8⟩) =
      none := by decide +kernel
  intro h
  change (if maxExponent < 308 then edge.significand = 0 ∨ ExponentSign.implicit = .minus
    else Fits edge.significand (edge.shift + 308)) at h
  rw [if_neg hsmall, hsignificand, hshift, ← exists_scaleDecimal_iff_fits (by decide)] at h
  obtain ⟨z, hz⟩ := h
  rw [hx, Option.bind_some, scaleDecimal_of_nonneg (by decide) (by decide)] at hz
  cases hproduct.symm.trans hz

/-! ### Integers -/

/-- A literal whose digits fit 64 bits is read from all of them. -/
theorem reading_of_whole {l : Literal} (hfraction : l.fraction? = none)
    (hexponent : l.exponent? = none) (hlt : l.whole.value < 2 ^ 64) :
    l.reading = .ok (integerOfParts l.negative l.whole.value) := by
  have htake : takeDigits 0 l.whole.text = (l.whole.value, l.whole.text.length) :=
    takeDigits_of_lt hlt
  have hdropped : l.dropped = 0 := by rw [dropped, htake, Nat.sub_self]
  have hsignificand : l.significand = l.whole.value := by
    rw [significand, hfraction]
    exact congrArg Prod.fst htake
  rw [reading, hexponent, hfraction, hdropped, hsignificand]
  rfl

/-- **Integers of 64 bits are read exactly.**  A literal without fraction and exponent stands for
its integer if that fits 64 bits, signed or unsigned, except that a zero with a sign does not. -/
theorem reading_of_integer? {l : Literal} {z : Int} (h : l.integer? = some z) (hlow : -2 ^ 63 ≤ z)
    (hhigh : z < 2 ^ 64) (hzero : l.negative = true → z ≠ 0) : l.reading = .ok (.integer z) := by
  unfold integer? at h
  split_ifs at h with hplain hnegative
  · obtain rfl : -(l.whole.value : Int) = z := Option.some.inj h
    have hpos : l.whole.value ≠ 0 := fun h0 => hzero hnegative (by rw [h0]; rfl)
    have hbits : ¬ (l.whole.value = 0 ∨ Nat.pow 2 63 < l.whole.value) := by
      have hpow : Nat.pow 2 63 = 2 ^ 63 := rfl
      omega
    rw [reading_of_whole (Option.isNone_iff_eq_none.1 hplain.1)
      (Option.isNone_iff_eq_none.1 hplain.2) (by omega), hnegative, integerOfParts]
    simp only [Bool.not_true, Bool.false_eq_true, if_false, if_neg hbits]
  · obtain rfl : (l.whole.value : Int) = z := Option.some.inj h
    rw [reading_of_whole (Option.isNone_iff_eq_none.1 hplain.1)
      (Option.isNone_iff_eq_none.1 hplain.2) (by omega), Bool.eq_false_iff.2 hnegative]
    rfl

theorem number_of_reading {l : Literal} {n : Number} (h : l.reading = .ok n) : l.number = n := by
  rw [number, h]

/-- An integer literal that fits 64 signed bits is taken over in decimal. -/
theorem toText_number_of_integer? {l : Literal} {z : Int} (h : l.integer? = some z)
    (hlow : -2 ^ 63 ≤ z) (hhigh : z < 2 ^ 63) (hzero : l.negative = true → z ≠ 0) :
    l.InRange ∧ l.number.toText = Text.ofInt z := by
  have hread := reading_of_integer? h hlow (by omega) hzero
  refine ⟨l.exists_reading_eq_ok_iff.1 ⟨_, hread⟩, ?_⟩
  rw [number_of_reading hread]
  exact Number.toText_integer hlow hhigh

end Literal

/-- An integer in plain decimal. -/
def Literal.ofInt (z : Int) : Literal where
  negative := z < 0
  whole := .ofNat z.natAbs
  leading_zero _ h := Text.eq_nil_of_ofNat_eq_cons h
  fraction? := none
  exponent? := none

theorem Literal.text_ofInt (z : Int) : (Literal.ofInt z).text = Text.ofInt z := by
  have hunsigned : (Literal.ofInt z).unsigned = Text.ofNat z.natAbs := List.append_nil _
  rw [Literal.text, hunsigned]
  cases z with
  | ofNat n => rfl
  | negSucc n =>
    have hnegative : (Literal.ofInt (.negSucc n)).negative = true :=
      decide_eq_true (Int.negSucc_lt_zero n)
    rw [if_pos hnegative]
    rfl

theorem Literal.integer?_ofInt (z : Int) : (Literal.ofInt z).integer? = some z := by
  have hvalue : (Literal.ofInt z).whole.value = z.natAbs := Digits.value_ofNat _
  rw [Literal.integer?, if_pos ⟨rfl, rfl⟩, hvalue]
  cases z with
  | ofNat n => rfl
  | negSucc n =>
    have hnegative : (Literal.ofInt (.negSucc n)).negative = true :=
      decide_eq_true (Int.negSucc_lt_zero n)
    rw [if_pos hnegative]
    rfl

end Json

end LinkTemplate
