/-!
# Text

Templates, names and values are sequences of characters.  The whole library
works on `List Char`, so that cutting, joining and scanning are list recursions
and every fact about them is a fact about lists.  `String` appears only where a
fixed wording is written down.

Positions in a template are counted in UTF-8 bytes: `byteLength` is the measure
that turns a text into the width it occupies.  `bytes` are the bytes themselves, and
`ofBytes?` is the way back.  It accepts exactly the well-formed byte sequences: no
overlong form, no surrogate, nothing above U+10FFFF and no truncated sequence.
-/

namespace LinkTemplate

/-- A text is the list of its characters. -/
abbrev Text := List Char

namespace Text

/-- The number of bytes of the UTF-8 form of a text. -/
def byteLength : Text → Nat
  | [] => 0
  | c :: t => c.utf8Size + byteLength t

@[simp] theorem byteLength_nil : byteLength [] = 0 := rfl

@[simp] theorem byteLength_cons (c : Char) (t : Text) :
    byteLength (c :: t) = c.utf8Size + byteLength t := rfl

/-- Widths add up along concatenation, so the offset of a part is the width of what precedes it. -/
@[simp] theorem byteLength_append (s t : Text) :
    byteLength (s ++ t) = byteLength s + byteLength t := by
  induction s with
  | nil => simp
  | cons c s ih => simp [ih, Nat.add_assoc]

/-! ### Cutting at a character -/

/-- The parts before and after the first `c`, if there is one. -/
def cutAt (c : Char) : Text → Option (Text × Text)
  | [] => none
  | d :: t =>
    if d = c then some ([], t)
    else (cutAt c t).map fun (before, after) => (d :: before, after)

theorem cutAt_eq_none_iff {c : Char} {t : Text} : cutAt c t = none ↔ c ∉ t := by
  induction t with
  | nil => simp [cutAt]
  | cons d t ih =>
    by_cases h : d = c
    · simp [cutAt, h]
    · simp [cutAt, h, ih, Ne.symm h]

/-- The cut is at the first occurrence, and gluing the parts with `c` gives the text back. -/
theorem cutAt_eq_some_iff {c : Char} {t before after : Text} :
    cutAt c t = some (before, after) ↔ t = before ++ c :: after ∧ c ∉ before := by
  induction t generalizing before with
  | nil => simp [cutAt]
  | cons d t ih =>
    by_cases h : d = c
    · subst h
      cases before <;> simp [cutAt, eq_comm]
      intro h; simp [h]
    · cases before with
      | nil => simp [cutAt, h]
      | cons e before =>
        simp only [cutAt, h, if_false, Option.map_eq_some_iff, Prod.mk.injEq, Prod.exists,
          List.cons.injEq, List.cons_append, List.mem_cons, not_or]
        constructor
        · rintro ⟨b, a, hcut, ⟨rfl, rfl⟩, rfl⟩
          obtain ⟨rfl, hb⟩ := ih.1 hcut
          exact ⟨⟨rfl, rfl⟩, Ne.symm h, hb⟩
        · rintro ⟨⟨rfl, rfl⟩, _, hb⟩
          exact ⟨before, after, ih.2 ⟨rfl, hb⟩, ⟨rfl, rfl⟩, rfl⟩

/-- What follows a cut is shorter than the text. -/
theorem length_lt_of_cutAt {c : Char} {t before after : Text}
    (h : cutAt c t = some (before, after)) : after.length < t.length := by
  obtain ⟨rfl, -⟩ := cutAt_eq_some_iff.1 h
  simp
  omega

/-! ### Joining -/

/-- The texts with `separator` between neighbours. -/
def joinWith (separator : Text) (parts : List Text) : Text := separator.intercalate parts

@[simp] theorem joinWith_nil (separator : Text) : joinWith separator [] = [] := rfl

@[simp] theorem joinWith_singleton (separator t : Text) : joinWith separator [t] = t := by
  simp [joinWith, List.intercalate]

@[simp] theorem joinWith_cons_cons (separator s t : Text) (parts : List Text) :
    joinWith separator (s :: t :: parts) = s ++ separator ++ joinWith separator (t :: parts) := by
  simp [joinWith, List.intercalate]

/-- The separator stands between neighbours: in front of all parts but the first. -/
theorem joinWith_cons (separator part : Text) (parts : List Text) :
    joinWith separator (part :: parts) = part ++ parts.flatMap fun p => separator ++ p := by
  induction parts generalizing part with
  | nil => simp
  | cons next parts ih =>
    rw [joinWith_cons_cons, ih next, List.flatMap_cons]
    simp

/-! ### Numbers -/

/-- A natural number in decimal. -/
def ofNat (n : Nat) : Text := Nat.toDigits 10 n

/-- An integer in decimal, a minus sign in front of the negative ones. -/
def ofInt : Int → Text
  | .ofNat n => ofNat n
  | .negSucc n => '-' :: ofNat (n + 1)

/-- The value of a hexadecimal digit of either case. -/
def hexDigitValue? (c : Char) : Option Nat :=
  if '0' ≤ c ∧ c ≤ '9' then some (c.toNat - '0'.toNat)
  else if 'a' ≤ c ∧ c ≤ 'f' then some (c.toNat - 'a'.toNat + 10)
  else if 'A' ≤ c ∧ c ≤ 'F' then some (c.toNat - 'A'.toNat + 10)
  else none

/-- The value of a text of digits in base `base` (at most 16); none for the empty text and for one
with a character that is no digit of the base. -/
def natOfDigits? (base : Nat) (t : Text) : Option Nat :=
  if t.isEmpty then none
  else t.foldl (fun acc c => do
    let value ← acc
    let digit ← hexDigitValue? c
    if digit < base then some (value * base + digit) else none) (some 0)

/-! ### UTF-8 -/

/-- The UTF-8 form of a text. -/
def bytes (t : Text) : List UInt8 := t.flatMap String.utf8EncodeChar

@[simp] theorem bytes_nil : bytes [] = [] := rfl

@[simp] theorem bytes_cons (c : Char) (t : Text) :
    bytes (c :: t) = String.utf8EncodeChar c ++ bytes t := rfl

@[simp] theorem bytes_append (s t : Text) : bytes (s ++ t) = bytes s ++ bytes t := by
  simp [bytes]

/-- The six payload bits of a continuation byte. -/
def continuation? (b : UInt8) : Option Nat :=
  if 0x80 ≤ b.toNat ∧ b.toNat < 0xC0 then some (b.toNat - 0x80) else none

/-- The character with a code point of at least `least`, if there is such a character. -/
def scalar? (least code : Nat) : Option Char :=
  if h : code.isValidChar ∧ least ≤ code then some (Char.ofNatAux code h.1) else none

/-- The text of which a byte sequence is the UTF-8 form. -/
def ofBytes? : List UInt8 → Option Text
  | [] => some []
  | b :: rest =>
    if b.toNat < 0x80 then do
      let c ← scalar? 0 b.toNat
      return c :: (← ofBytes? rest)
    else if 0xC2 ≤ b.toNat ∧ b.toNat < 0xE0 then
      match rest with
      | b₁ :: rest => do
        let p₁ ← continuation? b₁
        let c ← scalar? 0x80 ((b.toNat - 0xC0) * 0x40 + p₁)
        return c :: (← ofBytes? rest)
      | [] => none
    else if 0xE0 ≤ b.toNat ∧ b.toNat < 0xF0 then
      match rest with
      | b₁ :: b₂ :: rest => do
        let p₁ ← continuation? b₁
        let p₂ ← continuation? b₂
        let c ← scalar? 0x800 (((b.toNat - 0xE0) * 0x40 + p₁) * 0x40 + p₂)
        return c :: (← ofBytes? rest)
      | _ => none
    else if 0xF0 ≤ b.toNat ∧ b.toNat < 0xF5 then
      match rest with
      | b₁ :: b₂ :: b₃ :: rest => do
        let p₁ ← continuation? b₁
        let p₂ ← continuation? b₂
        let p₃ ← continuation? b₃
        let c ← scalar? 0x10000 ((((b.toNat - 0xF0) * 0x40 + p₁) * 0x40 + p₂) * 0x40 + p₃)
        return c :: (← ofBytes? rest)
      | _ => none
    else none

end Text

end LinkTemplate
