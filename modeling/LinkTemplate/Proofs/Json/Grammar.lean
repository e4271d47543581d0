import LinkTemplate.Proofs.Json.Literal
/-!
# The texts of a JSON value

A value can be written in many ways: blanks may stand around each of its parts, a character
of a string may be written as an escape, a number in several notations.  `Json.Spells` is
the grammar, as a relation between values and their texts.  It follows the nesting of
arrays and objects, which is bounded, so it is a recursion on that bound; what a literal
means is a parameter of it.

The grammar knows no lone surrogates: an escape is a code point of a character, or two
escapes are the halves of a surrogate pair.
-/

namespace LinkTemplate.Json

/-- The text consists of blanks. -/
def AllBlank (t : Text) : Prop := ∀ c ∈ t, isBlank c = true

theorem allBlank_nil : AllBlank [] := List.forall_mem_nil _

/-! ### Strings -/

/-- Four hexadecimal digits and their value. -/
def SpellsHex (n : Nat) (t : Text) : Prop := t.length = 4 ∧ Text.natOfDigits? 16 t = some n

/-- The ways in which a character is written inside a string. -/
inductive SpellsChar : Char → Text → Prop
  /-- All but quotes, backslashes and control characters may stand for themselves. -/
  | plain {c : Char} : c ≠ '"' → c ≠ '\\' → ¬ c < ' ' → SpellsChar c [c]
  | letter {c d : Char} : simpleEscape? d = some c → SpellsChar c ['\\', d]
  | code {n : Nat} {t : Text} : SpellsHex n t → ¬ (0xD800 ≤ n ∧ n ≤ 0xDFFF) →
      SpellsChar (charOfCode n) ('\\' :: 'u' :: t)
  /-- A surrogate pair holds ten bits of the code point in each half. -/
  | pair {high low : Nat} {t u : Text} : SpellsHex high t → 0xD800 ≤ high ∧ high ≤ 0xDBFF →
      SpellsHex low u → 0xDC00 ≤ low ∧ low ≤ 0xDFFF →
      SpellsChar (charOfCode (0x10000 + (high - 0xD800) * 0x400 + (low - 0xDC00)))
        ('\\' :: 'u' :: (t ++ '\\' :: 'u' :: u))

/-- A string in quotes. -/
def SpellsString (s t : Text) : Prop :=
  ∃ parts, List.Forall₂ SpellsChar s parts ∧ t = '"' :: (parts.flatten ++ ['"'])

/-! ### What stands between brackets -/

/-- A text with blanks around it. -/
def Padded (P : Text → Prop) (t : Text) : Prop :=
  ∃ before core after, AllBlank before ∧ P core ∧ AllBlank after ∧ t = before ++ (core ++ after)

section Listed

variable {α : Type}

/-- Items with blanks around them and commas between them; blanks if there are no items. -/
def Listed (P : α → Text → Prop) (xs : List α) (t : Text) : Prop :=
  (xs = [] ∧ AllBlank t) ∨
    ∃ parts, List.Forall₂ (fun x part => Padded (P x) part) xs parts ∧
      t = Text.joinWith [','] parts

/-- A list of items in brackets. -/
def Enclosed (opening closing : Char) (P : α → Text → Prop) (xs : List α) (t : Text) : Prop :=
  ∃ inside, Listed P xs inside ∧ t = opening :: (inside ++ [closing])

/-- A name, a colon and what is bound to the name, perhaps with blanks around the colon. -/
def SpellsMember (P : α → Text → Prop) (m : Text × α) (t : Text) : Prop :=
  ∃ name gap space core, SpellsString m.1 name ∧ AllBlank gap ∧ AllBlank space ∧ P m.2 core ∧
    t = name ++ (gap ++ ':' :: (space ++ core))

end Listed

/-! ### Values -/

section Values

variable (Means : Literal → Number → Prop)

/-- The text writes the value, in which arrays and objects are nested at most so deep. -/
def Spells : Nat → Json → Text → Prop
  | _, null, t => t = "null".toList
  | _, bool b, t => t = if b then "true".toList else "false".toList
  | _, number n, t => ∃ l, Means l n ∧ t = l.text
  | _, string s, t => SpellsString s t
  | depth + 1, array items, t => Enclosed '[' ']' (Spells depth) items t
  | depth + 1, object members, t => Enclosed '{' '}' (SpellsMember (Spells depth)) members t
  | 0, array _, _ => False
  | 0, object _, _ => False

/-- A document is the text of a value, perhaps with blanks around it. -/
def SpellsDocument (j : Json) (t : Text) : Prop := Padded (Spells Means maxDepth j) t

end Values

/-- The value is neither an array nor an object. -/
def IsAtom : Json → Prop
  | array _ => False
  | object _ => False
  | _ => True

variable {Means : Literal → Number → Prop} {depth : Nat} {j : Json} {t : Text}

/-- Nesting does not matter for what holds no brackets. -/
theorem Spells.of_isAtom (h : Spells Means depth j t) (hj : j.IsAtom) (depth' : Nat) :
    Spells Means depth' j t := by
  cases j with
  | array items => exact absurd hj id
  | object members => exact absurd hj id
  | null =>
    rw [Spells] at h ⊢
    exact h
  | bool b =>
    rw [Spells] at h ⊢
    exact h
  | number n =>
    rw [Spells] at h ⊢
    exact h
  | string s =>
    rw [Spells] at h ⊢
    exact h

end LinkTemplate.Json
