import LinkTemplate.Template
import Mathlib.Data.List.Chain
/-!
# The grammar of templates

The grammar says how the bytes of a text are divided into literals and
expressions (`Template.IsSegmentation`): the ranges follow each other without a
gap, none is empty and no two literals are neighbours; an expression is a body
between braces that is not empty and holds no closing brace; and a literal opens no
expression, which means that each of its opening braces is closed at once or not at
all.

Whether an expression begins at an offset can be seen from the bytes alone
(`Template.OpensAt`), and so can where it ends.  Hence there is at most one such
division of given bytes (`Template.IsSegmentation.unique`).
-/

namespace LinkTemplate

namespace Template

/-! ### The grammar -/

/-- What a range of a text is taken for. -/
inductive Role where
  | literal
  | expression
deriving DecidableEq, Repr

/-- A range of bytes and what it is taken for. -/
structure Place where
  role : Role
  span : Span
deriving DecidableEq, Repr

/-- The places follow each other without a gap from one offset to another. -/
def Covers (start stop : Nat) : List Place → Prop
  | [] => start = stop
  | p :: rest => p.span.start = start ∧ Covers p.span.stop stop rest

/-- The places divide the bytes from an offset on into literals and expressions. -/
structure IsSegmentation (bytes : List UInt8) (start : Nat) (places : List Place) : Prop where
  covers : Covers start bytes.length places
  nonempty : ∀ p ∈ places, p.span.start < p.span.stop
  separated : places.IsChain fun p q => ¬ (p.role = .literal ∧ q.role = .literal)
  braced : ∀ p ∈ places, p.role = .expression → ∃ body : List UInt8,
    bytes.extract p.span.start p.span.stop = '{'.toUInt8 :: body ++ ['}'.toUInt8] ∧
      body ≠ [] ∧ '}'.toUInt8 ∉ body
  /-- An opening brace in a literal is closed at once, or it is never closed. -/
  unopened : ∀ p ∈ places, p.role = .literal → ∀ i, p.span.start ≤ i → i < p.span.stop →
    bytes[i]? = some '{'.toUInt8 →
      bytes[i + 1]? = some '}'.toUInt8 ∨ ∀ j, i < j → bytes[j]? ≠ some '}'.toUInt8

/-- An expression begins at an offset: an opening brace that is closed, but not at once. -/
def OpensAt (bytes : List UInt8) (i : Nat) : Prop :=
  bytes[i]? = some '{'.toUInt8 ∧ bytes[i + 1]? ≠ some '}'.toUInt8 ∧
    ∃ j, i < j ∧ bytes[j]? = some '}'.toUInt8

variable {bytes : List UInt8} {start stop : Nat} {p : Place} {rest places : List Place}

/-- The grammar allows exactly the opening braces in a literal with which no expression begins. -/
theorem not_opensAt_iff {i : Nat} :
    ¬ OpensAt bytes i ↔ (bytes[i]? = some '{'.toUInt8 →
      bytes[i + 1]? = some '}'.toUInt8 ∨ ∀ j, i < j → bytes[j]? ≠ some '}'.toUInt8) := by
  constructor
  · intro h hopen
    by_cases hnext : bytes[i + 1]? = some '}'.toUInt8
    · exact .inl hnext
    · exact .inr fun j hij hclose => h ⟨hopen, hnext, j, hij, hclose⟩
  · rintro h ⟨hopen, hnext, j, hij, hclose⟩
    rcases h hopen with hclosed | hnever
    · exact hnext hclosed
    · exact hnever j hij hclose

namespace IsSegmentation

/-! ### Dividing from the end -/

/-- If nothing is left, there is nothing to divide. -/
theorem nil (bytes : List UInt8) : IsSegmentation bytes bytes.length [] where
  covers := rfl
  nonempty := List.forall_mem_nil _
  separated := .nil
  braced := List.forall_mem_nil _
  unopened := List.forall_mem_nil _

/-- A literal in which no expression begins, in front of an expression or at the end. -/
theorem cons_literal (h : IsSegmentation bytes stop places) (hlt : start < stop)
    (hnext : ∀ q ∈ places.head?, q.role = .expression)
    (hopens : ∀ i, start ≤ i → i < stop → ¬ OpensAt bytes i) :
    IsSegmentation bytes start (⟨.literal, ⟨start, stop⟩⟩ :: places) where
  covers := ⟨rfl, h.covers⟩
  nonempty := List.forall_mem_cons.2 ⟨hlt, h.nonempty⟩
  separated := by
    refine List.isChain_cons.2 ⟨fun q hq hboth => ?_, h.separated⟩
    cases hboth.2.symm.trans (hnext q hq)
  braced := List.forall_mem_cons.2 ⟨nofun, h.braced⟩
  unopened := List.forall_mem_cons.2
    ⟨fun _ i hstart hstop => not_opensAt_iff.1 (hopens i hstart hstop), h.unopened⟩

/-- An expression in front of whatever follows. -/
theorem cons_expression (h : IsSegmentation bytes stop places) (hlt : start < stop)
    (hbraced : ∃ body : List UInt8,
      bytes.extract start stop = '{'.toUInt8 :: body ++ ['}'.toUInt8] ∧ body ≠ [] ∧
        '}'.toUInt8 ∉ body) :
    IsSegmentation bytes start (⟨.expression, ⟨start, stop⟩⟩ :: places) where
  covers := ⟨rfl, h.covers⟩
  nonempty := List.forall_mem_cons.2 ⟨hlt, h.nonempty⟩
  separated := List.isChain_cons.2 ⟨fun _ _ hboth => (nomatch hboth.1), h.separated⟩
  braced := List.forall_mem_cons.2 ⟨fun _ => hbraced, h.braced⟩
  unopened := List.forall_mem_cons.2 ⟨nofun, h.unopened⟩

/-! ### At most one division -/

/-- What follows the first place is divided by the other places. -/
theorem tail (h : IsSegmentation bytes start (p :: rest)) :
    IsSegmentation bytes p.span.stop rest where
  covers := h.covers.2
  nonempty q hq := h.nonempty q (List.mem_cons_of_mem p hq)
  separated := h.separated.tail
  braced q hq := h.braced q (List.mem_cons_of_mem p hq)
  unopened q hq := h.unopened q (List.mem_cons_of_mem p hq)

/-- The places do not go beyond the bytes. -/
theorem start_le (h : IsSegmentation bytes start places) : start ≤ bytes.length := by
  induction places generalizing start with
  | nil => exact Nat.le_of_eq h.covers
  | cons p rest ih =>
    have hstart : p.span.start = start := h.covers.1
    have hlt : p.span.start < p.span.stop := h.nonempty p List.mem_cons_self
    have hle : p.span.stop ≤ bytes.length := ih h.tail
    omega

/-- No expression begins in a literal. -/
theorem not_opensAt (h : IsSegmentation bytes start (p :: rest)) (hrole : p.role = .literal)
    {i : Nat} (hstart : start ≤ i) (hstop : i < p.span.stop) : ¬ OpensAt bytes i := by
  have hi : p.span.start ≤ i := h.covers.1 ▸ hstart
  exact not_opensAt_iff.2 (h.unopened p List.mem_cons_self hrole i hi hstop)

/-- After a literal the bytes end, or an expression begins. -/
theorem stop_of_literal (h : IsSegmentation bytes start (p :: rest)) (hrole : p.role = .literal) :
    p.span.stop = bytes.length ∨ ∃ q after, rest = q :: after ∧ q.role = .expression := by
  cases rest with
  | nil => exact .inl h.tail.covers
  | cons q after =>
    have hne : ¬ (p.role = .literal ∧ q.role = .literal) :=
      (List.isChain_cons_cons.1 h.separated).1
    cases hq : q.role with
    | literal => exact absurd ⟨hrole, hq⟩ hne
    | expression => exact .inr ⟨q, after, rfl, hq⟩

/-- An expression begins with an opening brace and ends with the first closing brace after it. -/
theorem braces_of_expression (h : IsSegmentation bytes start (p :: rest))
    (hrole : p.role = .expression) :
    start + 2 < p.span.stop ∧ bytes[start]? = some '{'.toUInt8 ∧
      bytes[p.span.stop - 1]? = some '}'.toUInt8 ∧
      ∀ j, start < j → j < p.span.stop - 1 → bytes[j]? ≠ some '}'.toUInt8 := by
  obtain ⟨body, hextract, hne, hclose⟩ := h.braced p List.mem_cons_self hrole
  have hstart : p.span.start = start := h.covers.1
  have hle : p.span.stop ≤ bytes.length := h.tail.start_le
  rw [hstart, List.extract_eq_take_drop] at hextract
  have hlength : p.span.stop - start = body.length + 2 := by
    have hboth := congrArg List.length hextract
    simp at hboth
    omega
  have hpos : 0 < body.length := List.length_pos_iff.2 hne
  have hget : ∀ k, k < body.length + 2 →
      bytes[start + k]? = ('{'.toUInt8 :: body ++ ['}'.toUInt8])[k]? := by
    intro k hk
    rw [← hextract, List.getElem?_take_of_lt (by omega), List.getElem?_drop]
  refine ⟨by omega, ?_, ?_, ?_⟩
  · exact hget 0 (by omega)
  · have hlast : p.span.stop - 1 = start + (body.length + 1) := by omega
    rw [hlast, hget _ (by omega)]
    simp
  · intro j hj hj'
    have hsplit : j = start + (j - start - 1 + 1) := by omega
    rw [hsplit, hget _ (by omega), List.cons_append, List.getElem?_cons_succ,
      List.getElem?_append_left (by omega)]
    intro hmem
    exact hclose (List.mem_of_getElem? hmem)

/-- Whether the first place is an expression can be seen from the bytes. -/
theorem role_eq_expression_iff (h : IsSegmentation bytes start (p :: rest)) :
    p.role = .expression ↔ OpensAt bytes start := by
  constructor
  · intro hrole
    obtain ⟨hlt, hopen, hclose, hfirst⟩ := h.braces_of_expression hrole
    exact ⟨hopen, hfirst (start + 1) (by omega) (by omega), p.span.stop - 1, by omega, hclose⟩
  · intro hopens
    have hlt : p.span.start < p.span.stop := h.nonempty p List.mem_cons_self
    have hstart : p.span.start = start := h.covers.1
    cases hrole : p.role with
    | expression => rfl
    | literal => exact absurd hopens (h.not_opensAt hrole (Nat.le_refl start) (by omega))

/-- Of two first places of one role, neither ends before the other. -/
theorem stop_le_of_role_eq {q : Place} {rest' : List Place}
    (h : IsSegmentation bytes start (p :: rest)) (h' : IsSegmentation bytes start (q :: rest'))
    (hrole : p.role = q.role) : q.span.stop ≤ p.span.stop := by
  have hlt : p.span.start < p.span.stop := h.nonempty p List.mem_cons_self
  have hstart : p.span.start = start := h.covers.1
  rw [← Nat.not_lt]
  intro hshort
  cases hp : p.role with
  | literal =>
    -- The shorter literal is followed by an expression, which begins inside the longer one.
    rcases h.stop_of_literal hp with hend | ⟨r, after, rfl, hr⟩
    · have hle : q.span.stop ≤ bytes.length := h'.tail.start_le
      omega
    · have hopens : OpensAt bytes p.span.stop := h.tail.role_eq_expression_iff.1 hr
      exact h'.not_opensAt (hrole ▸ hp) (by omega) hshort hopens
  | expression =>
    -- The brace that closes the shorter expression closes the longer one.
    obtain ⟨hwidth, -, hclose, -⟩ := h.braces_of_expression hp
    obtain ⟨-, -, -, hfirst⟩ := h'.braces_of_expression (hrole ▸ hp)
    exact hfirst (p.span.stop - 1) (by omega) (by omega) hclose

/-- Two divisions begin with the same place. -/
theorem head_unique {q : Place} {rest' : List Place} (h : IsSegmentation bytes start (p :: rest))
    (h' : IsSegmentation bytes start (q :: rest')) : p = q := by
  have hexpression : p.role = .expression ↔ q.role = .expression :=
    h.role_eq_expression_iff.trans h'.role_eq_expression_iff.symm
  have hrole : p.role = q.role := by
    cases hp : p.role with
    | expression => exact (hexpression.1 hp).symm
    | literal =>
      cases hq : q.role with
      | literal => rfl
      | expression => exact hp.symm.trans (hexpression.2 hq)
  have hstart : p.span.start = q.span.start := h.covers.1.trans h'.covers.1.symm
  have hstop : p.span.stop = q.span.stop :=
    Nat.le_antisymm (h'.stop_le_of_role_eq h hrole.symm) (h.stop_le_of_role_eq h' hrole)
  obtain ⟨role, first, last⟩ := p
  obtain ⟨role', first', last'⟩ := q
  cases hrole
  cases hstart
  cases hstop
  rfl

/-- If nothing is left, there are no places. -/
theorem eq_nil (h : IsSegmentation bytes bytes.length places) : places = [] := by
  cases places with
  | nil => rfl
  | cons p rest =>
    have hstart : p.span.start = bytes.length := h.covers.1
    have hlt : p.span.start < p.span.stop := h.nonempty p List.mem_cons_self
    have hle : p.span.stop ≤ bytes.length := h.tail.start_le
    omega

/-- Bytes are divided in at most one way. -/
theorem unique {others : List Place} (h : IsSegmentation bytes start places)
    (h' : IsSegmentation bytes start others) : places = others := by
  induction places generalizing start others with
  | nil =>
    have hstart : start = bytes.length := h.covers
    subst hstart
    exact h'.eq_nil.symm
  | cons p rest ih =>
    cases others with
    | nil =>
      have hstart : start = bytes.length := h'.covers
      subst hstart
      exact h.eq_nil
    | cons q rest' =>
      obtain rfl : p = q := h.head_unique h'
      rw [ih h.tail h'.tail]

end IsSegmentation

end Template

end LinkTemplate
