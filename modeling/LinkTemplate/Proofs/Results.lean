import Mathlib.Data.List.Forall2
/-!
# Results of several readings

Of two readings, one after the other, the first error is the error of both.  A list
is read item by item; the first error ends the reading and is its error.
-/

namespace LinkTemplate

variable {ε α β γ : Type} {f : α → Except ε β} {x : α} {xs : List α} {ys : List β} {fault : ε}

/-- Results with the same image are the same error, or two values with the same image. -/
theorem ends_of_map_eq_map {g : α → β} {r r' : Except ε α} (h : r.map g = r'.map g) :
    (∃ fault, r = .error fault ∧ r' = .error fault) ∨
      ∃ a a', r = .ok a ∧ r' = .ok a' ∧ g a = g a' := by
  rcases r with fault | a
  · rcases r' with fault' | a'
    · cases h
      exact .inl ⟨fault, rfl, rfl⟩
    · cases h
  · rcases r' with fault' | a'
    · cases h
    · exact .inr ⟨a, a', rfl, rfl, Except.ok.inj h⟩

/-- A result with an image that is an error is that error. -/
theorem eq_error_of_map_eq_error {g : α → β} {r : Except ε α} (h : r.map g = .error fault) :
    r = .error fault := by
  rcases r with fault' | a
  · cases h
    rfl
  · cases h

/-- Results with the same errors are there together. -/
theorem exists_eq_ok_iff_of_error_iff {r : Except ε α} {r' : Except ε β}
    (h : ∀ fault, r = .error fault ↔ r' = .error fault) : (∃ a, r = .ok a) ↔ ∃ b, r' = .ok b := by
  rcases r with fault | a
  · rw [(h fault).1 rfl]
    simp
  · rcases r' with fault' | b
    · cases (h fault').2 rfl
    · simp

/-- Two results, one after the other, are there if both are. -/
theorem bind_map_eq_ok_iff {r : Except ε α} {r' : Except ε β} {g : α → β → γ} {c : γ} :
    (r.bind fun a => r'.map (g a)) = .ok c ↔ ∃ a b, r = .ok a ∧ r' = .ok b ∧ c = g a b := by
  rcases r with fault | a
  · simp [Except.bind]
  · rcases r' with fault | b
    · simp [Except.bind, Except.map]
    · simp [Except.bind, Except.map, eq_comm]

/-- Of two results, one after the other, the second gives the error only if the first is there. -/
theorem bind_map_eq_error_iff {r : Except ε α} {r' : Except ε β} {g : α → β → γ} :
    (r.bind fun a => r'.map (g a)) = .error fault ↔
      r = .error fault ∨ (∃ a, r = .ok a) ∧ r' = .error fault := by
  rcases r with fault | a
  · simp [Except.bind]
  · rcases r' with fault | b
    · simp [Except.bind, Except.map]
    · simp [Except.bind, Except.map]

/-- An item that is not read ends the reading. -/
theorem mapM_cons_of_error (hx : f x = .error fault) (xs : List α) :
    (x :: xs).mapM f = .error fault := by
  rw [List.mapM_cons, hx]
  rfl

/-- After an item that is read, the others are. -/
theorem mapM_cons_of_ok {y : β} (hx : f x = .ok y) (xs : List α) :
    (x :: xs).mapM f = (xs.mapM f).map fun ys => y :: ys := by
  rw [List.mapM_cons, hx]
  cases xs.mapM f <;> rfl

/-- A list whose items are what they are read as is read as it is. -/
theorem mapM_ok (xs : List α) : xs.mapM Except.ok = (.ok xs : Except ε (List α)) := by
  have hpure := List.mapM_pure (m := Except ε) (l := xs) (f := id)
  rwa [List.map_id] at hpure

/-- A list is read if each of its items is, and gives what the items give. -/
theorem mapM_eq_ok_iff : xs.mapM f = .ok ys ↔ List.Forall₂ (fun x y => f x = .ok y) xs ys := by
  induction xs generalizing ys with
  | nil =>
    rw [List.forall₂_nil_left_iff]
    exact ⟨fun h => (Except.ok.inj h).symm, fun h => h ▸ rfl⟩
  | cons x xs ih =>
    constructor
    · intro h
      cases hx : f x with
      | error fault =>
        rw [mapM_cons_of_error hx] at h
        cases h
      | ok y =>
        rw [mapM_cons_of_ok hx] at h
        cases hxs : xs.mapM f with
        | error fault =>
          rw [hxs] at h
          cases h
        | ok ys' =>
          rw [hxs] at h
          cases h
          exact .cons hx (ih.1 hxs)
    · intro h
      cases h with
      | cons hx hxs =>
        rw [mapM_cons_of_ok hx, ih.2 hxs]
        rfl

/-- A list is read if each of its items is. -/
theorem exists_mapM_eq_ok_iff :
    (∃ ys, xs.mapM f = .ok ys) ↔ ∀ x ∈ xs, ∃ y, f x = .ok y := by
  induction xs with
  | nil => exact iff_of_true ⟨[], rfl⟩ fun x hx => absurd hx List.not_mem_nil
  | cons x xs ih =>
    rw [List.forall_mem_cons, ← ih]
    cases hx : f x with
    | error fault =>
      rw [mapM_cons_of_error hx]
      simp
    | ok y =>
      rw [mapM_cons_of_ok hx]
      cases xs.mapM f <;> simp [Except.map]

/-- The error of a reading is that of the first item that is not read. -/
theorem mapM_eq_error_iff : xs.mapM f = .error fault ↔
    ∃ before x after, xs = before ++ x :: after ∧ (∀ y ∈ before, ∃ z, f y = .ok z) ∧
      f x = .error fault := by
  constructor
  · intro h
    induction xs with
    | nil => cases h
    | cons x xs ih =>
      cases hx : f x with
      | error fault' =>
        rw [mapM_cons_of_error hx] at h
        cases h
        exact ⟨[], x, xs, rfl, nofun, hx⟩
      | ok y =>
        rw [mapM_cons_of_ok hx] at h
        have hxs : xs.mapM f = .error fault := by
          cases hxs : xs.mapM f with
          | error fault' =>
            rw [hxs] at h
            exact h
          | ok ys =>
            rw [hxs] at h
            cases h
        obtain ⟨before, x', after, rfl, hbefore, hx'⟩ := ih hxs
        exact ⟨x :: before, x', after, rfl, List.forall_mem_cons.2 ⟨⟨y, hx⟩, hbefore⟩, hx'⟩
  · rintro ⟨before, x, after, rfl, hbefore, hx⟩
    induction before with
    | nil => exact mapM_cons_of_error hx after
    | cons x' before ih =>
      obtain ⟨⟨z, hz⟩, hbefore'⟩ := List.forall_mem_cons.1 hbefore
      rw [List.cons_append, mapM_cons_of_ok hz, ih hbefore']
      rfl

/-- Two lists, one after the other, have the error of the first, or else that of the second. -/
theorem mapM_append_eq_error_iff {xs' : List α} : (xs ++ xs').mapM f = .error fault ↔
    xs.mapM f = .error fault ∨ (∃ ys, xs.mapM f = .ok ys) ∧ xs'.mapM f = .error fault := by
  rw [List.mapM_append]
  exact bind_map_eq_error_iff

/-- If all of them succeed, the results that succeed are all of them. -/
theorem filterMap_toOption_of_mapM {ε α : Type} {found : List (Except ε α)} {xs : List α}
    (h : found.mapM id = .ok xs) : found.filterMap Except.toOption = xs := by
  have hall := mapM_eq_ok_iff.1 h
  clear h
  induction hall with
  | nil => rfl
  | @cons result x _ _ hresult _ ih =>
    have hok : result = .ok x := hresult
    rw [hok]
    exact congrArg (x :: ·) ih

end LinkTemplate
