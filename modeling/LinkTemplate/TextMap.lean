import LinkTemplate.Text
/-!
# Finite maps keyed by text

`TextMap α` keeps its entries in strictly increasing order of their keys, which
is the order of their UTF-8 forms.  The order is part of the type, so two maps
with the same look-ups are equal, no key occurs twice, and whatever lists the
entries lists them sorted.

Each operation is described by what it does to `get?`.
-/

namespace LinkTemplate

/-- A finite map from texts to `α`, its entries sorted by key. -/
structure TextMap (α : Type) where
  entries : List (Text × α)
  sorted : entries.Pairwise fun a b => a.1 < b.1

namespace TextMap

variable {α : Type}

/-- The map that binds nothing. -/
def empty : TextMap α := ⟨[], .nil⟩

instance : EmptyCollection (TextMap α) := ⟨empty⟩

/-- The value bound to a key. -/
def get? (m : TextMap α) (key : Text) : Option α := m.entries.lookup key

/-- A key is bound, whatever its value. -/
def contains (m : TextMap α) (key : Text) : Bool := (m.get? key).isSome

/-- The number of bound keys. -/
def size (m : TextMap α) : Nat := m.entries.length

/-- No key is bound. -/
def isEmpty (m : TextMap α) : Bool := m.entries.isEmpty

/-- The bound keys in increasing order. -/
def keys (m : TextMap α) : List Text := m.entries.map (·.1)

theorem length_keys (m : TextMap α) : m.keys.length = m.size := List.length_map _

/-- The keys are those at which something is found. -/
theorem mem_keys_iff {m : TextMap α} {key : Text} : key ∈ m.keys ↔ (m.get? key).isSome := by
  unfold keys get?
  rw [List.lookup_isSome_iff, List.mem_map]
  simp only [beq_iff_eq]
  exact ⟨fun ⟨e, he, heq⟩ => ⟨e, he, heq.symm⟩, fun ⟨e, he, heq⟩ => ⟨e, he, heq.symm⟩⟩

/-- No key is listed twice. -/
theorem nodup_keys (m : TextMap α) : m.keys.Nodup := by
  refine List.pairwise_map.2 (m.sorted.imp fun {a b} hlt heq => ?_)
  rw [heq] at hlt
  exact List.lt_irrefl _ hlt

/-! ### Equality is equality of look-ups -/

theorem ext_entries {m n : TextMap α} (h : m.entries = n.entries) : m = n := by
  cases m; cases n; cases h; rfl

theorem lookup_cons_ite (key k : Text) (v : α) (rest : List (Text × α)) :
    ((k, v) :: rest).lookup key = if key = k then some v else rest.lookup key := by
  by_cases h : key = k
  · simp [h]
  · rw [List.lookup_cons, beq_false_of_ne h, if_neg h]

theorem lookup_eq_none_of_lt {key : Text} {entries : List (Text × α)}
    (h : ∀ e ∈ entries, key < e.1) : entries.lookup key = none := by
  rw [List.lookup_eq_none_iff]
  intro e he
  rw [bne_iff_ne]
  rintro rfl
  exact List.lt_irrefl _ (h e he)

theorem eq_of_lookup_eq {l₁ l₂ : List (Text × α)} (h₁ : l₁.Pairwise fun a b => a.1 < b.1)
    (h₂ : l₂.Pairwise fun a b => a.1 < b.1) (h : ∀ key, l₁.lookup key = l₂.lookup key) :
    l₁ = l₂ := by
  induction l₁ generalizing l₂ with
  | nil =>
    cases l₂ with
    | nil => rfl
    | cons b l₂ =>
      obtain ⟨k, v⟩ := b
      have hk := h k
      rw [lookup_cons_ite] at hk
      simp at hk
  | cons a l₁ ih =>
    obtain ⟨k, v⟩ := a
    cases l₂ with
    | nil =>
      have hk := h k
      rw [lookup_cons_ite] at hk
      simp at hk
    | cons b l₂ =>
      obtain ⟨k', v'⟩ := b
      rw [List.pairwise_cons] at h₁ h₂
      have hk : k = k' := by
        by_cases hlt : k < k'
        · have hnone : ((k', v') :: l₂).lookup k = none := lookup_eq_none_of_lt fun e he => by
            rcases List.mem_cons.1 he with rfl | he
            · exact hlt
            · exact List.lt_trans hlt (h₂.1 e he)
          have hk := h k
          rw [hnone] at hk
          simp at hk
        · by_cases heq : k = k'
          · exact heq
          · have hgt : k' < k := Std.lt_of_le_of_ne (Std.not_lt.1 hlt) (Ne.symm heq)
            have hnone : ((k, v) :: l₁).lookup k' = none := lookup_eq_none_of_lt fun e he => by
              rcases List.mem_cons.1 he with rfl | he
              · exact hgt
              · exact List.lt_trans hgt (h₁.1 e he)
            have hk := h k'
            rw [hnone] at hk
            simp at hk
      subst hk
      have hv : v = v' := by simpa using h k
      subst hv
      rw [ih h₁.2 h₂.2]
      intro key
      by_cases hkey : key = k
      · subst hkey
        rw [lookup_eq_none_of_lt h₁.1, lookup_eq_none_of_lt h₂.1]
      · have := h key
        rwa [lookup_cons_ite, lookup_cons_ite, if_neg hkey, if_neg hkey] at this

/-- Two maps with the same look-ups are the same map. -/
@[ext] theorem ext {m n : TextMap α} (h : ∀ key, m.get? key = n.get? key) : m = n :=
  ext_entries (eq_of_lookup_eq m.sorted n.sorted h)

instance [DecidableEq α] : DecidableEq (TextMap α) := fun m n =>
  decidable_of_iff (m.entries = n.entries) ⟨ext_entries, fun h => h ▸ rfl⟩

/-! ### Binding a key -/

/-- The entries with `key` bound to `value`, put in its place in the order. -/
def insertEntry (key : Text) (value : α) : List (Text × α) → List (Text × α)
  | [] => [(key, value)]
  | (k, v) :: rest =>
    if key < k then (key, value) :: (k, v) :: rest
    else if key = k then (key, value) :: rest
    else (k, v) :: insertEntry key value rest

theorem mem_insertEntry {key : Text} {value : α} {e : Text × α} {entries : List (Text × α)}
    (h : e ∈ insertEntry key value entries) : e = (key, value) ∨ e ∈ entries := by
  induction entries with
  | nil => simpa [insertEntry] using h
  | cons hd tl ih =>
    unfold insertEntry at h
    split at h <;> try split at h
    all_goals simp only [List.mem_cons] at h ⊢
    · exact h
    · exact h.imp_right .inr
    · rcases h with h | h
      · exact .inr (.inl h)
      · exact (ih h).imp_right .inr

theorem insertEntry_sorted (key : Text) (value : α) {entries : List (Text × α)}
    (h : entries.Pairwise fun a b => a.1 < b.1) :
    (insertEntry key value entries).Pairwise fun a b => a.1 < b.1 := by
  induction entries with
  | nil => simp [insertEntry]
  | cons hd tl ih =>
    obtain ⟨k, v⟩ := hd
    have htl := (List.pairwise_cons.1 h).1
    unfold insertEntry
    split
    · rename_i hlt
      refine List.pairwise_cons.2 ⟨fun e he => ?_, h⟩
      rcases List.mem_cons.1 he with rfl | he
      · exact hlt
      · exact List.lt_trans hlt (htl e he)
    · split
      · rename_i heq
        subst heq
        exact List.pairwise_cons.2 ⟨htl, (List.pairwise_cons.1 h).2⟩
      · rename_i hlt hne
        refine List.pairwise_cons.2 ⟨fun e he => ?_, ih (List.pairwise_cons.1 h).2⟩
        rcases mem_insertEntry he with rfl | he
        · exact Std.lt_of_le_of_ne (Std.not_lt.1 hlt) (Ne.symm hne)
        · exact htl e he

theorem lookup_insertEntry (key other : Text) (value : α) {entries : List (Text × α)}
    (h : entries.Pairwise fun a b => a.1 < b.1) :
    (insertEntry key value entries).lookup other =
      if other = key then some value else entries.lookup other := by
  induction entries with
  | nil => simp [insertEntry, lookup_cons_ite]
  | cons hd tl ih =>
    obtain ⟨k, v⟩ := hd
    have ih := ih (List.pairwise_cons.1 h).2
    unfold insertEntry
    split
    · rw [lookup_cons_ite]
    · split
      · rename_i heq
        subst heq
        simp only [lookup_cons_ite]
        split <;> rfl
      · rename_i hne
        simp only [lookup_cons_ite, ih]
        by_cases ho : other = k
        · subst ho
          rw [if_pos rfl, if_neg (Ne.symm hne), if_pos rfl]
        · simp only [if_neg ho]

/-- The map with `key` bound to `value`, whatever it was bound to before. -/
def insert (m : TextMap α) (key : Text) (value : α) : TextMap α :=
  ⟨insertEntry key value m.entries, insertEntry_sorted key value m.sorted⟩

/-- An insertion is seen at its own key and nowhere else. -/
theorem get?_insert (m : TextMap α) (key other : Text) (value : α) :
    (m.insert key value).get? other = if other = key then some value else m.get? other :=
  lookup_insertEntry key other value m.sorted

@[simp] theorem get?_empty (key : Text) : (empty : TextMap α).get? key = none := rfl

/-- The value that is replaced where an entry for `key` is put into the order. -/
def replacedValue? (key : Text) : List (Text × α) → Option α
  | [] => none
  | (k, v) :: rest =>
    if key < k then none
    else if key = k then some v
    else replacedValue? key rest

/-- Behind the place of a key in the order there is no other entry for it. -/
theorem replacedValue?_eq_lookup (key : Text) {entries : List (Text × α)}
    (h : entries.Pairwise fun a b => a.1 < b.1) :
    replacedValue? key entries = entries.lookup key := by
  induction entries with
  | nil => rfl
  | cons hd tl ih =>
    obtain ⟨k, v⟩ := hd
    obtain ⟨htl, hsorted⟩ := List.pairwise_cons.1 h
    rw [replacedValue?, lookup_cons_ite]
    by_cases hlt : key < k
    · have hne : key ≠ k := by
        rintro rfl
        exact List.lt_irrefl _ hlt
      have hnone : tl.lookup key = none :=
        lookup_eq_none_of_lt fun e he => List.lt_trans hlt (htl e he)
      rw [if_pos hlt, if_neg hne, hnone]
    · rw [if_neg hlt, ih hsorted]

/-- Binds a key, and gives back what it was bound to before. -/
def exchange (m : TextMap α) (key : Text) (value : α) : TextMap α × Option α :=
  (m.insert key value, replacedValue? key m.entries)

/-- What an exchange gives back is what was found at the key. -/
theorem exchange_eq (m : TextMap α) (key : Text) (value : α) :
    m.exchange key value = (m.insert key value, m.get? key) :=
  Prod.ext rfl (replacedValue?_eq_lookup key m.sorted)

/-! ### Selecting and merging -/

/-- The bindings whose key satisfies `p`. -/
def restrict (m : TextMap α) (p : Text → Bool) : TextMap α :=
  ⟨m.entries.filter fun e => p e.1, m.sorted.sublist List.filter_sublist⟩

theorem lookup_filter (p : Text → Bool) (key : Text) (entries : List (Text × α)) :
    (entries.filter fun e => p e.1).lookup key = if p key then entries.lookup key else none := by
  induction entries with
  | nil => simp
  | cons hd tl ih =>
    obtain ⟨k, v⟩ := hd
    by_cases hp : p k <;> by_cases hk : key = k
    · subst hk; simp [hp]
    · simp [lookup_cons_ite, hp, hk, ih]
    · subst hk; simp [hp, ih]
    · simp [lookup_cons_ite, hp, hk, ih]

/-- A restriction keeps the look-ups at the keys it selects and has no others. -/
@[simp] theorem get?_restrict (m : TextMap α) (p : Text → Bool) (key : Text) :
    (m.restrict p).get? key = if p key then m.get? key else none :=
  lookup_filter p key m.entries

/-- Inserts pairs from left to right, so of two pairs with one key the later one stays. -/
def insertAll (m : TextMap α) (pairs : List (Text × α)) : TextMap α :=
  pairs.foldl (fun m pair => m.insert pair.1 pair.2) m

@[simp] theorem insertAll_nil (m : TextMap α) : m.insertAll [] = m := rfl

@[simp] theorem insertAll_cons (m : TextMap α) (pair : Text × α) (pairs : List (Text × α)) :
    m.insertAll (pair :: pairs) = (m.insert pair.1 pair.2).insertAll pairs := rfl

/-- The map of a list of pairs; of two pairs with one key the later one counts. -/
def ofList (pairs : List (Text × α)) : TextMap α := empty.insertAll pairs

theorem get?_insertAll (m : TextMap α) (pairs : List (Text × α)) (key : Text) :
    (m.insertAll pairs).get? key = (pairs.reverse.lookup key).or (m.get? key) := by
  induction pairs generalizing m with
  | nil => simp
  | cons pair pairs ih =>
    obtain ⟨k, v⟩ := pair
    rw [insertAll_cons, ih, get?_insert, List.reverse_cons, List.lookup_append, Option.or_assoc,
      lookup_cons_ite]
    split <;> rfl

/-- The last pair with a key is one with no other such pair behind it. -/
theorem lookup_reverse_eq_some_iff {pairs : List (Text × α)} {key : Text} {value : α} :
    pairs.reverse.lookup key = some value ↔
      ∃ before after, pairs = before ++ (key, value) :: after ∧ key ∉ after.map Prod.fst := by
  rw [List.lookup_eq_some_iff]
  constructor
  · rintro ⟨later, earlier, hsplit, hlater⟩
    refine ⟨earlier.reverse, later.reverse, ?_, ?_⟩
    · rw [← List.reverse_reverse pairs, hsplit]
      simp
    · intro hkey
      obtain ⟨pair, hpair, heq⟩ := List.mem_map.1 hkey
      have hne := hlater pair (List.mem_reverse.1 hpair)
      exact absurd heq.symm (by simpa using hne)
  · rintro ⟨before, after, rfl, hlast⟩
    refine ⟨after.reverse, before.reverse, by simp, ?_⟩
    intro pair hpair
    rw [bne_iff_ne]
    rintro rfl
    exact hlast (List.mem_map_of_mem (List.mem_reverse.1 hpair))

/-- Of the pairs with a key the last is found. -/
theorem get?_ofList (pairs : List (Text × α)) (key : Text) :
    (ofList pairs).get? key = pairs.reverse.lookup key := by
  rw [ofList, get?_insertAll, get?_empty, Option.or_none]

/-- All bindings of both maps; at a key of both, that of the second. -/
def extend (m n : TextMap α) : TextMap α := m.insertAll n.entries

theorem get?_insertAll_sorted {entries : List (Text × α)}
    (h : entries.Pairwise fun a b => a.1 < b.1) (m : TextMap α) (key : Text) :
    (m.insertAll entries).get? key = (entries.lookup key).or (m.get? key) := by
  induction entries generalizing m with
  | nil => simp
  | cons hd tl ih =>
    obtain ⟨k, v⟩ := hd
    rw [List.pairwise_cons] at h
    rw [insertAll_cons, ih h.2, get?_insert]
    by_cases hk : key = k
    · subst hk
      simp [lookup_eq_none_of_lt h.1]
    · simp [lookup_cons_ite, hk]

/-- In an extension the second map takes precedence. -/
@[simp] theorem get?_extend (m n : TextMap α) (key : Text) :
    (m.extend n).get? key = (n.get? key).or (m.get? key) :=
  get?_insertAll_sorted n.sorted m key

/-- The map of its entries is the map. -/
@[simp] theorem ofList_entries (m : TextMap α) : ofList m.entries = m := by
  refine ext fun key => ?_
  rw [ofList, get?_insertAll_sorted m.sorted, get?_empty, Option.or_none]
  rfl

/-! ### Changing the values -/

/-- The map with every value replaced by its image. -/
def mapValues {β : Type} (f : α → β) (m : TextMap α) : TextMap β :=
  ⟨m.entries.map fun e => (e.1, f e.2), List.pairwise_map.2 m.sorted⟩

theorem lookup_map_snd {β : Type} (f : α → β) (key : Text) (entries : List (Text × α)) :
    (entries.map fun e => (e.1, f e.2)).lookup key = (entries.lookup key).map f := by
  induction entries with
  | nil => rfl
  | cons hd tl ih =>
    obtain ⟨k, v⟩ := hd
    rw [List.map_cons, lookup_cons_ite, lookup_cons_ite, ih]
    split <;> rfl

/-- Each key is bound to the image of what it was bound to. -/
@[simp] theorem get?_mapValues {β : Type} (f : α → β) (m : TextMap α) (key : Text) :
    (m.mapValues f).get? key = (m.get? key).map f :=
  lookup_map_snd f key m.entries

end TextMap

end LinkTemplate
