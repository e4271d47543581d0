import LinkTemplate.Params
import Mathlib.Data.List.Basic
/-!
# Splitting parameters

A list of names splits parameters into the bindings of these names and all other
bindings.  Staged expansion binds the one part now and the other later, so nothing may
be lost between the two and nothing may be in both
(`Params.split_partitions_bindings`).

The parts can be built by going through the bindings once, in any order, and putting
each into one of two maps (`Params.foldl_deal_of_perm`).  What carries this is that no
key occurs twice: a map is then determined by the set of its bindings, whatever order
they are inserted in (`TextMap.insertAll_eq_extend_of_perm`).
-/

namespace LinkTemplate

namespace TextMap

variable {α : Type} {m n : TextMap α} {key : Text} {value : α}

/-! ### Bindings in any order -/

/-- Among pairs with different keys, what is found is what is there. -/
theorem lookup_eq_some_iff_mem {pairs : List (Text × α)} (h : (pairs.map Prod.fst).Nodup) :
    pairs.lookup key = some value ↔ (key, value) ∈ pairs := by
  rw [List.lookup_eq_some_iff]
  constructor
  · intro hsplit
    obtain ⟨before, after, rfl, -⟩ := hsplit
    simp
  · intro hmem
    obtain ⟨before, after, rfl⟩ := List.append_of_mem hmem
    refine ⟨before, after, rfl, ?_⟩
    intro pair hpair
    rw [bne_iff_ne]
    intro heq
    rw [List.map_append, List.nodup_append] at h
    exact h.2.2 pair.1 (List.mem_map_of_mem hpair) key (by simp) heq.symm

theorem get?_eq_some_iff_mem : m.get? key = some value ↔ (key, value) ∈ m.entries :=
  lookup_eq_some_iff_mem m.nodup_keys

/-- The bindings of a map may be inserted in any order. -/
theorem insertAll_eq_extend_of_perm {order : List (Text × α)} (h : order.Perm n.entries)
    (m : TextMap α) : m.insertAll order = m.extend n := by
  have hnodup : (order.reverse.map Prod.fst).Nodup := by
    rw [((order.reverse_perm.trans h).map Prod.fst).nodup_iff]
    exact n.nodup_keys
  have hlookup : ∀ key, order.reverse.lookup key = n.get? key := by
    intro key
    apply Option.ext
    intro value
    rw [lookup_eq_some_iff_mem hnodup, get?_eq_some_iff_mem, List.mem_reverse, h.mem_iff]
  apply ext
  intro key
  rw [get?_insertAll, get?_extend, hlookup]

theorem ofList_eq_of_perm {order : List (Text × α)} (h : order.Perm m.entries) :
    ofList order = m := by
  rw [ofList, insertAll_eq_extend_of_perm h, extend, ← ofList, ofList_entries]

/-! ### Selections -/

theorem get?_restrict_eq_some_iff {p : Text → Bool} :
    (m.restrict p).get? key = some value ↔ p key = true ∧ m.get? key = some value := by
  rw [get?_restrict]
  split
  · rename_i hp
    rw [hp, eq_self_iff_true, true_and]
  · rename_i hp
    exact iff_of_false nofun fun h => hp h.1

/-- Each binding is either selected or left over. -/
theorem size_restrict_add (m : TextMap α) (p : Text → Bool) :
    (m.restrict p).size + (m.restrict fun key => !p key).size = m.size :=
  (List.length_eq_length_filter_add fun e : Text × α => p e.1).symm

/-- What was left over completes what was selected. -/
theorem extend_restrict (m : TextMap α) (p : Text → Bool) :
    (m.restrict p).extend (m.restrict fun key => !p key) = m := by
  apply ext
  intro key
  rw [get?_extend, get?_restrict, get?_restrict]
  cases p key <;> simp

/-- Selecting from a selection leaves the keys that both select. -/
theorem restrict_restrict (m : TextMap α) (p q : Text → Bool) :
    (m.restrict p).restrict q = m.restrict fun key => p key && q key := by
  apply ext
  intro key
  rw [get?_restrict, get?_restrict, get?_restrict]
  cases p key <;> cases q key <;> rfl

end TextMap

namespace Params

variable {params : Params} {names : List Text}

/-! ### Going through the bindings -/

/-- Puts a binding into the first map if its name is listed, otherwise into the second. -/
def deal (names : List Text) (parts : Params × Params) (binding : Text × Value) :
    Params × Params :=
  if names.contains binding.1 then (parts.1.insert binding.1 binding.2, parts.2)
  else (parts.1, parts.2.insert binding.1 binding.2)

/-- After any bindings, each map has received those that are meant for it. -/
theorem foldl_deal (names : List Text) (bindings : List (Text × Value)) (first second : Params) :
    bindings.foldl (deal names) (first, second) =
      (first.insertAll (bindings.filter fun b => names.contains b.1),
        second.insertAll (bindings.filter fun b => !names.contains b.1)) := by
  induction bindings generalizing first second with
  | nil => rfl
  | cons binding bindings ih =>
    rw [List.foldl_cons]
    cases hlisted : names.contains binding.1 with
    | true =>
      have hstep : deal names (first, second) binding =
          (first.insert binding.1 binding.2, second) := if_pos hlisted
      rw [hstep, ih, List.filter_cons_of_pos (by simpa using hlisted),
        List.filter_cons_of_neg (by simpa using hlisted), TextMap.insertAll_cons]
    | false =>
      have hstep : deal names (first, second) binding =
          (first, second.insert binding.1 binding.2) := if_neg (by simpa using hlisted)
      rw [hstep, ih, List.filter_cons_of_neg (by simpa using hlisted),
        List.filter_cons_of_pos (by simpa using hlisted), TextMap.insertAll_cons]

/-- In whatever order the bindings are dealt, the two maps are the parts of the split. -/
theorem foldl_deal_of_perm {order : List (Text × Value)} (h : order.Perm params.entries) :
    order.foldl (deal names) (.empty, .empty) = params.split names := by
  have hpart : ∀ p : Text → Bool,
      TextMap.empty.insertAll (order.filter fun b => p b.1) = params.restrict p :=
    fun p => TextMap.ofList_eq_of_perm (m := params.restrict p) (h.filter fun b => p b.1)
  rw [foldl_deal, hpart, hpart fun name => !names.contains name]
  rfl

/-! ### The parts -/

theorem get?_split_fst_eq_some_iff {name : Text} {value : Value} :
    (params.split names).1.get? name = some value ↔
      name ∈ names ∧ params.get? name = some value := by
  refine TextMap.get?_restrict_eq_some_iff.trans ?_
  rw [List.contains_iff_mem]

theorem get?_split_snd_eq_some_iff {name : Text} {value : Value} :
    (params.split names).2.get? name = some value ↔
      name ∉ names ∧ params.get? name = some value := by
  refine TextMap.get?_restrict_eq_some_iff.trans ?_
  rw [Bool.not_eq_true', ← Bool.not_eq_true, List.contains_iff_mem]

/-- The parts depend on which names are listed only. -/
theorem split_congr {names' : List Text} (h : ∀ name, name ∈ names' ↔ name ∈ names) :
    params.split names' = params.split names := by
  have hcontains : ∀ name, names'.contains name = names.contains name := by
    intro name
    rw [Bool.eq_iff_iff, List.contains_iff_mem, List.contains_iff_mem, h]
  unfold split
  simp only [hcontains]

/-- Splitting a first part by the same names leaves it as it is. -/
theorem split_split_fst (params : Params) (names : List Text) :
    (params.split names).1.split names = ((params.split names).1, .empty) := by
  have hsame : ∀ name, (names.contains name && names.contains name) = names.contains name :=
    fun name => Bool.and_self _
  have hnone : ∀ name, (names.contains name && !names.contains name) = false :=
    fun name => Bool.and_not_self _
  unfold split
  simp only [TextMap.restrict_restrict, hsame, hnone]
  refine Prod.ext rfl ?_
  apply TextMap.ext
  intro name
  rw [TextMap.get?_restrict, TextMap.get?_empty]
  rfl

/-- **Splitting is an exact partition.**  Whatever names are listed, repeated ones and unbound ones
among them, the first part has exactly the bindings of listed names and the second exactly the
others, each with its value.  No name is bound in both, the sizes add up, and either part extended
with the other gives all bindings back.  The parts do not depend on the order of the list, on
repetitions in it or on the order in which the bindings are gone through, and splitting the first
part by the same names leaves nothing over. -/
theorem split_partitions_bindings (params : Params) (names : List Text) :
    ∃ selected rest, params.split names = (selected, rest) ∧
      (∀ name value, selected.get? name = some value ↔
        name ∈ names ∧ params.get? name = some value) ∧
      (∀ name value, rest.get? name = some value ↔
        name ∉ names ∧ params.get? name = some value) ∧
      (∀ name, ¬ (selected.contains name = true ∧ rest.contains name = true)) ∧
      selected.size + rest.size = params.size ∧
      selected.extend rest = params ∧ rest.extend selected = params ∧
      (∀ names', (∀ name, name ∈ names' ↔ name ∈ names) →
        params.split names' = (selected, rest)) ∧
      (∀ order : List (Text × Value), order.Perm params.entries →
        order.foldl (deal names) (.empty, .empty) = (selected, rest)) ∧
      selected.split names = (selected, .empty) := by
  refine ⟨_, _, rfl, fun name value => get?_split_fst_eq_some_iff,
    fun name value => get?_split_snd_eq_some_iff, ?_, TextMap.size_restrict_add params _,
    TextMap.extend_restrict params _, ?_, fun names' => split_congr,
    fun order => foldl_deal_of_perm, split_split_fst params names⟩
  · intro name hboth
    obtain ⟨v, hv⟩ := Option.isSome_iff_exists.1 hboth.1
    obtain ⟨w, hw⟩ := Option.isSome_iff_exists.1 hboth.2
    obtain ⟨hlisted, -⟩ := get?_split_fst_eq_some_iff.1 hv
    obtain ⟨hother, -⟩ := get?_split_snd_eq_some_iff.1 hw
    exact hother hlisted
  · have hother := TextMap.extend_restrict params fun name => !names.contains name
    simpa only [Bool.not_not] using hother

/-- Of the listed names one is repeated and one is unbound; the empty list stays bound. -/
theorem split_partitions_bindings_repeated :
    let params : Params := .ofList [(['a'], .scalar ['1']), (['b'], .list []),
      (['c'], .list [['2'], []])]
    let names : List Text := [['b'], ['x'], ['a'], ['b']]
    let order : List (Text × Value) := [(['c'], .list [['2'], []]), (['b'], .list []),
      (['a'], .scalar ['1'])]
    (∀ name, name ∈ [['a'], ['b'], ['x']] ↔ name ∈ names) ∧ order.Perm params.entries ∧
      params.split [['a'], ['b'], ['x']] = params.split names ∧
      order.foldl (deal names) (.empty, .empty) = params.split names ∧
      (params.split names).1.get? ['b'] = some (.list []) ∧
      (params.split names).1.size + (params.split names).2.size = 3 := by
  intro params names order
  have hnames : ∀ name, name ∈ [['a'], ['b'], ['x']] ↔ name ∈ names := by
    intro name
    simp only [names, List.mem_cons, List.not_mem_nil, or_false]
    tauto
  have horder : order.Perm params.entries := by decide
  obtain ⟨selected, rest, hsplit, hselected, -, -, hsize, -, -, hlist, hdeal, -⟩ :=
    split_partitions_bindings params names
  rw [hsplit]
  exact ⟨hnames, horder, hlist _ hnames, hdeal order horder,
    (hselected ['b'] (.list [])).2 ⟨by decide, by decide⟩, hsize⟩

end Params

end LinkTemplate
