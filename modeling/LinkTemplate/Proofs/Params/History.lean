import LinkTemplate.Params.Document
import LinkTemplate.Proofs.Params.Partition
import Mathlib.Data.List.Induction
/-!
# The history of parameters

Parameters start empty and are changed by binding names, one or many at once, by
selecting one part of a split and by loading a document, which replaces them if it can be
read.  What is observed of a name after any changes is decided by the last change that
touched it: it binds the name, drops it or replaces everything
(`Params.get?_after_eq_some_iff`).

A change is described by what it does to each name, and one lemma says that it does just
that (`Params.get?_perform_eq_some_iff`).  All else is read off the look-ups: presence, the
number of names, and that a change leaves alone what it does not touch.
-/

namespace LinkTemplate.Params

/-! ### Changes -/

/-- The formats in which parameters are written down. -/
inductive Format where
  | json
  | yaml
deriving DecidableEq, Repr

/-- The parameters that a document in a format describes. -/
def Format.read (wording : Wording) : Format → Text → Except Error Params
  | json, t => ofJsonText wording.json t
  | yaml, t => ofYamlText wording.yaml t

/-- A change of parameters. -/
inductive Change where
  /-- Binds a name and gives back what it was bound to. -/
  | exchange (name : Text) (value : Value)
  /-- Binds a name. -/
  | bind (name : Text) (value : Value)
  /-- Binds the names of pairs, one after another. -/
  | extend (pairs : List (Text × Value))
  /-- Keeps the bindings of the listed names. -/
  | select (names : List Text)
  /-- Keeps the bindings of all other names. -/
  | reject (names : List Text)
  /-- Replaces all bindings by those that a document describes. -/
  | load (format : Format) (t : Text)
deriving DecidableEq, Repr

/-- The parameters after a change, and what the change gives back: the value it replaced, if that is
asked for, or the error that stopped it. -/
def perform (wording : Wording) (params : Params) : Change → Params × Except Error (Option Value)
  | .exchange name value =>
    let (params, replaced?) := params.exchange name value
    (params, .ok replaced?)
  | .bind name value => (params.insert name value, .ok none)
  | .extend pairs => (params.insertAll pairs, .ok none)
  | .select names => ((params.split names).1, .ok none)
  | .reject names => ((params.split names).2, .ok none)
  | .load format t =>
    match format.read wording t with
    | .ok loaded => (loaded, .ok none)
    | .error fault => (params, .error fault)

/-- The parameters after changes, one after another. -/
def after (wording : Wording) (params : Params) (changes : List Change) : Params :=
  changes.foldl (fun params change => (params.perform wording change).1) params

namespace Change

variable (wording : Wording)

/-- The change binds the name to the value, whatever it was bound to.  Of pairs with the name the
last one counts. -/
def Binds (name : Text) (value : Value) : Change → Prop
  | exchange n v | bind n v => n = name ∧ v = value
  | extend pairs =>
    ∃ before after, pairs = before ++ (name, value) :: after ∧ name ∉ after.map Prod.fst
  | select _ | reject _ => False
  | load format t => ∃ loaded, format.read wording t = .ok loaded ∧ loaded.get? name = some value

/-- The change selects the part of a split in which the name is not. -/
def Drops (name : Text) : Change → Prop
  | select names => name ∉ names
  | reject names => name ∈ names
  | exchange .. | bind .. | extend _ | load .. => False

/-- The change replaces all parameters: a document was read. -/
def Replaces : Change → Prop
  | load format t => ∃ loaded, format.read wording t = .ok loaded
  | exchange .. | bind .. | extend _ | select _ | reject _ => False

/-- What is observed of the name after the change does not depend on what was observed before. -/
def Touches (change : Change) (name : Text) : Prop :=
  change.Replaces wording ∨ change.Drops name ∨ ∃ value, change.Binds wording name value

variable {wording} {name other : Text} {value : Value} {pairs : List (Text × Value)}

theorem binds_extend_iff :
    (extend pairs).Binds wording name value ↔ pairs.reverse.lookup name = some value :=
  TextMap.lookup_reverse_eq_some_iff.symm

/-- To bind a name is to touch that name only. -/
theorem touches_exchange_iff : (exchange name value).Touches wording other ↔ other = name := by
  simp [Touches, Replaces, Drops, Binds, eq_comm]

theorem touches_bind_iff : (bind name value).Touches wording other ↔ other = name := by
  simp [Touches, Replaces, Drops, Binds, eq_comm]

theorem touches_extend_iff_isSome :
    (extend pairs).Touches wording other ↔ (pairs.reverse.lookup other).isSome = true := by
  rw [Option.isSome_iff_exists]
  simp only [Touches, Replaces, Drops, binds_extend_iff, false_or]

/-- To extend by pairs is to touch their names only. -/
theorem touches_extend_iff : (extend pairs).Touches wording other ↔ other ∈ pairs.map Prod.fst := by
  rw [touches_extend_iff_isSome, List.lookup_isSome_iff]
  simp

theorem touches_select_iff {names : List Text} :
    (select names).Touches wording other ↔ other ∉ names := by
  simp [Touches, Replaces, Drops, Binds]

theorem touches_reject_iff {names : List Text} :
    (reject names).Touches wording other ↔ other ∈ names := by
  simp [Touches, Replaces, Drops, Binds]

end Change

variable {wording : Wording} {params : Params} {change : Change} {changes : List Change}
  {name : Text}
  {value : Value}

/-! ### One change -/

theorem get?_insert_eq_some_iff {n : Text} {v : Value} :
    (params.insert n v).get? name = some value ↔
      (n = name ∧ v = value) ∨ (params.get? name = some value ∧ name ≠ n) := by
  rw [TextMap.get?_insert]
  by_cases h : name = n
  · simp [h]
  · simp [h, Ne.symm h]

/-- After a change a name is bound to what the change binds it to, or, if it is not touched, to what
it was bound to. -/
theorem get?_perform_eq_some_iff : (params.perform wording change).1.get? name = some value ↔
    change.Binds wording name value ∨
      (params.get? name = some value ∧ ¬ change.Touches wording name) := by
  cases change with
  | exchange n v =>
    rw [Change.touches_exchange_iff]
    exact get?_insert_eq_some_iff
  | bind n v =>
    rw [Change.touches_bind_iff]
    exact get?_insert_eq_some_iff
  | extend pairs =>
    rw [Change.touches_extend_iff_isSome, Change.binds_extend_iff]
    change (params.insertAll pairs).get? name = some value ↔ _
    rw [TextMap.get?_insertAll]
    cases pairs.reverse.lookup name <;> simp
  | select names =>
    rw [Change.touches_select_iff]
    change (params.split names).1.get? name = some value ↔ False ∨ _
    rw [get?_split_fst_eq_some_iff, false_or, not_not, and_comm]
  | reject names =>
    rw [Change.touches_reject_iff]
    change (params.split names).2.get? name = some value ↔ False ∨ _
    rw [get?_split_snd_eq_some_iff, false_or, and_comm]
  | load format t =>
    cases hread : format.read wording t with
    | ok loaded => simp [perform, Change.Binds, Change.Touches, Change.Replaces, hread]
    | error fault =>
      simp [perform, Change.Binds, Change.Touches, Change.Replaces, Change.Drops, hread]

/-- What is observed of a name that a change does not touch stays as it is. -/
theorem get?_perform_of_not_touches (h : ¬ change.Touches wording name) :
    (params.perform wording change).1.get? name = params.get? name := by
  have hbinds : ∀ value, ¬ change.Binds wording name value :=
    fun value hvalue => h (.inr (.inr ⟨value, hvalue⟩))
  apply Option.ext
  intro value
  rw [get?_perform_eq_some_iff]
  simp [hbinds value, h]

/-- A document that cannot be read changes nothing. -/
theorem perform_load_of_error {format : Format} {t : Text} {fault : Error}
    (h : format.read wording t = .error fault) :
    params.perform wording (.load format t) = (params, .error fault) := by
  rw [perform, h]

/-! ### Any number of changes -/

theorem after_concat (wording : Wording) (params : Params) (changes : List Change)
    (change : Change) : params.after wording (changes ++ [change]) =
      ((params.after wording changes).perform wording change).1 := by
  rw [after, List.foldl_append]
  rfl

/-- Of the changes the last that touches the name binds it to the value. -/
def LastBinds (wording : Wording) (changes : List Change) (name : Text) (value : Value) : Prop :=
  ∃ before change later, changes = before ++ change :: later ∧ change.Binds wording name value ∧
    ∀ c ∈ later, ¬ c.Touches wording name

/-- The last change binds the name, or leaves it to those before. -/
theorem lastBinds_concat_iff : LastBinds wording (changes ++ [change]) name value ↔
    change.Binds wording name value ∨
      (LastBinds wording changes name value ∧ ¬ change.Touches wording name) := by
  constructor
  · intro h
    obtain ⟨before, c, later, hsplit, hbinds, hlater⟩ := h
    rcases List.eq_nil_or_concat later with rfl | ⟨rest, last, rfl⟩
    · obtain ⟨-, hlast⟩ := List.append_inj' hsplit rfl
      cases hlast
      exact .inl hbinds
    · rw [List.concat_eq_append] at hsplit hlater
      rw [← List.cons_append, ← List.append_assoc] at hsplit
      obtain ⟨rfl, hlast⟩ := List.append_inj' hsplit rfl
      cases hlast
      obtain ⟨hrest, hlast⟩ := List.forall_mem_append.1 hlater
      exact .inr ⟨⟨before, c, rest, rfl, hbinds, hrest⟩, hlast change List.mem_cons_self⟩
  · intro h
    rcases h with hbinds | ⟨⟨before, c, later, rfl, hbinds, hlater⟩, htouches⟩
    · exact ⟨changes, change, [], rfl, hbinds, by simp⟩
    · refine ⟨before, c, later ++ [change], by simp, hbinds, ?_⟩
      rw [List.forall_mem_append]
      exact ⟨hlater, List.forall_mem_singleton.2 htouches⟩

/-- What a name is bound to after changes is what the last change that touched it bound it to. -/
theorem get?_after_eq_some_iff :
    (after wording .empty changes).get? name = some value ↔
      LastBinds wording changes name value := by
  induction changes using List.reverseRecOn with
  | nil => simp [after, LastBinds]
  | append_singleton changes change ih =>
    rw [after_concat, get?_perform_eq_some_iff, ih, lastBinds_concat_iff]

/-! ### Observations -/

/-- An exchange gives back what was found at the name. -/
theorem perform_exchange (wording : Wording) (params : Params) (name : Text) (value : Value) :
    params.perform wording (.exchange name value) =
      (params.insert name value, .ok (params.get? name)) := by
  rw [perform, TextMap.exchange_eq]

theorem contains_eq_true_iff :
    params.contains name = true ↔ ∃ value, params.get? name = some value :=
  Option.isSome_iff_exists

theorem isPresent_eq_true_iff_scalar_or_list : params.isPresent name = true ↔
    (∃ text, params.get? name = some (.scalar text)) ∨
      ∃ items, items ≠ [] ∧ params.get? name = some (.list items) := by
  rw [isPresent_eq_true_iff]
  constructor
  · rintro ⟨value, hvalue, hpresent⟩
    cases value with
    | scalar text => exact .inl ⟨text, hvalue⟩
    | list items => exact .inr ⟨items, by simpa [Value.isPresent] using hpresent, hvalue⟩
  · rintro (⟨text, hvalue⟩ | ⟨items, hitems, hvalue⟩)
    · exact ⟨.scalar text, hvalue, rfl⟩
    · exact ⟨.list items, hvalue, by simpa [Value.isPresent] using hitems⟩

/-- The size counts every bound name once. -/
theorem exists_names_of_size (params : Params) : ∃ names : List Text, names.Nodup ∧
    (∀ name, name ∈ names ↔ ∃ value, params.get? name = some value) ∧
      params.size = names.length := by
  refine ⟨params.keys, params.nodup_keys, ?_, params.length_keys.symm⟩
  intro name
  rw [TextMap.mem_keys_iff, Option.isSome_iff_exists]

theorem isEmpty_eq_true_iff : params.isEmpty = true ↔ params.size = 0 := by
  rw [TextMap.isEmpty, TextMap.size, List.isEmpty_iff, List.length_eq_zero_iff]

/-- What is observed of a name is decided by what is found there. -/
theorem observations_congr {params' : Params} (h : params'.get? name = params.get? name) :
    params'.contains name = params.contains name ∧
      params'.isPresent name = params.isPresent name := by
  unfold TextMap.contains isPresent
  rw [h]
  exact ⟨rfl, rfl⟩

/-- **Parameters are a finite map, whatever was done to them.**  After any changes that start with
no bindings, a name is bound to a value if the last change that touched the name bound it to that
value: all later ones read no document, do not drop the name and do not bind it.  An exchange gives
back the value that is replaced.  Every bound name is counted once, presence is read off the value,
a document that cannot be read changes nothing, and a change is seen at the names it touches only,
which for a binding is its own name. -/
theorem observations_after (wording : Wording) (changes : List Change) :
    let params := after wording .empty changes
    (∀ name value, params.get? name = some value ↔ LastBinds wording changes name value) ∧
    (∀ name value, params.perform wording (.exchange name value) =
      (params.insert name value, .ok (params.get? name))) ∧
    (∃ names : List Text, names.Nodup ∧
      (∀ name, name ∈ names ↔ ∃ value, params.get? name = some value) ∧
        params.size = names.length) ∧
    (params.isEmpty = true ↔ params.size = 0) ∧
    (∀ name, params.contains name = true ↔ ∃ value, params.get? name = some value) ∧
    (∀ name, params.isPresent name = true ↔
      (∃ text, params.get? name = some (.scalar text)) ∨
        ∃ items, items ≠ [] ∧ params.get? name = some (.list items)) ∧
    (∀ format t fault, format.read wording t = .error fault →
      params.perform wording (.load format t) = (params, .error fault)) ∧
    (∀ change name, ¬ change.Touches wording name →
      (params.perform wording change).1.get? name = params.get? name ∧
        (params.perform wording change).1.contains name = params.contains name ∧
          (params.perform wording change).1.isPresent name = params.isPresent name) ∧
    ∀ name value pairs other,
      ((Change.exchange name value).Touches wording other ↔ other = name) ∧
        ((Change.bind name value).Touches wording other ↔ other = name) ∧
          ((Change.extend pairs).Touches wording other ↔ other ∈ pairs.map Prod.fst) := by
  intro params
  refine ⟨fun name value => get?_after_eq_some_iff, params.perform_exchange wording,
    exists_names_of_size params, isEmpty_eq_true_iff, fun name => contains_eq_true_iff,
    fun name => isPresent_eq_true_iff_scalar_or_list,
    fun format t fault => perform_load_of_error, ?_, ?_⟩
  · intro change name htouches
    have hget : (params.perform wording change).1.get? name = params.get? name :=
      get?_perform_of_not_touches htouches
    exact ⟨hget, observations_congr hget⟩
  · intro name value pairs other
    exact ⟨Change.touches_exchange_iff, Change.touches_bind_iff, Change.touches_extend_iff⟩

/-- Binding `b` is seen neither at `a`, which the document bound last, nor at `c`, which a pair
behind another one bound to the empty list.  The selection dropped what the document bound `b` to,
and the second document cannot be read. -/
theorem observations_after_select :
    let wording : Wording := ⟨fun _ => "EOF while parsing".toList, id, id⟩
    let changes : List Change := [.bind ['a'] (.scalar ['1']),
      .load .json "\x7b\"b\":\"y\",\"a\":[\"x\"]\x7d".toList, .load .yaml ['['],
      .extend [(['c'], .scalar ['1']), (['c'], .list [])], .select [['c'], ['a']]]
    let params := after wording .empty changes
    let bound := (params.perform wording (.bind ['b'] (.scalar []))).1
    LastBinds wording changes ['a'] (.list [['x']]) ∧
      (∀ value, ¬ LastBinds wording changes ['b'] value) ∧
      params.perform wording (.exchange ['a'] (.scalar [])) =
        (params.insert ['a'] (.scalar []), .ok (some (.list [['x']]))) ∧
      params.perform wording (.load .json ['\x7b']) =
        (params, .error (.json .truncated "EOF while parsing".toList)) ∧
      bound.get? ['a'] = some (.list [['x']]) ∧ bound.contains ['c'] = true ∧
        bound.isPresent ['c'] = false := by
  intro wording changes params bound
  obtain ⟨hget, hexchange, -, -, -, -, hload, hframe, htouches⟩ :=
    observations_after wording changes
  have ha : params.get? ['a'] = some (.list [['x']]) := by decide +kernel
  have hb : params.get? ['b'] = none := by decide +kernel
  have hother : ∀ other, other ≠ ['b'] →
      ¬ (Change.bind ['b'] (.scalar [])).Touches wording other := by
    intro other hne htouched
    exact hne ((htouches ['b'] (.scalar []) [] other).2.1.1 htouched)
  obtain ⟨hbound, -⟩ := hframe _ ['a'] (hother ['a'] (by decide))
  obtain ⟨-, hcontains, hpresent⟩ := hframe _ ['c'] (hother ['c'] (by decide))
  refine ⟨(hget _ _).1 ha, ?_, ?_, hload _ _ _ rfl, hbound.trans ha, hcontains.trans ?_,
    hpresent.trans ?_⟩
  · intro value hvalue
    have hsome : params.get? ['b'] = some value := (hget _ _).2 hvalue
    rw [hb] at hsome
    cases hsome
  · rw [← ha]
    exact hexchange _ _
  · decide +kernel
  · decide +kernel

end LinkTemplate.Params
