import LinkTemplate.CommandLine
import LinkTemplate.Proofs.Expression.RoundTrip
import LinkTemplate.Proofs.Results
/-!
# Which parameters the assignments give

Parameters come from a file, from scalar assignments and from list assignments, and are
bound in this order.  An assignment is cut at its first `=`; it is none if there is no
name in front of that (`IsAssignment`).  The first text that is no assignment gives the
error, and nothing is bound before all texts are found to be assignments
(`bindAll_eq_map`).

Of the assignments to a name the last one counts (`LastAssigns`), whatever the name was
bound to before, and lists win over scalars, which win over the file
(`collectParams_of_assignments`).
-/

namespace LinkTemplate.CommandLine

/-! ### One assignment -/

/-- The text in front of the first `=` of the input is the name, the text behind it the value. -/
def Assigns (input name value : Text) : Prop := input = name ++ '=' :: value ∧ '=' ∉ name

/-- The input has an `=`, and the first one has a name in front of it. -/
def IsAssignment (input : Text) : Prop := ∃ name value, name ≠ [] ∧ Assigns input name value

/-- No input assigns to the name. -/
def Unassigned (inputs : List Text) (name : Text) : Prop :=
  ∀ input ∈ inputs, ∀ value, ¬ Assigns input name value

/-- Of the inputs that assign to the name, the last one assigns the value. -/
def LastAssigns (inputs : List Text) (name value : Text) : Prop :=
  ∃ before input after, inputs = before ++ input :: after ∧ Assigns input name value ∧
    Unassigned after name

section Inputs

variable {input name value : Text} {inputs : List Text} {fault : Error}

/-- An input assigns one value to one name. -/
theorem Assigns.unique {name' value' : Text} (h : Assigns input name value)
    (h' : Assigns input name' value') : name' = name ∧ value' = value := by
  have hcut := (Text.cutAt_eq_some_iff.2 h).symm.trans (Text.cutAt_eq_some_iff.2 h')
  obtain ⟨rfl, rfl⟩ := Prod.mk.inj (Option.some.inj hcut)
  exact ⟨rfl, rfl⟩

theorem unassigned_cons_iff : Unassigned (input :: inputs) name ↔
    (∀ v, ¬ Assigns input name v) ∧ Unassigned inputs name := List.forall_mem_cons

theorem splitAssignment_eq_ok_iff :
    splitAssignment input = .ok (name, value) ↔ name ≠ [] ∧ Assigns input name value := by
  unfold splitAssignment Assigns
  rw [← Text.cutAt_eq_some_iff]
  rcases Text.cutAt '=' input with _ | ⟨_ | ⟨c, before⟩, after⟩
  · simp
  · simp +contextual
  · simp +contextual [eq_comm, iff_def]

theorem exists_splitAssignment_iff :
    (∃ pair, splitAssignment input = .ok pair) ↔ IsAssignment input := by
  simp only [Prod.exists, splitAssignment_eq_ok_iff]
  rfl

/-- What is no assignment is refused as it is. -/
theorem splitAssignment_eq_error_iff :
    splitAssignment input = .error fault ↔ ¬ IsAssignment input ∧ fault = .assignment input := by
  rw [← exists_splitAssignment_iff]
  unfold splitAssignment
  split <;> simp [eq_comm]

instance (input name value : Text) : Decidable (Assigns input name value) :=
  inferInstanceAs (Decidable (_ ∧ _))

instance (input : Text) : Decidable (IsAssignment input) :=
  decidable_of_iff ((splitAssignment input).toOption.isSome = true) <| by
    rw [← exists_splitAssignment_iff]
    cases splitAssignment input <;> simp [Except.toOption]

/-- Whether an input assigns to a name is seen where it is cut. -/
theorem unassigned_iff : Unassigned inputs name ↔
    ∀ input ∈ inputs, (Text.cutAt '=' input).map Prod.fst ≠ some name := by
  simp only [Unassigned, Assigns, ← Text.cutAt_eq_some_iff, ne_eq, Option.map_eq_some_iff,
    Prod.exists, exists_and_right, exists_eq_right, not_exists]

instance (inputs : List Text) (name : Text) : Decidable (Unassigned inputs name) :=
  decidable_of_iff _ unassigned_iff.symm

end Inputs

/-! ### Assignments one after another -/

section Runs

variable {toValue : Text → Value} {params params' : Params} {inputs : List Text} {name : Text}

/-- The inputs are all cut before a name is bound.  Then the names are bound in their order. -/
theorem bindAll_eq_map (toValue : Text → Value) (params : Params) (inputs : List Text) :
    bindAll toValue params inputs = (inputs.mapM splitAssignment).map fun pairs =>
      params.insertAll (pairs.map fun pair => (pair.1, toValue pair.2)) := by
  induction inputs generalizing params with
  | nil => rfl
  | cons input inputs ih =>
    rw [bindAll]
    cases hsplit : splitAssignment input with
    | error fault =>
      rw [mapM_cons_of_error hsplit]
      rfl
    | ok pair =>
      rw [mapM_cons_of_ok hsplit]
      dsimp only
      rw [ih]
      cases inputs.mapM splitAssignment <;> rfl

theorem bindAll_cons_eq_ok_iff {input : Text} :
    bindAll toValue params (input :: inputs) = .ok params' ↔
      ∃ name value, (name ≠ [] ∧ Assigns input name value) ∧
        bindAll toValue (params.insert name (toValue value)) inputs = .ok params' := by
  simp only [← splitAssignment_eq_ok_iff]
  rw [bindAll]
  cases hsplit : splitAssignment input with
  | error fault => simp
  | ok pair =>
    obtain ⟨name, value⟩ := pair
    simp only [Except.ok.injEq, Prod.mk.injEq]
    constructor
    · intro h
      exact ⟨name, value, ⟨rfl, rfl⟩, h⟩
    · rintro ⟨_, _, ⟨rfl, rfl⟩, h⟩
      exact h

/-- A name that no input assigns to keeps what it is bound to. -/
theorem get?_bindAll_of_unassigned (h : bindAll toValue params inputs = .ok params')
    (hname : Unassigned inputs name) : params'.get? name = params.get? name := by
  induction inputs generalizing params with
  | nil =>
    cases h
    rfl
  | cons input inputs ih =>
    obtain ⟨hinput, hinputs⟩ := unassigned_cons_iff.1 hname
    obtain ⟨n, value, ⟨-, hassigns⟩, h⟩ := bindAll_cons_eq_ok_iff.1 h
    have hne : name ≠ n := by
      rintro rfl
      exact hinput value hassigns
    rw [ih h hinputs, TextMap.get?_insert, if_neg hne]

/-- A name is bound to the value that the last assignment to it assigns. -/
theorem get?_bindAll_of_lastAssigns {value : Text}
    (h : bindAll toValue params inputs = .ok params') (hlast : LastAssigns inputs name value) :
    params'.get? name = some (toValue value) := by
  obtain ⟨before, input, after, rfl, hassigns, hafter⟩ := hlast
  induction before generalizing params with
  | nil =>
    obtain ⟨n, v, ⟨-, hassigns'⟩, h⟩ := bindAll_cons_eq_ok_iff.1 h
    obtain ⟨rfl, rfl⟩ := hassigns.unique hassigns'
    rw [get?_bindAll_of_unassigned h hafter, TextMap.get?_insert, if_pos rfl]
  | cons _ before ih =>
    obtain ⟨_, _, -, h⟩ := bindAll_cons_eq_ok_iff.1 h
    exact ih h

end Runs

/-! ### Scalars and lists -/

section Collect

variable {file params : Params} {scalars lists : List Text} {fault : Error}

theorem collectParams_eq_ok_iff : collectParams file scalars lists = .ok params ↔
    ∃ params', bindAll .scalar file scalars = .ok params' ∧
      bindAll (fun value => .list (listItems value)) params' lists = .ok params := by
  rw [collectParams]
  cases bindAll .scalar file scalars <;> simp

/-- The error is that of cutting the scalars and then the lists. -/
theorem collectParams_eq_error_iff : collectParams file scalars lists = .error fault ↔
    (scalars ++ lists).mapM splitAssignment = .error fault := by
  rw [mapM_append_eq_error_iff, collectParams, bindAll_eq_map]
  cases scalars.mapM splitAssignment with
  | error fault' => simp [Except.map]
  | ok pairs =>
    simp only [Except.map]
    rw [bindAll_eq_map]
    cases lists.mapM splitAssignment <;> simp [Except.map]

/-- Parameters are there unless there is an error. -/
theorem exists_collectParams_iff : (∃ params, collectParams file scalars lists = .ok params) ↔
    ∀ input ∈ scalars ++ lists, IsAssignment input := by
  simp only [← exists_splitAssignment_iff]
  rw [← exists_mapM_eq_ok_iff]
  exact exists_eq_ok_iff_of_error_iff fun fault => collectParams_eq_error_iff

end Collect

/-! ### Lists -/

/-- The pieces of a text between its commas, which are none if there is no text. -/
theorem joinWith_listItems {value : Text} (h : value ≠ []) :
    Text.joinWith [','] (listItems value) = value ∧ ∀ item ∈ listItems value, ',' ∉ item := by
  rw [listItems, if_neg (by simpa using h)]
  exact ⟨List.intercalate_splitOn ',', fun item hitem => Text.notMem_of_mem_splitOn hitem⟩

/-- Items are read back from their list, unless it is that of a single empty item. -/
theorem listItems_joinWith {items : List Text} (hne : items ≠ []) (hempty : items ≠ [[]])
    (hcomma : ∀ item ∈ items, ',' ∉ item) : listItems (Text.joinWith [','] items) = items := by
  have hsplit : (Text.joinWith [','] items).splitOn ',' = items :=
    List.splitOn_intercalate ',' hcomma hne
  have htext : Text.joinWith [','] items ≠ [] := by
    intro htext
    rw [htext] at hsplit
    exact hempty hsplit.symm
  rw [listItems, if_neg (by simpa using htext), hsplit]

/-- **Which parameters the assignments give.**  Whatever the parameters of the file are, parameters
are there if and only if every scalar and every list assignment has an `=` with a name in front of
the first one; otherwise the first text that has none, scalars before lists, is refused as it is.
A name is bound to the list of the last list assignment to it, otherwise to the text of the last
scalar assignment to it, which is all that follows the first `=`, and otherwise as in the file.  The
list of a text without characters is empty, any other has the pieces between the commas.  So items
without commas, unless there are none or there is just an empty one, are bound by writing them with
commas between them. -/
theorem collectParams_of_assignments (file : Params) (scalars lists : List Text) :
    ((∃ params, collectParams file scalars lists = .ok params) ↔
      ∀ input ∈ scalars ++ lists, IsAssignment input) ∧
    (∀ fault, collectParams file scalars lists = .error fault ↔
      ∃ before input after, scalars ++ lists = before ++ input :: after ∧
        (∀ i ∈ before, IsAssignment i) ∧ ¬ IsAssignment input ∧ fault = .assignment input) ∧
    (∀ params, collectParams file scalars lists = .ok params → ∀ name,
      (∀ value, LastAssigns lists name value →
        params.get? name = some (.list (listItems value))) ∧
      (Unassigned lists name → ∀ value, LastAssigns scalars name value →
        params.get? name = some (.scalar value)) ∧
      (Unassigned lists name → Unassigned scalars name → params.get? name = file.get? name)) ∧
    (listItems [] = [] ∧ ∀ value, value ≠ [] → Text.joinWith [','] (listItems value) = value ∧
      ∀ item ∈ listItems value, ',' ∉ item) ∧
    ∀ name items, '=' ∉ name → items ≠ [] → items ≠ [[]] → (∀ item ∈ items, ',' ∉ item) →
      ∀ before after params,
        lists = before ++ (name ++ '=' :: Text.joinWith [','] items) :: after →
        Unassigned after name → collectParams file scalars lists = .ok params →
          params.get? name = some (.list items) := by
  have hlists : ∀ params, collectParams file scalars lists = .ok params → ∀ name value,
      LastAssigns lists name value → params.get? name = some (.list (listItems value)) := by
    intro params hok name value hlast
    obtain ⟨_, -, hbind⟩ := collectParams_eq_ok_iff.1 hok
    exact get?_bindAll_of_lastAssigns hbind hlast
  refine ⟨exists_collectParams_iff, fun fault => ?_, fun params hok name => ?_,
    ⟨rfl, fun value => joinWith_listItems⟩, ?_⟩
  · rw [collectParams_eq_error_iff, mapM_eq_error_iff]
    simp only [exists_splitAssignment_iff, splitAssignment_eq_error_iff]
  · obtain ⟨params', hscalars, hbind⟩ := collectParams_eq_ok_iff.1 hok
    refine ⟨hlists params hok name, fun hname value hlast => ?_, fun hname hname' => ?_⟩
    · rw [get?_bindAll_of_unassigned hbind hname, get?_bindAll_of_lastAssigns hscalars hlast]
    · rw [get?_bindAll_of_unassigned hbind hname, get?_bindAll_of_unassigned hscalars hname']
  · intro name items hname hne hempty hcomma before after params hsplit hafter hok
    have hlast : LastAssigns lists name (Text.joinWith [','] items) :=
      ⟨before, _, after, hsplit, ⟨rfl, hname⟩, hafter⟩
    rw [hlists params hok name _ hlast, listItems_joinWith hne hempty hcomma]

/-- A scalar takes the place of a list of the file, and a list that of a scalar; of two assignments
the second counts.  A value may be empty, hold another `=` or be a list with an empty piece. -/
theorem collectParams_of_assignments_override :
    let file : Params := .ofList [(['a'], .list [['x']]), (['b'], .scalar ['y']),
      (['c'], .scalar ['z'])]
    let scalars : List Text := ["a=1".toList, "b=u=v".toList, "a=".toList, "d=2".toList]
    let lists : List Text := ["d=p,,q".toList, "e=".toList]
    (∀ input ∈ scalars ++ lists, IsAssignment input) ∧
      ∃ params, collectParams file scalars lists = .ok params ∧
        params.get? ['a'] = some (.scalar []) ∧ params.get? ['b'] = some (.scalar "u=v".toList) ∧
        params.get? ['c'] = some (.scalar ['z']) ∧
        params.get? ['d'] = some (.list [['p'], [], ['q']]) ∧
        params.get? ['e'] = some (.list []) := by
  intro file scalars lists
  obtain ⟨hok, -, hget, ⟨hnone, -⟩, hitems⟩ := collectParams_of_assignments file scalars lists
  have hassignments : ∀ input ∈ scalars ++ lists, IsAssignment input := by decide
  obtain ⟨params, hparams⟩ := hok.2 hassignments
  have hscalar : ∀ name, Unassigned lists name → ∀ value, LastAssigns scalars name value →
      params.get? name = some (.scalar value) := fun name => (hget params hparams name).2.1
  refine ⟨hassignments, params, hparams, ?_, ?_, ?_, ?_, ?_⟩
  · exact hscalar _ (by decide) _ ⟨[_, _], _, [_], rfl, by decide, by decide⟩
  · exact hscalar _ (by decide) _ ⟨[_], _, [_, _], rfl, by decide, by decide⟩
  · rw [(hget params hparams ['c']).2.2 (by decide) (by decide)]
    decide
  · exact hitems ['d'] _ (by decide) (by decide) (by decide) (by decide) [] ["e=".toList] params
      rfl (by decide) hparams
  · rw [(hget params hparams ['e']).1 [] ⟨[_], _, [], rfl, by decide, by decide⟩, hnone]

/-- **An `=` behind the first character is not enough.**  A text that begins with one is refused,
although it has another. -/
theorem collectParams_second_equals :
    ¬ ((∃ params, collectParams .empty ["=a=b".toList] [] = .ok params) ↔
      ∀ input ∈ ["=a=b".toList] ++ [], ∃ i, 0 < i ∧ input[i]? = some '=') := by
  intro h
  have hequals : ∀ input ∈ ["=a=b".toList] ++ [], ∃ i, 0 < i ∧ input[i]? = some '=' :=
    List.forall_mem_singleton.2 ⟨2, by decide, by decide⟩
  obtain ⟨params, hparams⟩ := h.2 hequals
  have hassignment := exists_collectParams_iff.1 ⟨params, hparams⟩
  exact absurd hassignment (by decide)

end LinkTemplate.CommandLine
