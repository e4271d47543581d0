import LinkTemplate.Proofs.Template.Residual
/-!
# One stage, expanded later

What a staged expansion with `earlier` parameters leaves of segments, expanded
fully with `later` ones, gives what the segments give for both
(`Segment.text?_residualAll`); if it leaves nothing because a value has the wrong
kind, the full expansion fails as well.  For a `-join` this says that each group,
guard and prefix stands for the right separators whichever of its names turn up.

A name that is bound to an empty list must stay unbound later (`EmptyStays`):
`-opt` and `-neg` do not take it for present and go on waiting for it.
-/

namespace LinkTemplate

namespace Emission

/-- The text of an emission that was not stopped. -/
def text? (a : Emission) : Option Text := a.result.toOption

@[simp] theorem text?_write (t : Text) : (write t).text? = some t := rfl

@[simp] theorem text?_fail (e : Error) : (fail e).text? = none := rfl

@[simp] theorem text?_onto (t : Text) (a : Emission) :
    (a.onto t).text? = a.text?.map (t ++ ·) := by
  obtain ⟨u, _ | e⟩ := a <;> rfl

@[simp] theorem text?_andThen (a b : Emission) :
    (a.andThen b).text? = a.text?.bind fun t => b.text?.map (t ++ ·) := by
  obtain ⟨t, _ | e⟩ := a
  · obtain ⟨u, _ | f⟩ := b <;> rfl
  · rfl

end Emission

namespace Params

/-! ### Parameters of two stages -/

/-- The bindings of two stages; of a name in both, that of the earlier one. -/
def merge (earlier later : Params) : Params := later.extend earlier

theorem get?_merge (earlier later : Params) (name : Text) :
    (earlier.merge later).get? name = (earlier.get? name).or (later.get? name) :=
  TextMap.get?_extend later earlier name

/-- Whatever the earlier parameters bind to an empty list, the later ones leave unbound. -/
def EmptyStays (earlier later : Params) : Prop :=
  ∀ name, earlier.get? name = some (.list []) → later.get? name = none

/-- It is enough to look at the entries of the earlier parameters. -/
theorem emptyStays_of_entries {earlier later : Params}
    (h : ∀ entry ∈ earlier.entries, entry.2 = .list [] → later.get? entry.1 = none) :
    EmptyStays earlier later := by
  intro name hname
  obtain ⟨before, after, hentries, -⟩ := List.lookup_eq_some_iff.1 hname
  exact h (name, .list []) (by simp [hentries]) rfl

/-- The first of two look-ups, or the second if the first found nothing. -/
def firstFound {α : Type} (found later : Except Error (Option α)) : Except Error (Option α) :=
  match found with
  | .ok none => later
  | .ok (some x) => .ok (some x)
  | .error fault => .error fault

variable {earlier later : Params}

theorem single_merge (earlier later : Params) (name : Text) :
    (earlier.merge later).single name = firstFound (earlier.single name) (later.single name) := by
  unfold single
  rw [get?_merge]
  rcases earlier.get? name with _ | text | items <;> rfl

theorem items_merge (earlier later : Params) (name : Text) :
    (earlier.merge later).items name = firstFound (earlier.items name) (later.items name) := by
  unfold items
  rw [get?_merge]
  rcases earlier.get? name with _ | text | items <;> rfl

/-- A name is present if it is in one of the stages, as long as empty lists stay. -/
theorem isPresent_merge (h : EmptyStays earlier later) (name : Text) :
    (earlier.merge later).isPresent name = (earlier.isPresent name || later.isPresent name) := by
  unfold isPresent
  rw [get?_merge]
  rcases heq : earlier.get? name with _ | text | _ | ⟨item, items⟩
  · rfl
  · rfl
  · rw [h name heq]
    rfl
  · rfl

theorem anyPresent_merge (h : EmptyStays earlier later) (names : List Text) :
    (earlier.merge later).anyPresent names =
      (earlier.anyPresent names || later.anyPresent names) := by
  unfold anyPresent
  induction names with
  | nil => rfl
  | cons name names ih =>
    rw [List.any_cons, List.any_cons, List.any_cons, isPresent_merge h, ih]
    simp only [Bool.or_assoc, Bool.or_left_comm]

/-- Where the earlier parameters bind nothing, only the later ones count. -/
theorem single_merge_of_get? {name : Text} (h : earlier.get? name = none) :
    (earlier.merge later).single name = later.single name := by
  rw [single_merge, show earlier.single name = .ok none from single_eq_ok_none_iff.2 h]
  rfl

theorem anyPresent_merge_of_get? {names : List Text}
    (h : ∀ name ∈ names, earlier.get? name = none) :
    (earlier.merge later).anyPresent names = later.anyPresent names := by
  unfold anyPresent
  induction names with
  | nil => rfl
  | cons name names ih =>
    have hname : (earlier.merge later).isPresent name = later.isPresent name := by
      unfold isPresent
      rw [get?_merge, h name List.mem_cons_self]
      rfl
    rw [List.any_cons, List.any_cons, hname, ih fun n hn => h n (List.mem_cons_of_mem _ hn)]

end Params

namespace Expression

open Segment (expandAll)

variable {params earlier later : Params} {encode : Encoder} {separator : Text}

/-! ### The pairs of a full expansion -/

/-- The pairs depend on what the look-ups of the names find. -/
theorem joinFull_congr {params' : Params} {filled : Bool} {names : List Text}
    (h : ∀ name ∈ names, params.single name = params'.single name) :
    joinFull params encode separator filled names =
      joinFull params' encode separator filled names := by
  induction names generalizing filled with
  | nil => rfl
  | cons name names ih =>
    have htail : ∀ n ∈ names, params.single n = params'.single n :=
      fun n hn => h n (List.mem_cons_of_mem _ hn)
    unfold joinFull
    rw [h name List.mem_cons_self]
    rcases params'.single name with fault | _ | value
    · rfl
    · exact ih htail
    · simp only [ih htail]

/-- The pairs of two lists of names: those of the second come after a pair if the first has a name
that is present. -/
theorem joinFull_append (filled : Bool) (xs ys : List Text) :
    joinFull params encode separator filled (xs ++ ys) =
      (joinFull params encode separator filled xs).andThen
        (joinFull params encode separator (filled || params.anyPresent xs) ys) := by
  induction xs generalizing filled with
  | nil => simp [joinFull, Params.anyPresent, Emission.onto]
  | cons name xs ih =>
    rw [List.cons_append, joinFull, joinFull]
    rcases h : params.single name with fault | _ | value
    · rfl
    · have habsent : params.isPresent name = false :=
        Params.isPresent_eq_false_of_get? (Params.single_eq_ok_none_iff.1 h)
      simp only [Params.anyPresent, List.any_cons, habsent, Bool.false_or]
      exact ih filled
    · have hpresent : params.isPresent name = true := Params.isPresent_of_single h
      simp only [Params.anyPresent, List.any_cons, hpresent, Bool.true_or, Bool.or_true]
      rw [ih true, Emission.andThen_assoc, Bool.true_or]

/-- Pairs that follow a pair are those that begin, with a separator in front if there is one. -/
theorem text?_joinFull_true (names : List Text) :
    (joinFull params encode separator true names).text? =
      ((Emission.write (if params.anyPresent names then separator else [])).andThen
        (joinFull params encode separator false names)).text? := by
  induction names with
  | nil => simp [joinFull, Params.anyPresent]
  | cons name names ih =>
    rw [joinFull, joinFull]
    rcases h : params.single name with fault | _ | value
    · simp
    · have habsent : params.isPresent name = false :=
        Params.isPresent_eq_false_of_get? (Params.single_eq_ok_none_iff.1 h)
      simp only [Params.anyPresent, List.any_cons, habsent, Bool.false_or]
      exact ih
    · have hpresent : params.isPresent name = true := Params.isPresent_of_single h
      simp [Params.anyPresent, hpresent, separatorIf, Function.comp_def]

/-! ### What stands for a run of missing names, expanded later -/

/-- After a pair, what stands for a run gives the pairs of the run with their separators. -/
theorem text?_residue_of_filled (run : List Text) (followed : Bool) :
    (expandAll later encode .full ((residue separator run true followed).map .expression)).text? =
      (joinFull later encode separator true run).text? := by
  rcases run with _ | ⟨only, _ | ⟨next, run⟩⟩
  · rfl
  · rw [residue, joinFull]
    simp only [List.map_cons, List.map_nil, Segment.expandAll_cons, Segment.expandAll_nil,
      Segment.expand, expand, unresolved]
    rcases later.single only with fault | _ | value <;>
      simp [Emission.ofLookup, joinFull, separatorIf, pair]
  · rw [text?_joinFull_true]
    simp [residue, Segment.expand, expand, unresolved, Emission.onto]

/-- In front of all pairs, what stands for a run gives the pairs of the run. -/
theorem text?_residue_of_leading (run : List Text) :
    (expandAll later encode .full ((residue separator run false false).map .expression)).text? =
      (joinFull later encode separator false run).text? := by
  rcases run with _ | ⟨only, run⟩
  · rfl
  · simp [residue, Segment.expand, expand]

/-- Between nothing and a pair, what stands for a run gives its pairs and, if there is one, the
separator towards the pair that follows. -/
theorem text?_residue_of_followed (run : List Text) :
    (expandAll later encode .full ((residue separator run false true).map .expression)).text? =
      ((joinFull later encode separator false run).andThen
        (.write (if later.anyPresent run then separator else []))).text? := by
  rcases run with _ | ⟨only, run⟩
  · simp [residue, joinFull, Params.anyPresent]
  · simp [residue, Segment.expand, expand, unresolved]

/-- A run and the pair after it: the separator in front of the pair is written by this stage if
pairs precede the run, and otherwise by the guard of the run if one of its names turns up. -/
theorem text?_residue_pair (run : List Text) (filled : Bool) (name value : Text)
    (rest : List Segment) :
    (expandAll later encode .full ((residue separator run filled true).map .expression ++
        .literal (separatorIf filled separator ++ pair encode name value) :: rest)).text? =
      ((joinFull later encode separator filled run).andThen
        ((Emission.write (separatorIf (filled || later.anyPresent run) separator ++
            pair encode name value)).andThen
          (expandAll later encode .full rest))).text? := by
  rw [Segment.expandAll_append, Emission.text?_andThen]
  cases filled with
  | true =>
    rw [text?_residue_of_filled, Emission.text?_andThen]
    rfl
  | false =>
    rw [text?_residue_of_followed]
    simp only [Emission.text?_andThen, Emission.text?_write, Segment.expandAll_cons,
      Segment.expand]
    cases (joinFull later encode separator false run).text? with
    | none => rfl
    | some pairs =>
      cases (expandAll later encode .full rest).text? with
      | none => rfl
      | some after => cases later.anyPresent run <;> simp [separatorIf]

/-! ### One stage -/

/-- What a stage leaves of a `-join` gives, with the later parameters, the pairs for both stages.
The names of the run are those that the earlier parameters have left open since the last pair. -/
theorem text?_joinResidual (filled : Bool) (run names : List Text)
    (hrun : ∀ name ∈ run, earlier.get? name = none) :
    ((joinResidual earlier encode separator filled run names).toOption.bind fun left =>
        (expandAll later encode .full left).text?) =
      (joinFull (earlier.merge later) encode separator filled (run ++ names)).text? := by
  have hlook : ∀ name ∈ run, (earlier.merge later).single name = later.single name :=
    fun name hname => Params.single_merge_of_get? (hrun name hname)
  induction names generalizing filled run with
  | nil =>
    rw [List.append_nil, joinFull_congr hlook, joinResidual]
    cases filled
    · exact text?_residue_of_leading run
    · exact text?_residue_of_filled run false
  | cons name names ih =>
    have hmerge : (earlier.merge later).single name =
        Params.firstFound (earlier.single name) (later.single name) :=
      Params.single_merge earlier later name
    rcases h : earlier.single name with fault | _ | value
    · rw [h] at hmerge
      have hname : (earlier.merge later).single name = .error fault := hmerge
      rw [joinResidual_cons_of_error h, joinFull_append, Emission.text?_andThen, joinFull, hname]
      simp [Except.toOption]
    · have hname : earlier.get? name = none := Params.single_eq_ok_none_iff.1 h
      have hrun' : ∀ n ∈ run ++ [name], earlier.get? n = none := by
        intro n hn
        rcases List.mem_append.1 hn with hn | hn
        · exact hrun n hn
        · rw [List.mem_singleton.1 hn]
          exact hname
      rw [joinResidual_cons_of_none h,
        ih filled (run ++ [name]) hrun' fun n hn => Params.single_merge_of_get? (hrun' n hn),
        List.append_assoc, List.singleton_append]
    · rw [h] at hmerge
      have hname : (earlier.merge later).single name = .ok (some value) := hmerge
      have hnil : ∀ n ∈ ([] : List Text), earlier.get? n = none :=
        fun n hn => absurd hn List.not_mem_nil
      have hrest := ih true [] hnil fun n hn => absurd hn List.not_mem_nil
      rw [joinFull_append, joinFull_congr hlook, Params.anyPresent_merge_of_get? hrun,
        joinResidual_cons_of_some h, joinFull, hname]
      cases hleft : joinResidual earlier encode separator true [] names with
      | error fault =>
        rw [hleft] at hrest
        have hfail : (joinFull (earlier.merge later) encode separator true names).text? = none :=
          hrest.symm
        simp [Except.map, Except.toOption, hfail]
      | ok left =>
        rw [hleft] at hrest
        have htext : (expandAll later encode .full left).text? =
            (joinFull (earlier.merge later) encode separator true names).text? := hrest
        change (expandAll later encode .full _).text? = _
        rw [text?_residue_pair]
        simp [htext]

/-- An expression whose only variable is looked up in two stages. -/
theorem text?_residualOfLookup {α : Type} {e : Expression}
    {found found' : Except Error (Option α)} {form : α → Text}
    (he : e.expand later encode .full = .ofLookup found' form []) :
    ((residualOfLookup e found form).toOption.bind fun left =>
        (expandAll later encode .full left).text?) =
      (Emission.ofLookup (Params.firstFound found found') form []).text? := by
  rcases found with fault | _ | x
  · rfl
  · simp [residualOfLookup, Except.toOption, Params.firstFound, Segment.expand, he]
  · simp [residualOfLookup, Except.toOption, Params.firstFound, Segment.expand,
      Emission.ofLookup]

/-- What a stage leaves of an expression gives, with the later parameters, what the expression gives
for both stages. -/
theorem text?_residual (hempty : Params.EmptyStays earlier later) (e : Expression) :
    ((e.residual earlier encode).toOption.bind fun left =>
        (expandAll later encode .full left).text?) =
      (e.expand (earlier.merge later) encode .full).text? := by
  cases e with
  | bare name =>
    rw [expand, Params.single_merge]
    exact text?_residualOfLookup rfl
  | prepend arg name =>
    rw [expand, Params.single_merge]
    exact text?_residualOfLookup rfl
  | append arg name =>
    rw [expand, Params.single_merge]
    exact text?_residualOfLookup rfl
  | list arg name =>
    rw [expand, Params.items_merge]
    exact text?_residualOfLookup rfl
  | opt arg names =>
    rw [expand, Params.anyPresent_merge hempty]
    cases h : earlier.anyPresent names <;>
      simp [residual, h, Except.toOption, Segment.expand, expand, unresolved]
  | neg arg names =>
    rw [expand, Params.anyPresent_merge hempty]
    cases h : earlier.anyPresent names <;>
      simp [residual, h, Except.toOption, Segment.expand, expand]
  | join separator names =>
    exact text?_joinResidual false [] names fun n hn => absurd hn List.not_mem_nil

end Expression

/-- What a stage leaves of segments gives, with the later parameters, what the segments give for
both stages. -/
theorem Segment.text?_residualAll {earlier later : Params} {encode : Encoder}
    (hempty : Params.EmptyStays earlier later) (segments : List Segment) :
    ((residualAll earlier encode segments).toOption.bind fun left =>
        (expandAll later encode .full left).text?) =
      (expandAll (earlier.merge later) encode .full segments).text? := by
  induction segments with
  | nil => rfl
  | cons s rest ih =>
    have hs : ((s.residual earlier encode).toOption.bind fun left =>
        (expandAll later encode .full left).text?) =
          (s.expand (earlier.merge later) encode .full).text? := by
      cases s with
      | literal t => simp [residual, Except.toOption, expand]
      | expression e => exact Expression.text?_residual hempty e
    rw [expandAll_cons, Emission.text?_andThen, ← hs, ← ih, residualAll]
    cases s.residual earlier encode with
    | error fault => rfl
    | ok left =>
      cases residualAll earlier encode rest with
      | error fault =>
        cases (expandAll later encode .full left).text? <;> simp [Except.toOption, Except.bind,
          Except.map]
      | ok lefts => simp [Except.toOption, Except.bind, Except.map, expandAll_append]

end LinkTemplate
