import LinkTemplate.Proofs.Encoder.Percent
import LinkTemplate.Proofs.Template.Scan
/-!
# What a staged expansion leaves of an expression

A staged expansion writes one text, but that text has parts: literal text where
an expression was resolved, and expressions where it was not.  `residual` gives
these parts.  Their text is what the staged expansion writes, and the two fail
together (`result_expand_staged`), so everything about the written text can be
read off the residual.

The residual of a `-join` is a list of pairs and of what stands for the runs of
missing names between them; `forall_mem_joinResidual` is the rule for showing
something of all its segments.
-/

namespace LinkTemplate

/-- A result is a success with a value exactly if the value is all that is left without the error.
An equation between options can be decided by evaluation. -/
theorem toOption_eq_some_iff {ε α : Type} {x : Except ε α} {a : α} :
    x.toOption = some a ↔ x = .ok a := by
  cases x <;> simp [Except.toOption]

namespace Emission

@[simp] theorem result_write (t : Text) : (write t).result = .ok t := rfl

@[simp] theorem result_fail (e : Error) : (fail e).result = .error e := rfl

@[simp] theorem result_onto (out : Text) (a : Emission) :
    (a.onto out).result = a.result.map (out ++ ·) := by
  obtain ⟨t, _ | e⟩ := a <;> rfl

/-- One emission after another gives both texts, or the first error. -/
theorem result_andThen (a b : Emission) :
    (a.andThen b).result = a.result.bind fun t => b.result.map (t ++ ·) := by
  obtain ⟨t, _ | e⟩ := a
  · obtain ⟨u, _ | f⟩ := b <;> rfl
  · rfl

end Emission

namespace Params

/-- A look-up for a single value finds nothing exactly at an unbound name. -/
theorem single_eq_ok_none_iff {params : Params} {name : Text} :
    params.single name = .ok none ↔ params.get? name = none := by
  unfold single
  split <;> simp_all

/-- A name at which a single value was found is present. -/
theorem isPresent_of_single {params : Params} {name value : Text}
    (h : params.single name = .ok (some value)) : params.isPresent name = true := by
  unfold single at h
  split at h
  · cases h
  · rename_i text heq
    exact isPresent_eq_true_iff.2 ⟨_, heq, rfl⟩
  · cases h

/-- A look-up for a list finds nothing exactly at an unbound name. -/
theorem items_eq_ok_none_iff {params : Params} {name : Text} :
    params.items name = .ok none ↔ params.get? name = none := by
  unfold items
  split <;> simp_all

/-- An unbound name is not present. -/
theorem isPresent_eq_false_of_get? {params : Params} {name : Text}
    (h : params.get? name = none) : params.isPresent name = false := by
  simp [isPresent, h]

/-- No unbound name is present. -/
theorem anyPresent_eq_false_of_get? {params : Params} {names : List Text}
    (h : ∀ name ∈ names, params.get? name = none) : params.anyPresent names = false := by
  rw [anyPresent, List.any_eq_false]
  intro name hname
  rw [isPresent_eq_false_of_get? (h name hname)]
  exact Bool.false_ne_true

end Params

namespace Encoder

/-- The encoder never writes an opening brace. -/
def BraceFree (encode : Encoder) : Prop := ∀ value, '{' ∉ encode value

/-- Percent encoding writes no brace. -/
theorem braceFree_percent : BraceFree percent :=
  notMem_percent (by decide) (by decide)

end Encoder

namespace Text

/-- A character that is neither in the separator nor in a part is not in the joined text. -/
theorem notMem_joinWith {c : Char} {separator : Text} {parts : List Text} (hsep : c ∉ separator)
    (hparts : ∀ part ∈ parts, c ∉ part) : c ∉ joinWith separator parts := by
  induction parts with
  | nil => simp
  | cons part parts ih =>
    have hrest : c ∉ joinWith separator parts := ih fun p hp => hparts p (List.mem_cons_of_mem _ hp)
    cases parts with
    | nil => simpa using hparts part List.mem_cons_self
    | cons next parts =>
      rw [joinWith_cons_cons, List.mem_append, List.mem_append]
      rintro ((hc | hc) | hc)
      · exact hparts part List.mem_cons_self hc
      · exact hsep hc
      · exact hrest hc

end Text

namespace Expression

open Segment (sourceOf expressionsOf)

/-! ### The residual -/

/-- What is left of an expression after a look-up: the text of what was found, or the expression. -/
def residualOfLookup {α : Type} (e : Expression) (found : Except Error (Option α))
    (form : α → Text) : Except Error (List Segment) :=
  match found with
  | .error fault => .error fault
  | .ok none => .ok [.expression e]
  | .ok (some x) => .ok [.literal (form x)]

/-- What is left of a `-join`: its pairs, and what stands for each run of missing names. -/
def joinResidual (params : Params) (encode : Encoder) (separator : Text) :
    Bool → List Text → List Text → Except Error (List Segment)
  | filled, run, [] => .ok ((residue separator run filled false).map .expression)
  | filled, run, name :: names =>
    match params.single name with
    | .error fault => .error fault
    | .ok none => joinResidual params encode separator filled (run ++ [name]) names
    | .ok (some value) =>
      (joinResidual params encode separator true [] names).map fun rest =>
        (residue separator run filled true).map .expression ++
          .literal (separatorIf filled separator ++ pair encode name value) :: rest

/-- What is left of an expression: text as far as the parameters resolve it, expressions
elsewhere. -/
def residual (e : Expression) (params : Params) (encode : Encoder) : Except Error (List Segment) :=
  match e with
  | bare name => residualOfLookup e (params.single name) encode
  | opt arg names => .ok [if params.anyPresent names then .literal arg else .expression e]
  | neg _ names => .ok [if params.anyPresent names then .literal [] else .expression e]
  | prepend arg name => residualOfLookup e (params.single name) fun value => arg ++ encode value
  | append arg name => residualOfLookup e (params.single name) fun value => encode value ++ arg
  | list arg name =>
    residualOfLookup e (params.items name) fun items => Text.joinWith arg (items.map encode)
  | join separator names => joinResidual params encode separator false [] names

variable {params : Params} {encode : Encoder} {separator : Text} {e : Expression}
  {segments : List Segment}

section Cons

variable {filled : Bool} {run names : List Text} {name value : Text} {fault : Error}

theorem joinResidual_cons_of_error (h : params.single name = .error fault) :
    joinResidual params encode separator filled run (name :: names) = .error fault := by
  rw [joinResidual, h]

/-- A missing name joins the run. -/
theorem joinResidual_cons_of_none (h : params.single name = .ok none) :
    joinResidual params encode separator filled run (name :: names) =
      joinResidual params encode separator filled (run ++ [name]) names := by
  rw [joinResidual, h]

/-- A pair ends the run in front of it. -/
theorem joinResidual_cons_of_some (h : params.single name = .ok (some value)) :
    joinResidual params encode separator filled run (name :: names) =
      (joinResidual params encode separator true [] names).map fun rest =>
        (residue separator run filled true).map .expression ++
          .literal (separatorIf filled separator ++ pair encode name value) :: rest := by
  rw [joinResidual, h]

/-- What a `-join` leaves with one more name: that name is missing and joins the run, or its pair
ends the run. -/
theorem joinResidual_cons_cases
    (h : joinResidual params encode separator filled run (name :: names) = .ok segments) :
    (params.get? name = none ∧
        joinResidual params encode separator filled (run ++ [name]) names = .ok segments) ∨
      ∃ value rest, params.single name = .ok (some value) ∧
        joinResidual params encode separator true [] names = .ok rest ∧
        segments = (residue separator run filled true).map .expression ++
          .literal (separatorIf filled separator ++ pair encode name value) :: rest := by
  rcases hsingle : params.single name with fault | _ | value
  · rw [joinResidual_cons_of_error hsingle] at h
    cases h
  · rw [joinResidual_cons_of_none hsingle] at h
    exact .inl ⟨Params.single_eq_ok_none_iff.1 hsingle, h⟩
  · rw [joinResidual_cons_of_some hsingle] at h
    cases hrest : joinResidual params encode separator true [] names with
    | error fault =>
      rw [hrest] at h
      cases h
    | ok rest =>
      rw [hrest] at h
      cases h
      exact .inr ⟨value, rest, rfl, rfl, rfl⟩

end Cons

/-! ### The text of the residual is the staged expansion -/

theorem sourceOf_map_expression (es : List Expression) :
    sourceOf (es.map .expression) = es.flatMap render := by
  induction es with
  | nil => rfl
  | cons e es ih =>
    rw [List.map_cons, Segment.sourceOf_cons, ih]
    rfl

theorem result_ofLookup {α : Type} (found : Except Error (Option α)) (form : α → Text) :
    (Emission.ofLookup found form e.render).result =
      (residualOfLookup e found form).map sourceOf := by
  obtain fault | _ | x := found <;>
    simp [Emission.ofLookup, residualOfLookup, Except.map, Segment.source]

theorem result_joinStaged (filled : Bool) (run names : List Text) :
    (joinStaged params encode separator filled run names).result =
      (joinResidual params encode separator filled run names).map sourceOf := by
  induction names generalizing filled run with
  | nil =>
    simp [joinStaged, joinResidual, deferred, Except.map, sourceOf_map_expression]
  | cons name names ih =>
    rcases h : params.single name with fault | _ | value
    · rw [joinResidual_cons_of_error h, joinStaged, h]
      rfl
    · rw [joinResidual_cons_of_none h, joinStaged, h]
      exact ih filled (run ++ [name])
    · rw [joinResidual_cons_of_some h, joinStaged, h]
      simp only [Emission.write_andThen, Emission.result_onto, ih true []]
      cases joinResidual params encode separator true [] names with
      | error fault => rfl
      | ok rest => simp [Except.map, deferred, sourceOf_map_expression, Segment.source]

/-- A staged expansion writes the text of the residual, and fails where there is none. -/
theorem result_expand_staged (e : Expression) (params : Params) (encode : Encoder) :
    (e.expand params encode .staged).result = (e.residual params encode).map sourceOf := by
  cases e with
  | bare name => exact result_ofLookup _ _
  | opt arg names => cases h : params.anyPresent names <;>
      simp [expand, residual, h, unresolved, Except.map, Segment.source]
  | neg arg names => cases h : params.anyPresent names <;>
      simp [expand, residual, h, Except.map, Segment.source]
  | prepend arg name => exact result_ofLookup _ _
  | append arg name => exact result_ofLookup _ _
  | join separator names => exact result_joinStaged _ _ _
  | list arg name => exact result_ofLookup _ _

/-! ### The parts of a residual -/

/-- A look-up leaves the expression or the text of what it found. -/
theorem residualOfLookup_eq_ok_iff {α : Type} {found : Except Error (Option α)} {form : α → Text} :
    residualOfLookup e found form = .ok segments ↔
      (found = .ok none ∧ segments = [.expression e]) ∨
        ∃ x, found = .ok (some x) ∧ segments = [.literal (form x)] := by
  rcases found with fault | _ | x <;> simp [residualOfLookup, eq_comm]

/-- What stands for a run of missing names is its group, a guard with the same names, or one name
with its separator. -/
theorem mem_residue {run : List Text} {filled followed : Bool}
    (h : e ∈ residue separator run filled followed) :
    run ≠ [] ∧ (e = join separator run ∨ e = opt separator run ∨
      ∃ only, run = [only] ∧ e = prepend (separator ++ only ++ ['=']) only) := by
  rcases run with _ | ⟨only, _ | ⟨next, run⟩⟩
  · cases h
  · refine ⟨List.cons_ne_nil _ _, ?_⟩
    cases filled <;> cases followed <;> grind [residue]
  · refine ⟨List.cons_ne_nil _ _, ?_⟩
    cases filled <;> cases followed <;> grind [residue]

/-- With no pair around it, a run leaves its group. -/
theorem residue_alone {run : List Text} (hne : run ≠ []) :
    residue separator run false false = [join separator run] := by
  rcases run with _ | ⟨only, _ | ⟨next, run⟩⟩
  · exact absurd rfl hne
  · rfl
  · rfl

/-- What stands for a run mentions the names of the run and no others. -/
theorem mem_names_residue_iff {run : List Text} {filled followed : Bool} {name : Text} :
    (∃ e ∈ residue separator run filled followed, name ∈ e.names) ↔ name ∈ run := by
  rcases run with _ | ⟨only, _ | ⟨next, run⟩⟩ <;> cases filled <;> cases followed <;>
    simp [residue, names]

/-- The names of a run: taken from a list, and unbound. -/
def IsMissing (params : Params) (all run : List Text) : Prop :=
  ∀ name ∈ run, name ∈ all ∧ params.get? name = none

/-- A property of all segments that a `-join` leaves: it has to hold of the expressions that stand
for a run of missing names, and of a pair with the separator in front of it or without. -/
theorem forall_mem_joinResidual {P : Segment → Prop} {all : List Text}
    (hresidue : ∀ run filled followed, IsMissing params all run →
      ∀ e ∈ residue separator run filled followed, P (.expression e))
    (hpair : ∀ filled, ∀ name ∈ all, ∀ value, params.single name = .ok (some value) →
      P (.literal (separatorIf filled separator ++ pair encode name value)))
    {filled : Bool} {run names : List Text} (hrun : IsMissing params all run)
    (hnames : ∀ name ∈ names, name ∈ all)
    (h : joinResidual params encode separator filled run names = .ok segments) :
    ∀ s ∈ segments, P s := by
  induction names generalizing filled run segments with
  | nil =>
    cases h
    intro s hs
    obtain ⟨e, he, rfl⟩ := List.mem_map.1 hs
    exact hresidue run filled false hrun e he
  | cons name names ih =>
    have hname : name ∈ all := hnames name List.mem_cons_self
    have htail : ∀ name ∈ names, name ∈ all := fun n hn => hnames n (List.mem_cons_of_mem _ hn)
    rcases joinResidual_cons_cases h with ⟨hnone, h⟩ | ⟨value, rest, hsingle, hrest, rfl⟩
    · refine ih ?_ htail h
      intro n hn
      rcases List.mem_append.1 hn with hn | hn
      · exact hrun n hn
      · obtain rfl := List.mem_singleton.1 hn
        exact ⟨hname, hnone⟩
    · have hmissing : IsMissing params all [] := fun n hn => absurd hn List.not_mem_nil
      intro s hs
      rcases List.mem_append.1 hs with hs | hs
      · obtain ⟨e, he, rfl⟩ := List.mem_map.1 hs
        exact hresidue run filled true hrun e he
      · rcases List.mem_cons.1 hs with rfl | hs
        · exact hpair filled name hname value hsingle
        · exact ih hmissing htail hrest s hs

/-- The rule for the whole of a `-join`. -/
theorem forall_mem_residual_join {P : Segment → Prop} {names : List Text}
    (hresidue : ∀ run filled followed, IsMissing params names run →
      ∀ e ∈ residue separator run filled followed, P (.expression e))
    (hpair : ∀ filled, ∀ name ∈ names, ∀ value, params.single name = .ok (some value) →
      P (.literal (separatorIf filled separator ++ pair encode name value)))
    (h : (join separator names).residual params encode = .ok segments) :
    ∀ s ∈ segments, P s :=
  forall_mem_joinResidual hresidue hpair (fun _ hn => absurd hn List.not_mem_nil)
    (fun _ hn => hn) h

/-! ### What becomes of an expression -/

/-- No argument of an operator and no name that `-join` writes out holds an opening brace. -/
def BraceFree : Expression → Prop
  | bare _ => True
  | opt arg _ | neg arg _ | prepend arg _ | append arg _ | list arg _ => '{' ∉ arg
  | join arg names => '{' ∉ arg ∧ ∀ name ∈ names, '{' ∉ name

instance : DecidablePred BraceFree
  | bare _ => .isTrue trivial
  | opt arg _ | neg arg _ | prepend arg _ | append arg _ | list arg _ =>
    inferInstanceAs (Decidable ('{' ∉ arg))
  | join arg names => inferInstanceAs (Decidable ('{' ∉ arg ∧ ∀ name ∈ names, '{' ∉ name))

/-- The parameters leave a name of the expression open: `-opt` and `-neg` wait as long as none of
their names is present, the others for each name that is unbound. -/
def Awaits (e : Expression) (params : Params) (name : Text) : Prop :=
  name ∈ e.names ∧
    match e with
    | opt _ names | neg _ names => params.anyPresent names = false
    | bare _ | prepend .. | append .. | join .. | list .. => params.get? name = none

/-- What can be left of an expression: all of it, nothing but text, or what a `-join` leaves. -/
inductive Leaves (params : Params) (encode : Encoder) : Expression → List Segment → Prop
  | kept {e : Expression} : (∀ name ∈ e.names, e.Awaits params name) →
      Leaves params encode e [.expression e]
  | written {e : Expression} {t : Text} : (∀ name, ¬ e.Awaits params name) →
      (e.BraceFree → encode.BraceFree → '{' ∉ t) → Leaves params encode e [.literal t]
  | joined {separator : Text} {names : List Text} {segments : List Segment} :
      joinResidual params encode separator false [] names = .ok segments →
      Leaves params encode (join separator names) segments

/-- An expression whose only variable is looked up is kept if the name is unbound, and written
otherwise. -/
theorem leaves_of_residualOfLookup {α : Type} {found : Except Error (Option α)} {form : α → Text}
    {name : Text} (hawaits : ∀ n, e.Awaits params n ↔ n = name ∧ params.get? name = none)
    (hnames : e.names = [name]) (hfound : found = .ok none ↔ params.get? name = none)
    (hform : ∀ x, e.BraceFree → encode.BraceFree → '{' ∉ form x)
    (h : residualOfLookup e found form = .ok segments) : Leaves params encode e segments := by
  rcases residualOfLookup_eq_ok_iff.1 h with ⟨hnone, rfl⟩ | ⟨x, hsome, rfl⟩
  · refine .kept fun n hn => (hawaits n).2 ⟨?_, hfound.1 hnone⟩
    rw [hnames] at hn
    exact List.mem_singleton.1 hn
  · refine .written (fun n hn => ?_) (hform x)
    have hnone : found = .ok none := hfound.2 ((hawaits n).1 hn).2
    cases hsome.symm.trans hnone

/-- An expression that depends on the presence of its names is written if one of them is present,
and kept otherwise. -/
theorem leaves_of_anyPresent {t : Text}
    (hawaits : ∀ n, e.Awaits params n ↔ n ∈ e.names ∧ params.anyPresent e.names = false)
    (ht : e.BraceFree → '{' ∉ t) :
    Leaves params encode e
      [if params.anyPresent e.names then .literal t else .expression e] := by
  by_cases hpresent : params.anyPresent e.names = true
  · rw [if_pos hpresent]
    refine .written (fun n hn => ?_) (fun hfree _ => ht hfree)
    cases hpresent.symm.trans ((hawaits n).1 hn).2
  · rw [if_neg hpresent]
    exact .kept fun n hn => (hawaits n).2 ⟨hn, Bool.eq_false_iff.2 hpresent⟩

/-- Every residual is of one of these forms. -/
theorem leaves_of_residual (h : e.residual params encode = .ok segments) :
    Leaves params encode e segments := by
  have hone : ∀ {name n : Text} {p : Prop}, n ∈ [name] ∧ p ↔ n = name ∧ p := by simp
  have hget : ∀ {name n : Text}, n = name ∧ params.get? n = none ↔
      n = name ∧ params.get? name = none :=
    and_congr_right fun heq => heq ▸ Iff.rfl
  cases e with
  | bare name =>
    exact leaves_of_residualOfLookup (fun n => hone.trans hget) rfl Params.single_eq_ok_none_iff
      (fun value _ henc => henc value) h
  | prepend arg name =>
    refine leaves_of_residualOfLookup (fun n => hone.trans hget) rfl Params.single_eq_ok_none_iff
      (fun value harg henc => ?_) h
    exact fun hmem => (List.mem_append.1 hmem).elim harg (henc value)
  | append arg name =>
    refine leaves_of_residualOfLookup (fun n => hone.trans hget) rfl Params.single_eq_ok_none_iff
      (fun value harg henc => ?_) h
    exact fun hmem => (List.mem_append.1 hmem).elim (henc value) harg
  | list arg name =>
    refine leaves_of_residualOfLookup (fun n => hone.trans hget) rfl Params.items_eq_ok_none_iff
      (fun items harg henc => ?_) h
    exact Text.notMem_joinWith harg fun part hpart => by
      obtain ⟨item, -, rfl⟩ := List.mem_map.1 hpart
      exact henc item
  | opt arg names =>
    cases h
    exact leaves_of_anyPresent (fun n => Iff.rfl) (fun harg => harg)
  | neg arg names =>
    cases h
    exact leaves_of_anyPresent (fun n => Iff.rfl) (fun _ => List.not_mem_nil)
  | join separator names => exact .joined h

/-! ### What the parts of a residual have in common -/

/-- What stands for some names of a `-join` can be embedded like the `-join` itself. -/
theorem embeddable_of_mem_residue {names run : List Text} {filled followed : Bool}
    (hjoin : (join separator names).Embeddable) (hsub : ∀ name ∈ run, name ∈ names)
    (he : e ∈ residue separator run filled followed) : e.Embeddable := by
  have happ : IsApplicable separator names := hjoin.wellFormed
  obtain ⟨hsep, hnames⟩ := close_notMem_applicationBody_iff.1 hjoin.close_notMem
  have hclose : ∀ name ∈ run, '}' ∉ name := fun name hname => hnames name (hsub name hname)
  obtain ⟨hne, rfl | rfl | ⟨only, rfl, rfl⟩⟩ := mem_residue he
  · exact embeddable_of_body .join (happ.mono hne hsub) rfl hsep hclose
  · exact embeddable_of_body .opt (happ.mono hne hsub) rfl hsep hclose
  · have honly : IsOperand only := (happ.mono hne hsub).isOperand only (List.mem_singleton_self _)
    have hclose' : '}' ∉ only := hclose only (List.mem_singleton_self _)
    refine embeddable_of_body .prepend ?_ rfl ?_ hclose
    · exact { bar_notMem := by simp [happ.bar_notMem, honly.bar_notMem]
              names_ne_nil := hne
              isOperand := (happ.mono hne hsub).isOperand }
    · simp [hsep, hclose']

/-- What stands for names without opening braces has none in its argument. -/
theorem braceFree_of_mem_residue {run : List Text} {filled followed : Bool}
    (hsep : '{' ∉ separator) (hrun : ∀ name ∈ run, '{' ∉ name)
    (he : e ∈ residue separator run filled followed) : e.BraceFree := by
  obtain ⟨-, rfl | rfl | ⟨only, rfl, rfl⟩⟩ := mem_residue he
  · exact ⟨hsep, hrun⟩
  · exact hsep
  · have honly : '{' ∉ only := hrun only (List.mem_singleton_self _)
    simp [BraceFree, hsep, honly]

/-- A property of all expressions that are left of one: it has to hold of the expression itself if
that is kept, and of what stands for the missing names of a `-join`. -/
theorem forall_mem_expressionsOf_residual {P : Expression → Prop}
    (hkept : (∀ name ∈ e.names, e.Awaits params name) → P e)
    (hjoined : ∀ separator names run filled followed, e = join separator names →
      IsMissing params names run → ∀ e' ∈ residue separator run filled followed, P e')
    (h : e.residual params encode = .ok segments) : ∀ e' ∈ expressionsOf segments, P e' := by
  intro e' he'
  rw [Segment.mem_expressionsOf_iff] at he'
  cases leaves_of_residual h with
  | kept hawaits =>
    cases List.mem_singleton.1 he'
    exact hkept hawaits
  | written _ _ => cases List.mem_singleton.1 he'
  | @joined separator names _ hjoin =>
    refine forall_mem_residual_join (P := fun s => ∀ e', s = .expression e' → P e')
      ?_ ?_ hjoin _ he' e' rfl
    · rintro run filled followed hrun e he'' _ ⟨⟩
      exact hjoined separator names run filled followed rfl hrun e he''
    · rintro filled name _ value _ _ ⟨⟩

/-- The expressions that are left can be embedded. -/
theorem embeddable_of_mem_residual (he : e.Embeddable)
    (h : e.residual params encode = .ok segments) :
    ∀ e' ∈ expressionsOf segments, e'.Embeddable := by
  refine forall_mem_expressionsOf_residual (fun _ => he) ?_ h
  rintro separator names run filled followed rfl hrun e' he'
  exact embeddable_of_mem_residue he (fun name hname => (hrun name hname).1) he'

/-- The expressions that are left of one without opening braces have none either. -/
theorem braceFree_of_mem_residual (he : e.BraceFree)
    (h : e.residual params encode = .ok segments) :
    ∀ e' ∈ expressionsOf segments, e'.BraceFree := by
  refine forall_mem_expressionsOf_residual (fun _ => he) ?_ h
  rintro separator names run filled followed rfl hrun e' he'
  exact braceFree_of_mem_residue he.1 (fun name hname => he.2 name (hrun name hname).1) he'

/-- The text that is left of an expression without opening braces has none either. -/
theorem open_notMem_of_mem_residual (he : e.BraceFree) (henc : encode.BraceFree)
    (h : e.residual params encode = .ok segments) {t : Text} (ht : .literal t ∈ segments) :
    '{' ∉ t := by
  cases leaves_of_residual h with
  | kept _ => cases List.mem_singleton.1 ht
  | written _ hopen => cases List.mem_singleton.1 ht; exact hopen he henc
  | @joined separator names _ hjoin =>
    refine forall_mem_residual_join (P := fun s => ∀ t, s = .literal t → '{' ∉ t)
      ?_ ?_ hjoin _ ht t rfl
    · rintro run filled followed hrun e he'' _ ⟨⟩
    · rintro filled name hname value _ _ ⟨⟩
      have hsep : '{' ∉ separatorIf filled separator := by
        cases filled
        · exact List.not_mem_nil
        · exact he.1
      simp [pair, hsep, he.2 name hname, henc value]

end Expression

end LinkTemplate
