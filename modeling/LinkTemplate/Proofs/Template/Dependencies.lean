import LinkTemplate.Proofs.Staging.OpenNames
import LinkTemplate.Proofs.Staging.Stage
import Mathlib.Data.List.Induction
/-!
# What an expansion depends on

The list of names of a template is all that an expansion of it looks at.  An
expression looks up its own names and no others, whatever loop it goes through and
whichever mode it is expanded in, so parameters that agree on these names give the
same text or the same error (`Expression.expand_congr`).

The list itself is read off the expressions: it has every name that one of them
mentions, once, at the place of its first mention (`Template.pairwise_distinct`).
-/

namespace LinkTemplate

/-! ### The list of names -/

namespace Template

/-- The names that the expressions of a template mention, as often and in the order in which they
mention them. -/
def mentioned (template : Template) : List Text := template.expressions.flatMap Expression.names

/-- A further name is added at the end, if it was not there before. -/
theorem distinct_concat (names : List Text) (name : Text) :
    distinct (names ++ [name]) =
      if name ∈ names then distinct names else distinct names ++ [name] := by
  have hfold : distinct (names ++ [name]) =
      if (distinct names).contains name then distinct names else distinct names ++ [name] := by
    unfold distinct
    rw [List.foldl_append, List.foldl_cons, List.foldl_nil]
  have hmem : (distinct names).contains name = true ↔ name ∈ names := by
    rw [List.contains_iff_mem]
    exact mem_distinct_iff
  rw [hfold]
  simp only [hmem]

/-- Names stand in the order of their first mention. -/
theorem pairwise_distinct (names : List Text) :
    (distinct names).Pairwise fun a b => names.idxOf a < names.idxOf b := by
  -- names are taken from the end, where a name is new if it was not mentioned before
  induction names using List.reverseRecOn with
  | nil => exact .nil
  | append_singleton names name ih =>
    have hold : ∀ a ∈ names, (names ++ [name]).idxOf a = names.idxOf a :=
      fun a ha => List.idxOf_append_of_mem ha
    have hkept : (distinct names).Pairwise
        fun a b => (names ++ [name]).idxOf a < (names ++ [name]).idxOf b := by
      refine ih.imp_of_mem ?_
      intro a b ha hb hlt
      rw [hold a (mem_distinct_iff.1 ha), hold b (mem_distinct_iff.1 hb)]
      exact hlt
    rw [distinct_concat]
    by_cases hname : name ∈ names
    · rw [if_pos hname]
      exact hkept
    · rw [if_neg hname]
      refine List.pairwise_append.2 ⟨hkept, List.pairwise_singleton _ _, ?_⟩
      intro a ha b hb
      obtain rfl := List.mem_singleton.1 hb
      have ha' : a ∈ names := mem_distinct_iff.1 ha
      have hfirst : (names ++ [b]).idxOf b = names.length := by
        rw [List.idxOf_append_of_notMem hname, List.idxOf_cons_self, Nat.add_zero]
      rw [hold a ha', hfirst]
      exact List.idxOf_lt_length_of_mem ha'

/-- No name is listed twice. -/
theorem nodup_distinct (names : List Text) : (distinct names).Nodup := by
  refine (pairwise_distinct names).imp ?_
  intro a b hlt heq
  rw [heq] at hlt
  exact Nat.lt_irrefl _ hlt

end Template

/-! ### Parameters that agree -/

namespace Params

variable {params params' : Params}

theorem single_congr {name : Text} (h : params.get? name = params'.get? name) :
    params.single name = params'.single name := by
  unfold single
  rw [h]

theorem items_congr {name : Text} (h : params.get? name = params'.get? name) :
    params.items name = params'.items name := by
  unfold items
  rw [h]

theorem anyPresent_congr {names : List Text}
    (h : ∀ name ∈ names, params.get? name = params'.get? name) :
    params.anyPresent names = params'.anyPresent names := by
  have hpresent : ∀ name ∈ names, params.isPresent name = params'.isPresent name := by
    intro name hname
    unfold isPresent
    rw [h name hname]
  unfold anyPresent
  rw [Bool.eq_iff_iff, List.any_eq_true, List.any_eq_true]
  refine exists_congr fun name => and_congr_right fun hname => ?_
  rw [hpresent name hname]

end Params

/-! ### What an expression looks up -/

namespace Expression

variable {params params' : Params} {encode : Encoder} {separator : Text} {e : Expression}

/-- What a staged `-join` writes depends on what the look-ups of the names find. -/
theorem joinStaged_congr {filled : Bool} {run names : List Text}
    (h : ∀ name ∈ names, params.single name = params'.single name) :
    joinStaged params encode separator filled run names =
      joinStaged params' encode separator filled run names := by
  induction names generalizing filled run with
  | nil => rfl
  | cons name names ih =>
    obtain ⟨hname, hnames⟩ := List.forall_mem_cons.1 h
    unfold joinStaged
    rw [hname]
    rcases params'.single name with fault | _ | value
    · rfl
    · exact ih hnames
    · simp only [ih hnames]

/-- An expression is expanded in the same way with parameters that agree on its names. -/
theorem expand_congr (h : ∀ name ∈ e.names, params.get? name = params'.get? name)
    (encode : Encoder) (mode : Mode) :
    e.expand params encode mode = e.expand params' encode mode := by
  cases e with
  | bare name | prepend arg name | append arg name =>
    have hname : params.single name = params'.single name :=
      Params.single_congr (h name (List.mem_singleton_self name))
    rw [expand, expand, hname]
  | list arg name =>
    have hname : params.items name = params'.items name :=
      Params.items_congr (h name (List.mem_singleton_self name))
    rw [expand, expand, hname]
  | opt arg names | neg arg names =>
    have hnames : params.anyPresent names = params'.anyPresent names := Params.anyPresent_congr h
    simp only [expand, hnames]
  | join separator names =>
    have hnames : ∀ name ∈ names, params.single name = params'.single name :=
      fun name hname => Params.single_congr (h name hname)
    cases mode with
    | full => exact joinFull_congr hnames
    | staged => exact joinStaged_congr hnames

end Expression

/-- Segments are expanded in the same way with parameters that agree on the names of their
expressions. -/
theorem Segment.expandAll_congr {params params' : Params} {segments : List Segment}
    (h : ∀ e ∈ expressionsOf segments, ∀ name ∈ e.names, params.get? name = params'.get? name)
    (encode : Encoder) (mode : Mode) :
    expandAll params encode mode segments = expandAll params' encode mode segments := by
  induction segments with
  | nil => rfl
  | cons s rest ih =>
    cases s with
    | literal t =>
      rw [expandAll_cons, expandAll_cons, ih h]
      rfl
    | expression e =>
      obtain ⟨hhead, hrest⟩ := List.forall_mem_cons.1 h
      rw [expandAll_cons, expandAll_cons, ih hrest, expand, expand,
        Expression.expand_congr hhead]

/-- **The names of a template are what it depends on.**  They are the names that its expressions
mention, each listed once, in the order of their first mention.  Parameters that bind each of them
to the same value, or leave it unbound, expand the template to the same text or fail with the same
error, with every encoder and in both modes. -/
theorem expandText_eq_of_agree_on_names {t : Text} {template : Template}
    (hparse : Template.parse t = .ok template) :
    template.names.Nodup ∧
      (∀ name, name ∈ template.names ↔ ∃ e ∈ template.expressions, name ∈ e.names) ∧
      template.names.Pairwise
        (fun a b => template.mentioned.idxOf a < template.mentioned.idxOf b) ∧
      ∀ params params' : Params,
        (∀ name ∈ template.names, params.get? name = params'.get? name) →
        ∀ encode mode, expandText t params encode mode = expandText t params' encode mode := by
  refine ⟨Template.nodup_distinct _, fun name => Template.mem_names_iff,
    Template.pairwise_distinct _, ?_⟩
  intro params params' hagree encode mode
  have hnames : ∀ e ∈ Segment.expressionsOf template.segments, ∀ name ∈ e.names,
      params.get? name = params'.get? name :=
    fun e he name hname => hagree name (Template.mem_names_iff.2 ⟨e, he, hname⟩)
  rw [expandText_of_parse hparse, expandText_of_parse hparse,
    Segment.expandAll_congr hnames encode mode]

/-- The search template mentions `q` and `p` twice and lists them once.  It does not look at `w`, so
it fails at the list `x` in the same way whether `w` is bound or not. -/
theorem expandText_eq_of_agree_on_names_search :
    let params : Params :=
      .ofList [(['q'], .scalar ['1']), (['x'], .list []), (['w'], .list [['2']])]
    let params' : Params := .ofList [(['x'], .list []), (['q'], .scalar ['1'])]
    Template.parse Template.search.source = .ok Template.search ∧
      Template.search.names = [['q'], ['p'], ['x'], ['y'], ['z']] ∧
      (∀ name ∈ Template.search.names, params.get? name = params'.get? name) ∧
      params ≠ params' ∧
      expandText Template.search.source params .percent .staged =
        expandText Template.search.source params' .percent .staged := by
  intro params params'
  have hagree : ∀ name ∈ Template.search.names, params.get? name = params'.get? name := by decide
  obtain ⟨-, -, -, hexpand⟩ := expandText_eq_of_agree_on_names Template.parse_search
  exact ⟨Template.parse_search, by decide, hagree, by decide,
    hexpand params params' hagree .percent .staged⟩

end LinkTemplate
