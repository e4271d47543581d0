import LinkTemplate.Proofs.Staging.Stage
/-!
# Staged expansion and expansion at one stroke

A template can be expanded in stages: each stage but the last is a staged
expansion with some of the parameters, the last one a full expansion.  The result
is that of a single full expansion with the parameters of all stages, of which
the earliest binding of a name counts.

The proof is an induction on the stages.  Each stage reads back the segments that
the one before it wrote (`Template.stage_of_expandText`), and what one stage
leaves stands for the whole (`Segment.text?_residualAll`).
-/

namespace LinkTemplate

/-- Expands a text in stages: fully with the last parameters, as far as possible with those before
it. -/
def expandStages (encode : Encoder) : Text → Params → List Params → Except Error Text
  | t, params, [] => expandText t params encode .full
  | t, params, next :: later =>
    (expandText t params encode .staged).bind fun s => expandStages encode s next later

namespace Params

/-- The bindings of all stages; of a name in several, that of the earliest. -/
def mergeAll : Params → List Params → Params
  | params, [] => params
  | params, next :: later => params.merge (mergeAll next later)

/-- The earliest stage that binds a name decides. -/
theorem get?_mergeAll (params : Params) (later : List Params) (name : Text) :
    (params.mergeAll later).get? name = (params :: later).findSome? (·.get? name) := by
  induction later generalizing params with
  | nil => simp [mergeAll]
  | cons next later ih =>
    rw [mergeAll, get?_merge, ih]
    cases h : params.get? name <;> simp [List.findSome?_cons, h]

/-- No name is bound in both. -/
def Disjoint (a b : Params) : Prop := ∀ name, a.get? name = none ∨ b.get? name = none

theorem Disjoint.symm {a b : Params} (h : a.Disjoint b) : b.Disjoint a := fun name => (h name).symm

/-- Disjoint stages bind no empty list again. -/
theorem Disjoint.emptyStays {a b : Params} (h : a.Disjoint b) : EmptyStays a b := by
  intro name hname
  rcases h name with hnone | hnone
  · cases hname.symm.trans hnone
  · exact hnone

/-- What a stage binds to an empty list is not bound by all later stages together. -/
theorem EmptyStays.mergeAll {params next : Params} {later : List Params}
    (h : ∀ p ∈ next :: later, EmptyStays params p) : EmptyStays params (next.mergeAll later) := by
  intro name hname
  rw [get?_mergeAll, List.findSome?_eq_none_iff]
  exact fun p hp => h p hp name hname

/-- Pairwise disjoint stages bind the same in every order. -/
theorem findSome?_eq_of_perm {ps qs : List Params} (hperm : ps.Perm qs)
    (hdisjoint : ps.Pairwise Disjoint) (name : Text) :
    ps.findSome? (·.get? name) = qs.findSome? (·.get? name) := by
  induction hperm with
  | nil => rfl
  | cons p _ ih =>
    rw [List.findSome?_cons, List.findSome?_cons, ih (List.pairwise_cons.1 hdisjoint).2]
  | swap p q l =>
    have hpq : q.Disjoint p := (List.pairwise_cons.1 hdisjoint).1 p List.mem_cons_self
    simp only [List.findSome?_cons]
    rcases hpq name with h | h
    · rw [h]
    · rw [h]
  | trans hps _ ihp ihq =>
    rw [ihp hdisjoint, ihq (hps.pairwise hdisjoint Disjoint.symm)]

/-- Pairwise disjoint stages can be merged in every order. -/
theorem mergeAll_eq_of_perm {p q : Params} {ps qs : List Params}
    (hperm : (p :: ps).Perm (q :: qs)) (hdisjoint : (p :: ps).Pairwise Disjoint) :
    p.mergeAll ps = q.mergeAll qs := by
  refine TextMap.ext fun name => ?_
  rw [get?_mergeAll, get?_mergeAll]
  exact findSome?_eq_of_perm hperm hdisjoint name

end Params

/-- A run of stages gives the text of the full expansion with the parameters of all of them, and
fails when that fails. -/
theorem toOption_expandStages {encode : Encoder} (henc : encode.BraceFree) {t : Text}
    {template : Template} (hparse : Template.parse t = .ok template) (hfree : template.BraceFree)
    (params : Params) (later : List Params)
    (hempty : (params :: later).Pairwise Params.EmptyStays) :
    (expandStages encode t params later).toOption =
      (expandText t (params.mergeAll later) encode .full).toOption := by
  induction later generalizing t template params with
  | nil => rfl
  | cons next later ih =>
    obtain ⟨hhead, htail⟩ := List.pairwise_cons.1 hempty
    have hstay : Params.EmptyStays params (next.mergeAll later) := .mergeAll hhead
    have hstage : ((Segment.residualAll params encode template.segments).toOption.bind fun left =>
        (Segment.expandAll (next.mergeAll later) encode .full left).text?) =
          (Segment.expandAll (params.merge (next.mergeAll later)) encode .full
            template.segments).text? :=
      Segment.text?_residualAll hstay template.segments
    rw [Params.mergeAll, expandText_of_parse hparse]
    change _ = (Segment.expandAll _ encode .full template.segments).text?
    rw [← hstage, expandStages]
    cases hwritten : expandText t params encode .staged with
    | error fault =>
      rw [expandText_staged hparse] at hwritten
      cases hleft : Segment.residualAll params encode template.segments with
      | error fault' => rfl
      | ok left =>
        rw [hleft] at hwritten
        cases hwritten
    | ok s =>
      obtain ⟨left, hleft, rfl, hparse', hfree'⟩ :=
        Template.stage_of_expandText hparse hfree henc hwritten
      have hgather := Template.expand_gather left (next.mergeAll later) encode .full
      rw [hleft]
      change (expandStages encode (Segment.sourceOf left) next later).toOption =
        (Segment.expandAll (next.mergeAll later) encode .full left).result.toOption
      rw [ih hparse' hfree' next htail, ← hgather, expandText, hparse']
      rfl

/-- Two results with the same text are the same successes. -/
theorem eq_ok_iff_of_toOption_eq {a b : Except Error Text} (h : a.toOption = b.toOption)
    (s : Text) : a = .ok s ↔ b = .ok s := by
  rw [← toOption_eq_some_iff, h, toOption_eq_some_iff]

/-- **Staged expansion is expansion at one stroke.**  Let a template write no opening brace of its
operator arguments or `-join` names, let the encoder write none, and let no stage bind what an
earlier stage has bound to an empty list.  Then a run of stages succeeds with a text exactly if the
full expansion with the parameters of all stages, the earliest binding of a name counting, succeeds
with that text.  The order of stages that have no name in common does not matter. -/
theorem expandStages_eq_ok_iff {encode : Encoder} (henc : encode.BraceFree) {t : Text}
    {template : Template} (hparse : Template.parse t = .ok template) (hfree : template.BraceFree)
    (params : Params) (later : List Params)
    (hempty : (params :: later).Pairwise Params.EmptyStays) :
    (∀ s, expandStages encode t params later = .ok s ↔
      expandText t (params.mergeAll later) encode .full = .ok s) ∧
    ((params :: later).Pairwise Params.Disjoint → ∀ params' later',
      (params' :: later').Perm (params :: later) → ∀ s,
        expandStages encode t params' later' = .ok s ↔
          expandStages encode t params later = .ok s) := by
  have hrun : (expandStages encode t params later).toOption =
      (expandText t (params.mergeAll later) encode .full).toOption :=
    toOption_expandStages henc hparse hfree params later hempty
  refine ⟨eq_ok_iff_of_toOption_eq hrun, ?_⟩
  intro hdisjoint params' later' hperm
  have hdisjoint' : (params' :: later').Pairwise Params.Disjoint :=
    hperm.symm.pairwise hdisjoint Params.Disjoint.symm
  have hmerge : params'.mergeAll later' = params.mergeAll later :=
    Params.mergeAll_eq_of_perm hperm hdisjoint'
  have hrun' : (expandStages encode t params' later').toOption =
      (expandText t (params'.mergeAll later') encode .full).toOption :=
    toOption_expandStages henc hparse hfree params' later'
      (hdisjoint'.imp Params.Disjoint.emptyStays)
  rw [hmerge, ← hrun] at hrun'
  exact eq_ok_iff_of_toOption_eq hrun'

/-- Three stages of the search template: its `-join` is split twice, and a name of its `-neg` is
bound to an empty list. -/
theorem expandStages_search :
    let first : Params := .ofList [(['q'], .scalar ['a', '{']), (['z'], .list [])]
    let second : Params := .ofList [(['y'], .scalar ['1'])]
    let third : Params := .ofList [(['p'], .scalar []), (['q'], .scalar ['b'])]
    Encoder.percent.BraceFree ∧ Template.parse Template.search.source = .ok Template.search ∧
      Template.search.BraceFree ∧ [first, second, third].Pairwise Params.EmptyStays ∧
      expandStages .percent Template.search.source first [second, third] =
        .ok ("/s?p=&q=a%7B&y=1!".toList ++ ['{']) := by
  intro first second third
  have hempty : [first, second, third].Pairwise Params.EmptyStays := by
    refine List.pairwise_cons.2 ⟨fun p hp => ?_, List.pairwise_cons.2 ⟨fun p hp => ?_, by simp⟩⟩
    all_goals
      refine Params.emptyStays_of_entries fun entry hentry hnil => ?_
      revert p entry
      decide
  have hrun := expandStages_eq_ok_iff Encoder.braceFree_percent Template.parse_search
    Template.braceFree_search first [second, third] hempty
  exact ⟨Encoder.braceFree_percent, Template.parse_search, Template.braceFree_search, hempty,
    (hrun.1 _).2 (toOption_eq_some_iff.1 (by decide +kernel))⟩

end LinkTemplate
