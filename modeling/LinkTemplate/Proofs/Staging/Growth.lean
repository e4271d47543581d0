import LinkTemplate.Proofs.Template.Residual
/-!
# Stages do not let a template grow

A stage can write the names of a `-join` twice, once in a group and once in the
`-opt` that guards its separator, and the next stage expands both.  The number of
mentions stays bounded all the same: a guard stands right beside its group and has
the same names, so it goes away as soon as one of them is present, and before that
the group is not split.

`Paired es n` is the invariant: the expressions `es` mention at most `n` names if
a guard beside its group is not counted.  A stage keeps it
(`Expression.Paired.narrowed`), and it bounds the mentions by `2 * n`.
-/

namespace LinkTemplate

namespace Expression

open Segment (expressionsOf)

/-- The number of mentions of names in expressions. -/
def mentions : List Expression → Nat
  | [] => 0
  | e :: es => e.names.length + mentions es

/-- The expressions mention at most `n` names if guards beside their groups are not counted. -/
inductive Paired : List Expression → Nat → Prop
  | nil {n : Nat} : Paired [] n
  | single {es : List Expression} {n : Nat} (e : Expression) :
      Paired es n → Paired (e :: es) (e.names.length + n)
  /-- The guard supplies the separator towards the pair in front of the group. -/
  | guardFirst {es : List Expression} {n : Nat} (separator : Text) (run : List Text) :
      Paired es n → Paired (opt separator run :: join separator run :: es) (run.length + n)
  /-- The guard supplies the separator towards the pair after the group. -/
  | guardLast {es : List Expression} {n : Nat} (separator : Text) (run : List Text) :
      Paired es n → Paired (join separator run :: opt separator run :: es) (run.length + n)

/-- What is left of expressions, one after the other. -/
inductive Narrowed (params : Params) (encode : Encoder) :
    List Expression → List Expression → Prop
  | nil : Narrowed params encode [] []
  | cons {e : Expression} {es es' : List Expression} {left : List Segment} :
      e.residual params encode = .ok left → Narrowed params encode es es' →
        Narrowed params encode (e :: es) (expressionsOf left ++ es')

variable {params : Params} {encode : Encoder} {separator : Text} {e : Expression}
  {es es' : List Expression} {segments : List Segment} {m n : Nat}

/-! ### Counting -/

/-- Every list of expressions is paired with the number of its mentions. -/
theorem paired_mentions (es : List Expression) : Paired es (mentions es) := by
  induction es with
  | nil => exact .nil
  | cons e es ih => exact .single e ih

/-- A paired list has at most twice as many mentions. -/
theorem Paired.mentions_le (h : Paired es n) : mentions es ≤ 2 * n := by
  induction h with
  | nil => exact Nat.zero_le _
  | single e _ ih =>
    rw [mentions]
    omega
  | guardFirst separator run _ ih =>
    simp only [mentions, names]
    omega
  | guardLast separator run _ ih =>
    simp only [mentions, names]
    omega

theorem Paired.mono (h : Paired es m) (hle : m ≤ n) : Paired es n := by
  induction h generalizing n with
  | nil => exact .nil
  | single e _ ih =>
    obtain ⟨k, rfl⟩ := Nat.le.dest hle
    rw [Nat.add_assoc]
    exact .single e (ih (Nat.le_add_right _ _))
  | guardFirst separator run _ ih =>
    obtain ⟨k, rfl⟩ := Nat.le.dest hle
    rw [Nat.add_assoc]
    exact .guardFirst separator run (ih (Nat.le_add_right _ _))
  | guardLast separator run _ ih =>
    obtain ⟨k, rfl⟩ := Nat.le.dest hle
    rw [Nat.add_assoc]
    exact .guardLast separator run (ih (Nat.le_add_right _ _))

theorem Paired.append (has : Paired es m) (hbs : Paired es' n) : Paired (es ++ es') (m + n) := by
  induction has with
  | nil => exact hbs.mono (Nat.le_add_left _ _)
  | single e _ ih =>
    rw [Nat.add_assoc]
    exact .single e ih
  | guardFirst separator run _ ih =>
    rw [Nat.add_assoc]
    exact .guardFirst separator run ih
  | guardLast separator run _ ih =>
    rw [Nat.add_assoc]
    exact .guardLast separator run ih

/-! ### What one expression leaves -/

/-- What stands for a run of missing names is a group, alone or with its guard, or one name. -/
theorem paired_residue (separator : Text) (run : List Text) (filled followed : Bool) :
    Paired (residue separator run filled followed) run.length := by
  rcases run with _ | ⟨only, _ | ⟨next, run⟩⟩
  · exact .nil
  · cases filled
    · cases followed
      · exact .single (join separator [only]) (.nil (n := 0))
      · exact .guardLast separator [only] (.nil (n := 0))
    · exact .single (prepend (separator ++ only ++ ['=']) only) (.nil (n := 0))
  · cases filled
    · cases followed
      · exact .single (join separator (only :: next :: run)) (.nil (n := 0))
      · exact .guardLast separator (only :: next :: run) (.nil (n := 0))
    · exact .guardFirst separator (only :: next :: run) (.nil (n := 0))

/-- The runs that a `-join` leaves have no name in common. -/
theorem paired_joinResidual {filled : Bool} {run names : List Text}
    (h : joinResidual params encode separator filled run names = .ok segments) :
    Paired (expressionsOf segments) (run.length + names.length) := by
  induction names generalizing filled run segments with
  | nil =>
    cases h
    rw [Segment.expressionsOf_map_expression]
    exact paired_residue separator run filled false
  | cons name names ih =>
    rcases joinResidual_cons_cases h with ⟨-, h⟩ | ⟨value, rest, -, hrest, rfl⟩
    · have hpaired := ih h
      rw [List.length_append, List.length_singleton, Nat.add_assoc, Nat.add_comm 1] at hpaired
      exact hpaired
    · rw [Segment.expressionsOf_append, Segment.expressionsOf_map_expression]
      have hpaired : Paired (expressionsOf rest) names.length := by simpa using ih hrest
      exact (paired_residue separator run filled true).append
        (hpaired.mono (Nat.le_succ names.length))

/-- What is left of an expression mentions no more names than the expression, up to guards. -/
theorem paired_residual (h : e.residual params encode = .ok segments) :
    Paired (expressionsOf segments) e.names.length := by
  cases leaves_of_residual h with
  | kept _ => exact .single e (.nil (n := 0))
  | written _ _ => exact .nil
  | @joined separator names _ hjoin => simpa [Expression.names] using paired_joinResidual hjoin

/-- A `-join` none of whose names is present leaves its group, or nothing if it has no names. -/
theorem expressionsOf_joinResidual_of_absent {filled : Bool} {run names : List Text}
    (h : joinResidual params encode separator filled run names = .ok segments)
    (habsent : params.anyPresent names = false) :
    expressionsOf segments = residue separator (run ++ names) filled false := by
  induction names generalizing run with
  | nil =>
    cases h
    rw [Segment.expressionsOf_map_expression, List.append_nil]
  | cons name names ih =>
    have hor : params.isPresent name = false ∧ params.anyPresent names = false := by
      simpa [Params.anyPresent] using habsent
    rcases joinResidual_cons_cases h with ⟨-, h⟩ | ⟨value, rest, hsingle, -, -⟩
    · rw [ih h hor.2, List.append_assoc, List.singleton_append]
    · cases hor.1.symm.trans (Params.isPresent_of_single hsingle)

/-! ### What a stage leaves -/

/-- A guard and its group leave no more than the group does: the guard goes away before the group is
split. -/
theorem paired_guard {run : List Text} {guard group : List Segment}
    (hguard : (opt separator run).residual params encode = .ok guard)
    (hgroup : (join separator run).residual params encode = .ok group) :
    Paired (expressionsOf guard ++ expressionsOf group) run.length ∧
      Paired (expressionsOf group ++ expressionsOf guard) run.length := by
  cases hpresent : params.anyPresent run with
  | true =>
    have hnone : expressionsOf guard = [] := by
      cases hguard
      rw [hpresent]
      rfl
    have hpaired : Paired (expressionsOf group) run.length := paired_residual hgroup
    rw [hnone, List.append_nil]
    exact ⟨hpaired, hpaired⟩
  | false =>
    have hkept : expressionsOf guard = [opt separator run] := by
      cases hguard
      rw [hpresent]
      rfl
    have hleft : expressionsOf group = residue separator run false false :=
      expressionsOf_joinResidual_of_absent hgroup hpresent
    rw [hkept, hleft]
    by_cases hne : run = []
    · rw [hne]
      exact ⟨.single (opt separator []) (.nil (n := 0)), .single (opt separator []) (.nil (n := 0))⟩
    · rw [residue_alone hne]
      exact ⟨.guardFirst separator run (.nil (n := 0)), .guardLast separator run (.nil (n := 0))⟩

/-- A stage keeps the bound. -/
theorem Paired.narrowed (h : Paired es n) (hleft : Narrowed params encode es es') :
    Paired es' n := by
  induction h generalizing es' with
  | nil =>
    cases hleft
    exact .nil
  | single e _ ih =>
    cases hleft with
    | cons he hrest => exact (paired_residual he).append (ih hrest)
  | guardFirst separator run _ ih =>
    cases hleft with
    | cons hguard hrest =>
      cases hrest with
      | cons hgroup hrest =>
        rw [← List.append_assoc]
        exact (paired_guard hguard hgroup).1.append (ih hrest)
  | guardLast separator run _ ih =>
    cases hleft with
    | cons hgroup hrest =>
      cases hrest with
      | cons hguard hrest =>
        rw [← List.append_assoc]
        exact (paired_guard hguard hgroup).2.append (ih hrest)

end Expression

/-- The expressions among what is left of segments are those that are left of their expressions. -/
theorem Segment.narrowed_of_residualAll {params : Params} {encode : Encoder}
    {segments out : List Segment} (h : residualAll params encode segments = .ok out) :
    Expression.Narrowed params encode (expressionsOf segments) (expressionsOf out) := by
  induction segments generalizing out with
  | nil =>
    cases h
    exact .nil
  | cons s rest ih =>
    obtain ⟨left, lefts, hs, hrest, rfl⟩ := residualAll_cons_eq_ok_iff.1 h
    rw [expressionsOf_append]
    cases s with
    | literal t =>
      cases hs
      exact ih hrest
    | expression e => exact .cons hs (ih hrest)

/-! ### Runs of stages -/

/-- The number of mentions of names in a template. -/
def Template.mentions (template : Template) : Nat := Expression.mentions template.expressions

/-- Expands a text in stages, as far as possible in each. -/
def expandStaged (encode : Encoder) : Text → List Params → Except Error Text
  | t, [] => .ok t
  | t, params :: later =>
    (expandText t params encode .staged).bind fun s => expandStaged encode s later

/-- A run of stages keeps the bound. -/
theorem paired_of_expandStaged {encode : Encoder} (henc : encode.BraceFree) {t s : Text}
    {template : Template} (hparse : Template.parse t = .ok template) (hfree : template.BraceFree)
    {n : Nat} (hpaired : Expression.Paired template.expressions n) {stages : List Params}
    (h : expandStaged encode t stages = .ok s) :
    ∃ next, Template.parse s = .ok next ∧ Expression.Paired next.expressions n := by
  induction stages generalizing t template with
  | nil =>
    cases h
    exact ⟨template, hparse, hpaired⟩
  | cons params later ih =>
    rw [expandStaged] at h
    cases hstage : expandText t params encode .staged with
    | error fault =>
      rw [hstage] at h
      cases h
    | ok u =>
      rw [hstage] at h
      obtain ⟨left, hleft, rfl, hparse', hfree'⟩ :=
        Template.stage_of_expandText hparse hfree henc hstage
      refine ih hparse' hfree' ?_ h
      rw [Template.expressions_gather]
      exact hpaired.narrowed (Segment.narrowed_of_residualAll hleft)

/-- **Stages do not let a template grow.**  Let a template write no opening brace of its operator
arguments or `-join` names, and let the encoder write none.  However many stages follow one another,
the template that they write mentions at most twice as many names as the first. -/
theorem mentions_le_of_expandStaged {encode : Encoder} (henc : encode.BraceFree) {t s : Text}
    {template : Template} (hparse : Template.parse t = .ok template) (hfree : template.BraceFree)
    {stages : List Params} (h : expandStaged encode t stages = .ok s) :
    ∃ next, Template.parse s = .ok next ∧ next.mentions ≤ 2 * template.mentions := by
  obtain ⟨next, hnext, hpaired⟩ := paired_of_expandStaged henc hparse hfree
    (Expression.paired_mentions template.expressions) h
  exact ⟨next, hnext, hpaired.mentions_le⟩

/-- Two stages of the search template.  The first writes each half of the `-join` beside a guard,
and the second splits one of the halves. -/
theorem mentions_le_of_expandStaged_search :
    let stages : List Params :=
      [.ofList [(['q'], .scalar ['a'])], .ofList [(['y'], .scalar ['1'])]]
    let left : Template :=
      ⟨[.literal "/s?".toList, .expression (.join ['&'] [['p']]),
        .expression (.opt ['&'] [['p']]), .literal "q=a".toList,
        .literal ['&'], .expression (.join ['&'] [['x']]), .expression (.opt ['&'] [['x']]),
        .literal "y=1".toList, .expression (.neg ['!'] [['z']]), .literal ['{']]⟩
    Encoder.percent.BraceFree ∧ Template.parse Template.search.source = .ok Template.search ∧
      Template.search.BraceFree ∧
      expandStaged .percent Template.search.source stages = .ok left.source ∧
      ∃ next, Template.parse left.source = .ok next ∧
        next.mentions ≤ 2 * Template.search.mentions := by
  intro stages left
  have hrun : expandStaged .percent Template.search.source stages = .ok left.source :=
    toOption_eq_some_iff.1 (by decide +kernel)
  exact ⟨Encoder.braceFree_percent, Template.parse_search, Template.braceFree_search, hrun,
    mentions_le_of_expandStaged Encoder.braceFree_percent Template.parse_search
      Template.braceFree_search hrun⟩

end LinkTemplate
