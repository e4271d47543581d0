import LinkTemplate.Proofs.Template.Mismatch
/-!
# The table of operators

In a full expansion nothing is written back, so each expression has a value of its
own, which does not depend on what surrounds it: `Expression.tabulated` gives it case
by case.  If no expression rejects a name, the full expansion of a template writes its
literals and these values one after the other (`expandText_full_eq_tabulated`).

For `-join` the table puts the separator between the pairs of the bound names.  The
loop that writes them decides at each name whether a pair was written before, so its
two states are what stands at the head of such a text and what stands in its rest.
-/

namespace LinkTemplate

namespace Params

variable {params : Params} {name : Text}

/-- The text a name is bound to, if it is bound to a single value. -/
def scalar? (params : Params) (name : Text) : Option Text := (params.get? name).bind Value.scalar?

/-- The items a name is bound to, if it is bound to a list. -/
def list? (params : Params) (name : Text) : Option (List Text) :=
  (params.get? name).bind Value.list?

/-- Where there is no list, looking up a single value finds what there is. -/
theorem single_eq_ok_scalar? (h : ∀ items, params.get? name ≠ some (.list items)) :
    params.single name = .ok (params.scalar? name) := by
  unfold single scalar?
  rcases hvalue : params.get? name with _ | text | items
  · rfl
  · rfl
  · exact absurd hvalue (h items)

/-- Where there is no single value, looking up a list finds what there is. -/
theorem items_eq_ok_list? (h : ∀ text, params.get? name ≠ some (.scalar text)) :
    params.items name = .ok (params.list? name) := by
  unfold items list?
  rcases hvalue : params.get? name with _ | text | items
  · rfl
  · exact absurd hvalue (h text)
  · rfl

end Params

namespace Emission

/-- Two texts, one after the other, are written as one. -/
theorem write_andThen_write (s t : Text) : (write s).andThen (write t) = write (s ++ t) := rfl

/-- A look-up that did not fail writes what it found, or nothing. -/
theorem ofLookup_ok {α : Type} (found : Option α) (form : α → Text) :
    ofLookup (.ok found) form [] = write (found.elim [] form) := by
  cases found <;> rfl

end Emission

namespace Expression

variable {params : Params} {encode : Encoder} {separator : Text}

/-! ### The table -/

/-- The pair of a name that is bound to a single value. -/
def pair? (params : Params) (encode : Encoder) (name : Text) : Option Text :=
  (params.scalar? name).map fun value => name ++ '=' :: encode value

/-- The value of an expression in a full expansion. -/
def tabulated (params : Params) (encode : Encoder) : Expression → Text
  | bare name => (params.scalar? name).elim [] encode
  | opt arg names => if ∃ name ∈ names, params.isPresent name = true then arg else []
  | neg arg names => if ∃ name ∈ names, params.isPresent name = true then [] else arg
  | prepend arg name => (params.scalar? name).elim [] fun value => arg ++ encode value
  | append arg name => (params.scalar? name).elim [] fun value => encode value ++ arg
  | list arg name =>
    (params.list? name).elim [] fun items => arg.intercalate (items.map encode)
  | join separator names => separator.intercalate (names.filterMap (pair? params encode))

/-! ### The loop over the names of a join -/

/-- After a pair, each further pair has the separator in front of it. -/
theorem joinFull_true_eq_write {names : List Text}
    (h : ∀ name ∈ names, ∀ items, params.get? name ≠ some (.list items)) :
    joinFull params encode separator true names =
      .write ((names.filterMap (pair? params encode)).flatMap fun p => separator ++ p) := by
  induction names with
  | nil => rfl
  | cons name names ih =>
    obtain ⟨hname, hnames⟩ := List.forall_mem_cons.1 h
    rw [joinFull, Params.single_eq_ok_scalar? hname, List.filterMap_cons, pair?]
    rcases params.scalar? name with _ | value
    · exact ih hnames
    · simp only [ih hnames, Emission.write_andThen_write]
      simp [separatorIf, pair]

/-- As long as no pair is written, the next one is the head of the pairs. -/
theorem joinFull_false_eq_write {names : List Text}
    (h : ∀ name ∈ names, ∀ items, params.get? name ≠ some (.list items)) :
    joinFull params encode separator false names =
      .write (Text.joinWith separator (names.filterMap (pair? params encode))) := by
  induction names with
  | nil => rfl
  | cons name names ih =>
    obtain ⟨hname, hnames⟩ := List.forall_mem_cons.1 h
    rw [joinFull, Params.single_eq_ok_scalar? hname, List.filterMap_cons, pair?]
    rcases params.scalar? name with _ | value
    · exact ih hnames
    · simp only [joinFull_true_eq_write hnames, Emission.write_andThen_write]
      simp [separatorIf, pair, Text.joinWith_cons]

/-- A full expansion writes the value of an expression that rejects none of its names. -/
theorem expand_full_eq_write {e : Expression} (h : ∀ name, ¬ e.Rejects params name) :
    e.expand params encode .full = .write (e.tabulated params encode) := by
  have hsingle : ∀ {name : Text} {form : Text → Text},
      (∀ items, params.get? name ≠ some (.list items)) →
        Emission.ofLookup (params.single name) form [] =
          .write ((params.scalar? name).elim [] form) := by
    intro name form hname
    rw [Params.single_eq_ok_scalar? hname, Emission.ofLookup_ok]
  have hpresent : ∀ names : List Text, params.anyPresent names = true ↔
      ∃ name ∈ names, params.isPresent name = true := fun names => List.any_eq_true
  cases e with
  | bare name => exact hsingle fun items hitems => h name ⟨List.mem_singleton_self _, items, hitems⟩
  | prepend arg name =>
    exact hsingle fun items hitems => h name ⟨List.mem_singleton_self _, items, hitems⟩
  | append arg name =>
    exact hsingle fun items hitems => h name ⟨List.mem_singleton_self _, items, hitems⟩
  | list arg name =>
    have hname : ∀ text, params.get? name ≠ some (.scalar text) :=
      fun text htext => h name ⟨List.mem_singleton_self _, text, htext⟩
    rw [expand, Params.items_eq_ok_list? hname]
    exact Emission.ofLookup_ok _ _
  | opt arg names =>
    rw [expand, tabulated]
    simp only [hpresent, unresolved]
  | neg arg names =>
    rw [expand, tabulated]
    simp only [hpresent]
  | join separator names =>
    exact joinFull_false_eq_write fun name hname items hitems => h name ⟨hname, items, hitems⟩

end Expression

/-! ### Templates -/

namespace Segment

/-- The value of a segment in a full expansion; a literal stands for itself. -/
def tabulated (params : Params) (encode : Encoder) : Segment → Text
  | literal t => t
  | expression e => e.tabulated params encode

/-- What a segment amounts to without parameters: literals and the arguments of `-neg` are left. -/
def skeleton : Segment → Text
  | literal t => t
  | expression (.neg arg _) => arg
  | expression _ => []

variable {params : Params} {encode : Encoder} {segments : List Segment}

/-- A full expansion of segments writes their values one after the other, if no expression rejects a
name. -/
theorem expandAll_full_eq_write
    (h : ∀ e ∈ expressionsOf segments, ∀ name, ¬ e.Rejects params name) :
    expandAll params encode .full segments =
      .write (segments.flatMap (tabulated params encode)) := by
  induction segments with
  | nil => rfl
  | cons s rest ih =>
    cases s with
    | literal t =>
      rw [expandAll_cons, ih h, expand, Emission.write_andThen_write]
      rfl
    | expression e =>
      obtain ⟨he, hrest⟩ := List.forall_mem_cons.1 h
      rw [expandAll_cons, ih hrest, expand, Expression.expand_full_eq_write he,
        Emission.write_andThen_write]
      rfl

/-- Without parameters a segment has the value of its skeleton. -/
theorem tabulated_empty (s : Segment) : s.tabulated .empty encode = s.skeleton := by
  have habsent : ∀ name, Params.isPresent .empty name = false := fun name => rfl
  have hunbound : ∀ name, Params.scalar? .empty name = none := fun name => rfl
  rcases s with t | e
  · rfl
  · cases e with
    | bare name | prepend arg name | append arg name | list arg name => rfl
    | opt arg names | neg arg names => simp [tabulated, Expression.tabulated, skeleton, habsent]
    | join separator names =>
      have hpairs : names.filterMap (Expression.pair? .empty encode) = [] := by
        simp [List.filterMap_eq_nil_iff, Expression.pair?, hunbound]
      simp [tabulated, Expression.tabulated, skeleton, hpairs]

end Segment

/-- **The table of operators.**  If no expression of a template rejects a name, the full expansion
writes the values of its segments one after the other: literals as they are, expressions as the
table of operators says.  Without parameters that is the literals and the arguments of `-neg`. -/
theorem expandText_full_eq_tabulated {t : Text} {template : Template}
    (hparse : Template.parse t = .ok template) (encode : Encoder) :
    (∀ params : Params, (∀ e ∈ template.expressions, ∀ name, ¬ e.Rejects params name) →
      expandText t params encode .full =
        .ok (template.segments.flatMap (Segment.tabulated params encode))) ∧
      expandText t .empty encode .full = .ok (template.segments.flatMap Segment.skeleton) := by
  have htable : ∀ params : Params,
      (∀ e ∈ template.expressions, ∀ name, ¬ e.Rejects params name) →
        expandText t params encode .full =
          .ok (template.segments.flatMap (Segment.tabulated params encode)) := by
    intro params hkinds
    rw [expandText_of_parse hparse, Segment.expandAll_full_eq_write hkinds]
    rfl
  refine ⟨htable, ?_⟩
  have hempty : ∀ e ∈ template.expressions, ∀ name, ¬ e.Rejects .empty name :=
    fun e _ name hrejects => hrejects.get?_ne_none (TextMap.get?_empty name)
  rw [htable .empty hempty, funext Segment.tabulated_empty]

/-- Every operator, with an empty text, an empty list, and a name that `-join` lists twice. -/
theorem expandText_full_eq_tabulated_operators :
    let template : Template :=
      ⟨[.expression (.bare ['a']), .literal ['/'], .expression (.prepend ['p'] ['b']),
        .expression (.append ['s'] ['c']), .expression (.list [','] ['l']),
        .expression (.join ['&'] [['q'], ['r'], ['b'], ['q']]), .expression (.opt ['o'] [['l']]),
        .expression (.neg ['n'] [['m']])]⟩
    let params : Params := .ofList [(['a'], .scalar ['x', ' ']), (['b'], .scalar []),
      (['l'], .list [[], ['1']]), (['m'], .list []), (['q'], .scalar ['&'])]
    Template.parse template.source = .ok template ∧
      (∀ e ∈ template.expressions, ∀ name, ¬ e.Rejects params name) ∧
      expandText template.source params .percent .full =
        .ok "x%20/p,1q=%26&b=&q=%26on".toList ∧
      expandText template.source .empty .percent .full = .ok "/n".toList := by
  intro template params
  have hparse : Template.parse template.source = .ok template :=
    toOption_eq_some_iff.1 (by decide +kernel)
  have hfault : ∀ e ∈ template.expressions, e.fault? params = none := by decide
  have hkinds : ∀ e ∈ template.expressions, ∀ name, ¬ e.Rejects params name :=
    fun e he => Expression.fault?_eq_none_iff.1 (hfault e he)
  obtain ⟨htable, hempty⟩ := expandText_full_eq_tabulated hparse .percent
  refine ⟨hparse, hkinds, (htable params hkinds).trans ?_, hempty⟩
  exact congrArg Except.ok (by decide +kernel)

end LinkTemplate
