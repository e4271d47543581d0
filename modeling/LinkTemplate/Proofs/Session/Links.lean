import LinkTemplate.Proofs.Session.Calls
import LinkTemplate.Proofs.Template.Mismatch
/-!
# Which packages answer queries

A query binds one name, to a single value.  The only expression that fails for such
parameters is a `-list` of that name (`Expression.fault?_query_eq_some_iff`), so a look
at the templates of a package decides whether its queries are answered: all of them
have to be readable, and none may have such an expression.

Neither the text of the query, nor the encoder, nor what the session has read before
plays a part in this (`Package.links_after_eq_ok_iff`).  They decide only what the
links are, and which of them are logged since they are no absolute URLs
(`Package.filterMap_relative?_events`).
-/

namespace LinkTemplate

/-! ### One name, bound to a single value -/

namespace Params

variable {name text : Text}

theorem get?_query (n : Text) :
    (TextMap.empty.insert name (Value.scalar text)).get? n =
      if n = name then some (.scalar text) else none := by
  rw [TextMap.get?_insert, TextMap.get?_empty]

/-- No look-up for a single value fails. -/
theorem fault?_single_query (n : Text) :
    fault? (TextMap.empty.insert name (.scalar text)) .single n = none := by
  unfold fault?
  rw [get?_query]
  split <;> simp [Value.kind]

/-- A look-up for a list fails at the name that is bound. -/
theorem fault?_list_query (n : Text) :
    fault? (TextMap.empty.insert name (.scalar text)) .list n =
      if n = name then some (.typeMismatch name .list) else none := by
  unfold fault?
  rw [get?_query]
  by_cases hn : n = name
  · rw [if_pos hn, if_pos hn, hn]
    rfl
  · rw [if_neg hn, if_neg hn]
    rfl

end Params

/-- With one name bound, to a single value, an expression fails if it is a `-list` of this name. -/
theorem Expression.fault?_query_eq_some_iff {e : Expression} {name text : Text} {fault : Error} :
    e.fault? (TextMap.empty.insert name (.scalar text)) = some fault ↔
      (∃ separator, e = .list separator name) ∧ fault = .typeMismatch name .list := by
  unfold fault?
  cases e with
  | bare n | prepend arg n | append arg n | join arg names =>
    have hnone : ∀ names : List Text, names.findSome?
        (Params.fault? (TextMap.empty.insert name (.scalar text)) .single) = none :=
      fun names => List.findSome?_eq_none_iff.2 fun n _ => Params.fault?_single_query n
    simp [expectation?, hnone]
  | list separator n =>
    have hfault : (list separator n).names.findSome?
        (Params.fault? (TextMap.empty.insert name (.scalar text)) .list) =
          if n = name then some (.typeMismatch name .list) else none :=
      List.findSome?_singleton.trans (Params.fault?_list_query n)
    simp only [expectation?, Option.bind_some, hfault]
    by_cases hn : n = name
    · simp [hn, eq_comm]
    · simp [hn]
  | opt arg names | neg arg names => simp [expectation?]

/-! ### One resource -/

namespace Resource

variable {resource : Resource} {name : Text} {fault : Error}

/-- The template of the resource can be read, and it has no `-list` of the name. -/
def Answers (resource : Resource) (name : Text) : Prop :=
  ∃ template, Template.parse resource.template = .ok template ∧
    ∀ separator, Expression.list separator name ∉ template.expressions

/-- The template of the resource cannot be read, for the given reason, or it has a `-list` of the
name, which is then no list. -/
def Fails (resource : Resource) (name : Text) (fault : Error) : Prop :=
  Template.parse resource.template = .error fault ∨
    ∃ template separator, Template.parse resource.template = .ok template ∧
      Expression.list separator name ∈ template.expressions ∧ fault = .typeMismatch name .list

/-- A resource answers queries unless it fails. -/
theorem answers_iff : resource.Answers name ↔ ∀ fault, ¬ resource.Fails name fault := by
  constructor
  · rintro ⟨template, hparse, hlist⟩ fault (hfault | ⟨template', separator, hparse', hmem, -⟩)
    · cases hparse.symm.trans hfault
    · cases hparse.symm.trans hparse'
      exact hlist separator hmem
  · intro h
    cases hparse : Template.parse resource.template with
    | error fault => exact absurd (.inl hparse) (h fault)
    | ok template =>
      refine ⟨template, hparse, ?_⟩
      intro separator hmem
      exact h _ (.inr ⟨template, separator, hparse, hmem, rfl⟩)

/-- How a resource fails is seen from its template. -/
theorem expandText_eq_error_iff_fails (query : Text) (encode : Encoder) :
    expandText resource.template (TextMap.empty.insert name (.scalar query)) encode .full =
      .error fault ↔ resource.Fails name fault := by
  unfold Fails
  cases hparse : Template.parse resource.template with
  | error fault' =>
    have hexpand : expandText resource.template (TextMap.empty.insert name (.scalar query)) encode
        .full = .error fault' := by
      rw [expandText, hparse]
      rfl
    simp [hexpand]
  | ok template =>
    rw [Template.expandText_eq_error_iff hparse]
    constructor
    · intro hfault
      obtain ⟨e, he, hfault⟩ := List.exists_of_findSome?_eq_some hfault
      obtain ⟨⟨separator, rfl⟩, rfl⟩ := Expression.fault?_query_eq_some_iff.1 hfault
      exact .inr ⟨template, separator, rfl, he, rfl⟩
    · rintro (hfault | ⟨template', separator, hparse', hmem, rfl⟩)
      · cases hfault
      · cases hparse'
        -- every expression that fails does so with one and the same error
        have hsome : (template.expressions.findSome?
            (·.fault? (TextMap.empty.insert name (.scalar query)))).isSome := by
          rw [List.findSome?_isSome_iff]
          exact ⟨_, hmem, Option.isSome_of_eq_some
            (Expression.fault?_query_eq_some_iff.2 ⟨⟨separator, rfl⟩, rfl⟩)⟩
        obtain ⟨fault, hfault⟩ := Option.isSome_iff_exists.1 hsome
        obtain ⟨e, -, he⟩ := List.exists_of_findSome?_eq_some hfault
        rw [hfault, (Expression.fault?_query_eq_some_iff.1 he).2]

/-- A resource answers queries if its template expands for them. -/
theorem exists_expandText_eq_ok_iff (query : Text) (encode : Encoder) :
    (∃ uri, expandText resource.template (TextMap.empty.insert name (.scalar query)) encode .full =
      .ok uri) ↔ resource.Answers name := by
  rw [answers_iff]
  simp only [← expandText_eq_error_iff_fails query encode]
  cases expandText resource.template (TextMap.empty.insert name (.scalar query)) encode .full with
  | error fault => simp
  | ok uri => simp

end Resource

/-! ### All resources -/

namespace Package

/-- The link is that of the resource, with the address that its template expands to. -/
structure IsLinkOf (isAbsolute : Text → Bool) (encode : Encoder) (params : Params)
    (resource : Resource) (link : Link) :
    Prop where
  name : link.name = resource.name
  description? : link.description? = resource.description?
  uri : expandText resource.template params encode .full = .ok link.uri
  isAbsolute : link.isAbsolute = isAbsolute link.uri

section Queries

variable {isAbsolute : Text → Bool} {encode : Encoder} {package : Package} {query : Text}
  {resource : Resource} {fault : Error}

/-- What is found for a resource is its link. -/
theorem map_link_eq_ok_iff {params : Params} {l : Link} :
    (expandText resource.template params encode .full).map (link isAbsolute resource) = .ok l ↔
      IsLinkOf isAbsolute encode params resource l := by
  constructor
  · intro h
    cases hexpand : expandText resource.template params encode .full with
    | error fault =>
      rw [hexpand] at h
      cases h
    | ok uri =>
      rw [hexpand] at h
      cases h
      exact ⟨rfl, rfl, hexpand, rfl⟩
  · rintro ⟨hname, hdescription, huri, habsolute⟩
    have hlink : link isAbsolute resource l.uri = l := by
      unfold link
      rw [← hname, ← hdescription, ← habsolute]
    rw [huri]
    exact congrArg Except.ok hlink

/-- A sound session finds the links that are found without a memory. -/
theorem links_eq_linksWithout {session : Session} (h : session.IsSound) (package : Package)
    (query : Text) : (package.links isAbsolute session query).2 =
      linksWithout isAbsolute session.encode (package.queryParams query) package.resources :=
  congrArg Prod.snd (linksOf_eq isAbsolute h (package.queryParams query) package.resources)

/-- A resource fails for a query as its template says. -/
theorem map_link_eq_error_iff :
    (expandText resource.template (package.queryParams query) encode .full).map
      (link isAbsolute resource) = .error fault ↔ resource.Fails package.queryName fault := by
  rw [← Resource.expandText_eq_error_iff_fails query encode]
  constructor
  · exact eq_error_of_map_eq_error
  · intro h
    rw [queryParams, h]
    rfl

/-- A resource has a link for a query if it answers queries. -/
theorem exists_map_link_eq_ok_iff :
    (∃ l, (expandText resource.template (package.queryParams query) encode .full).map
      (link isAbsolute resource) = .ok l) ↔ resource.Answers package.queryName := by
  rw [← Resource.exists_expandText_eq_ok_iff query encode]
  cases hexpand : expandText resource.template (package.queryParams query) encode .full with
  | error fault =>
    rw [queryParams] at hexpand
    simp [hexpand, Except.map]
  | ok uri =>
    rw [queryParams] at hexpand
    simp [hexpand, Except.map]

/-- All resources have links for a query if all of them answer queries. -/
theorem exists_linksWithout_eq_ok_iff :
    (∃ links, linksWithout isAbsolute encode (package.queryParams query) package.resources =
      .ok links) ↔ ∀ resource ∈ package.resources, resource.Answers package.queryName := by
  rw [linksWithout, exists_mapM_eq_ok_iff]
  simp only [exists_map_link_eq_ok_iff]

/-- The first resource that does not answer queries gives the error. -/
theorem linksWithout_eq_error_iff :
    linksWithout isAbsolute encode (package.queryParams query) package.resources = .error fault ↔
      ∃ before resource after, package.resources = before ++ resource :: after ∧
        (∀ r ∈ before, r.Answers package.queryName) ∧
        resource.Fails package.queryName fault := by
  rw [linksWithout, mapM_eq_error_iff]
  simp only [exists_map_link_eq_ok_iff, map_link_eq_error_iff]

/-- Whatever a session was used for, it finds the links that are found without a memory. -/
theorem links_after (isAbsolute : Text → Bool) (package : Package) (encode : Encoder)
    (calls : List Call) (query : Text) :
    (package.links isAbsolute ((Session.start encode).after isAbsolute calls) query).2 =
      linksWithout isAbsolute encode (package.queryParams query) package.resources := by
  have hstart : (Session.start encode).IsSound := Session.isSound_of_cache_empty rfl
  have hencode : ((Session.start encode).after isAbsolute calls).encode = encode :=
    Session.encode_after hstart calls
  rw [links_eq_linksWithout (hstart.after isAbsolute calls), hencode]

end Queries

/-- **Which queries a package answers.**  A session that starts empty finds the links of a package,
whatever it was used for before, if and only if the template of every resource can be read and none
has a `-list` of the name to which queries are bound.  There is then one link for each resource, in
order, whose address is the expansion of the template without a memory, marked by what counts as an
absolute URL.  Otherwise the first resource that does not answer gives the error.  So whether there
are links, and which error there is instead, is the same for all queries, in all sessions and with
all encoders, and whatever counts as an absolute URL. -/
theorem links_after_eq_ok_iff (isAbsolute : Text → Bool) (package : Package) (encode : Encoder)
    (calls : List Call) (query : Text) :
    let found : Except Error (List Link) :=
      (package.links isAbsolute ((Session.start encode).after isAbsolute calls) query).2
    ((∃ links, found = .ok links) ↔
      ∀ resource ∈ package.resources, resource.Answers package.queryName) ∧
    (∀ links, found = .ok links → List.Forall₂
      (IsLinkOf isAbsolute encode (TextMap.empty.insert package.queryName (.scalar query)))
      package.resources links) ∧
    (∀ fault, found = .error fault ↔
      ∃ before resource after, package.resources = before ++ resource :: after ∧
        (∀ r ∈ before, r.Answers package.queryName) ∧ resource.Fails package.queryName fault) ∧
    ∀ isAbsolute' encode' calls' query' fault, found = .error fault ↔
      (package.links isAbsolute' ((Session.start encode').after isAbsolute' calls') query').2 =
        .error fault := by
  intro found
  have hfound : found =
      linksWithout isAbsolute encode (package.queryParams query) package.resources :=
    links_after isAbsolute package encode calls query
  refine ⟨?_, ?_, ?_, ?_⟩
  · rw [hfound, exists_linksWithout_eq_ok_iff]
  · intro links hlinks
    rw [hfound, linksWithout, mapM_eq_ok_iff] at hlinks
    exact hlinks.imp fun resource l h => map_link_eq_ok_iff.1 h
  · intro fault
    rw [hfound, linksWithout_eq_error_iff]
  · intro isAbsolute' encode' calls' query' fault
    rw [hfound, links_after isAbsolute' package encode' calls' query', linksWithout_eq_error_iff,
      linksWithout_eq_error_iff]

/-- Of two resources the first answers queries for `q`, in a session that has failed before.  The
second has a `-list` of `p`, so queries for `p` fail at it, in every session. -/
theorem links_after_eq_ok_iff_search :
    let isAbsolute : Text → Bool := fun t => t.contains ':'
    let resources : List Resource :=
      [⟨['a'], none, "/s\x7b-prefix|?|q\x7d".toList⟩, ⟨['b'], none, "\x7b-list|,|p\x7d".toList⟩]
    let before : List Call := [.links ⟨[], none, ['p'], resources⟩ ['x']]
    let session := (Session.start .percent).after isAbsolute before
    (∃ links, ((⟨[], none, ['q'], resources⟩ : Package).links isAbsolute session ['&']).2 =
        .ok links ∧
      List.Forall₂ (IsLinkOf isAbsolute .percent (TextMap.empty.insert ['q'] (.scalar ['&'])))
        resources links) ∧
      ((⟨[], none, ['p'], resources⟩ : Package).links isAbsolute session ['&']).2 =
        .error (.typeMismatch ['p'] .list) := by
  intro isAbsolute resources before session
  have hfirst : Template.parse "/s\x7b-prefix|?|q\x7d".toList =
      .ok ⟨[.literal "/s".toList, .expression (.prepend ['?'] ['q'])]⟩ :=
    toOption_eq_some_iff.1 (by decide +kernel)
  have hsecond : Template.parse "\x7b-list|,|p\x7d".toList =
      .ok ⟨[.expression (.list [','] ['p'])]⟩ := toOption_eq_some_iff.1 (by decide +kernel)
  have hanswers : ∀ name,
      (⟨['a'], none, "/s\x7b-prefix|?|q\x7d".toList⟩ : Resource).Answers name := by
    intro name
    refine ⟨_, hfirst, fun separator hmem => ?_⟩
    simp [Template.expressions, Segment.expression?] at hmem
  have hanswersq : (⟨['b'], none, "\x7b-list|,|p\x7d".toList⟩ : Resource).Answers ['q'] := by
    refine ⟨_, hsecond, fun separator hmem => ?_⟩
    simp [Template.expressions, Segment.expression?] at hmem
  have hfails : (⟨['b'], none, "\x7b-list|,|p\x7d".toList⟩ : Resource).Fails ['p']
      (.typeMismatch ['p'] .list) :=
    .inr ⟨_, [','], hsecond, by simp [Template.expressions, Segment.expression?], rfl⟩
  obtain ⟨hok, hlinks, -, -⟩ :=
    links_after_eq_ok_iff isAbsolute ⟨[], none, ['q'], resources⟩ .percent before ['&']
  obtain ⟨-, -, herror, -⟩ :=
    links_after_eq_ok_iff isAbsolute ⟨[], none, ['p'], resources⟩ .percent before ['&']
  obtain ⟨links, hfound⟩ := hok.2 (List.forall_mem_cons.2
    ⟨hanswers _, List.forall_mem_singleton.2 hanswersq⟩)
  exact ⟨⟨links, hfound, hlinks links hfound⟩,
    (herror _).2 ⟨_, _, [], rfl, List.forall_mem_singleton.2 (hanswers _), hfails⟩⟩

end Package

/-! ### The log -/

/-- The link that an event is about. -/
def LogEvent.relative? : LogEvent → Option Link
  | .relative link => some link
  | .expansion _ => none

namespace Package

/-- A link that is found is logged if it is no absolute URL. -/
theorem filterMap_relative?_eventsOf (resource : Resource) (l : Link) :
    (eventsOf resource (.ok l)).filterMap LogEvent.relative? =
      [l].filter fun l => !l.isAbsolute := by
  unfold eventsOf
  by_cases h : l.isAbsolute = true <;> simp [List.filterMap_cons, LogEvent.relative?, h]

/-- The links that are logged while resources are tried, up to the first that fails. -/
theorem filterMap_relative?_attempts (isAbsolute : Text → Bool) (session : Session)
    (params : Params) (resources : List Resource) :
    ((resources.zip (attempts isAbsolute session params resources).2).flatMap
        fun tried => eventsOf tried.1 tried.2).filterMap LogEvent.relative? =
      ((attempts isAbsolute session params resources).2.filterMap Except.toOption).filter
        fun l => !l.isAbsolute := by
  induction resources generalizing session with
  | nil => rfl
  | cons resource resources ih =>
    unfold attempts
    rcases session.expand resource.template params .full with ⟨session, cause | uri⟩
    · simp [eventsOf, List.filterMap_cons, LogEvent.relative?, Except.toOption]
    · have hlink := filterMap_relative?_eventsOf resource (link isAbsolute resource uri)
      dsimp only
      rw [List.zip_cons_cons, List.flatMap_cons, List.filterMap_append, ih session, hlink,
        ← List.filter_append]
      rfl

/-- **Which links are logged.**  Where a package answers a query, the links that are no absolute
URLs are logged, in their order, and no others. -/
theorem filterMap_relative?_events (isAbsolute : Text → Bool) {package : Package}
    {session : Session} {query : Text} {links : List Link}
    (h : (package.links isAbsolute session query).2 = .ok links) :
    (package.events isAbsolute session query).filterMap LogEvent.relative? =
      links.filter fun l => !l.isAbsolute := by
  rw [← filterMap_toOption_of_mapM h]
  exact filterMap_relative?_attempts isAbsolute session _ package.resources

end Package

end LinkTemplate
