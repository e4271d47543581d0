import LinkTemplate.Expression.Buffer
import LinkTemplate.Proofs.Expression.Runs
import LinkTemplate.Proofs.Staging.Stage
import LinkTemplate.Proofs.Template.OperatorTable
import Mathlib.Data.List.DropRight
/-!
# What an expansion appends

An expression is expanded into a buffer by pushing its text piece by piece.  What the
buffer held before plays no part: the steps are those of an emission that is put behind
it, on success and on error (`Expression.expandInto_eq_pushed`).  In particular no step
looks at the buffer to find out whether a separator is due.

An error leaves what was pushed before it.  Only a `-join` pushes anything before its
last look-up, and what it leaves is the text of a shorter `-join`: a full expansion has
pushed the pairs of the names in front of the one that stopped it, and a staged expansion
has gone on to the last pair, since it writes a run of missing names only when it comes
to what follows the run (`Expression.expandInto_appends`).
-/

namespace LinkTemplate

namespace Emission

open BufferM (push)

/-- How an emission ends. -/
def outcome (a : Emission) : Except Error Unit :=
  match a.error? with
  | none => .ok ()
  | some fault => .error fault

/-- An emission as a computation on a buffer: its text is put at the end. -/
def pushed (a : Emission) : BufferM Unit :=
  ExceptT.mk fun buffer => pure (a.outcome, buffer ++ a.written)

theorem runOn_pushed (buffer : Text) (a : Emission) :
    a.pushed.runOn buffer = (a.outcome, buffer ++ a.written) := rfl

theorem outcome_eq_error_iff {a : Emission} {fault : Error} :
    a.outcome = .error fault ↔ a.error? = some fault := by
  obtain ⟨t, _ | e⟩ := a <;> simp [outcome]

/-! ### One step and what follows it -/

theorem push_eq_pushed (t : Text) : push t = (write t).pushed := rfl

theorem pure_eq_pushed : (pure () : BufferM Unit) = (write []).pushed := by
  funext buffer
  simp only [pushed, write, List.append_nil]
  rfl

theorem pushed_bind (a b : Emission) :
    (a.pushed >>= fun _ => b.pushed) = (a.andThen b).pushed := by
  obtain ⟨t, _ | fault⟩ := a
  · funext buffer
    simp only [pushed, andThen, outcome, ← List.append_assoc]
    rfl
  · rfl

theorem liftM_ok_bind {α : Type} (x : α) (next : α → BufferM Unit) :
    ((liftM (Except.ok x : Except Error α) : BufferM α) >>= next) = next x := rfl

theorem liftM_error_bind {α : Type} (fault : Error) (next : α → BufferM Unit) :
    ((liftM (Except.error fault : Except Error α) : BufferM α) >>= next) = (fail fault).pushed := by
  funext buffer
  simp only [pushed, fail, List.append_nil]
  rfl

/-- A look-up and what is pushed for what it found, if the same is written. -/
theorem liftM_bind_eq_pushed {α : Type} {found : Except Error (Option α)}
    {next : Option α → BufferM Unit} {form : α → Text} {otherwise : Text}
    (hnone : next none = (write otherwise).pushed)
    (hsome : ∀ x, next (some x) = (write (form x)).pushed) :
    ((liftM found : BufferM (Option α)) >>= next) = (ofLookup found form otherwise).pushed := by
  rcases found with fault | _ | x
  · exact liftM_error_bind fault next
  · exact hnone
  · exact hsome x

end Emission

namespace Expression

open BufferM (push)
open Emission (push_eq_pushed pure_eq_pushed pushed_bind)

variable {params : Params} {encode : Encoder} {separator : Text}

/-! ### The steps of an expansion -/

theorem pushUnresolved_eq_pushed (e : Expression) (mode : Mode) :
    e.pushUnresolved mode = (Emission.write (e.unresolved mode)).pushed := by
  cases mode with
  | full => exact pure_eq_pushed
  | staged => exact push_eq_pushed e.render

theorem pushSeparator_eq_pushed (filled : Bool) (separator : Text) :
    pushSeparator filled separator = (Emission.write (separatorIf filled separator)).pushed := by
  cases filled with
  | false => exact pure_eq_pushed
  | true => exact push_eq_pushed separator

theorem pushPair_eq_pushed (encode : Encoder) (name value : Text) :
    pushPair encode name value = (Emission.write (pair encode name value)).pushed := by
  rw [pushPair, push_eq_pushed, push_eq_pushed, push_eq_pushed, pushed_bind, pushed_bind]
  rfl

theorem pushDeferred_eq_pushed (separator : Text) (run : List Text) (filled followed : Bool) :
    pushDeferred separator run filled followed =
      (Emission.write (deferred separator run filled followed)).pushed := by
  cases run with
  | nil => exact pure_eq_pushed
  | cons name run => exact push_eq_pushed _

/-- After an item, each further item has the separator in front of it. -/
theorem pushItems_true_eq_pushed (items : List Text) :
    pushItems encode separator true items =
      (Emission.write ((items.map encode).flatMap fun item => separator ++ item)).pushed := by
  induction items with
  | nil => exact pure_eq_pushed
  | cons item items ih =>
    rw [pushItems, ih, pushSeparator_eq_pushed, push_eq_pushed, pushed_bind, pushed_bind,
      Emission.write_andThen_write, Emission.write_andThen_write]
    simp [separatorIf]

theorem pushItems_false_eq_pushed (items : List Text) :
    pushItems encode separator false items =
      (Emission.write (Text.joinWith separator (items.map encode))).pushed := by
  cases items with
  | nil => exact pure_eq_pushed
  | cons item items =>
    rw [pushItems, pushItems_true_eq_pushed, pushSeparator_eq_pushed, push_eq_pushed, pushed_bind,
      pushed_bind, Emission.write_andThen_write, Emission.write_andThen_write, List.map_cons,
      Text.joinWith_cons]
    rfl

theorem pushJoinFull_eq_pushed (filled : Bool) (names : List Text) :
    pushJoinFull params encode separator filled names =
      (joinFull params encode separator filled names).pushed := by
  induction names generalizing filled with
  | nil => exact pure_eq_pushed
  | cons name names ih =>
    rw [pushJoinFull, joinFull]
    rcases params.single name with fault | _ | value
    · exact Emission.liftM_error_bind fault _
    · exact ih filled
    · rw [Emission.liftM_ok_bind]
      simp only [ih, pushSeparator_eq_pushed, pushPair_eq_pushed, pushed_bind,
        ← Emission.andThen_assoc, Emission.write_andThen_write]

theorem pushJoinStaged_eq_pushed (filled : Bool) (run names : List Text) :
    pushJoinStaged params encode separator filled run names =
      (joinStaged params encode separator filled run names).pushed := by
  induction names generalizing filled run with
  | nil => exact pushDeferred_eq_pushed separator run filled false
  | cons name names ih =>
    rw [pushJoinStaged, joinStaged]
    rcases params.single name with fault | _ | value
    · exact Emission.liftM_error_bind fault _
    · exact ih filled (run ++ [name])
    · rw [Emission.liftM_ok_bind]
      simp only [ih, pushDeferred_eq_pushed, pushSeparator_eq_pushed, pushPair_eq_pushed,
        pushed_bind, ← Emission.andThen_assoc, Emission.write_andThen_write, List.append_assoc]

/-- Expanding into a buffer puts the emission of the expression behind what the buffer holds. -/
theorem expandInto_eq_pushed (e : Expression) (params : Params) (encode : Encoder) (mode : Mode) :
    e.expandInto params encode mode = (e.expand params encode mode).pushed := by
  have hnone := e.pushUnresolved_eq_pushed mode
  have htwo : ∀ s t, (push s >>= fun _ => push t) = (Emission.write (s ++ t)).pushed :=
    fun s t => pushed_bind (.write s) (.write t)
  cases e with
  | bare name => exact Emission.liftM_bind_eq_pushed hnone fun value => push_eq_pushed _
  | opt arg names =>
    change (if params.anyPresent names = true then push arg else _) =
      (Emission.write (if params.anyPresent names = true then arg else _)).pushed
    split
    · exact push_eq_pushed arg
    · exact hnone
  | neg arg names =>
    change (if params.anyPresent names = true then pure () else _) =
      (Emission.write (if params.anyPresent names = true then [] else _)).pushed
    split
    · exact pure_eq_pushed
    · cases mode <;> exact push_eq_pushed _
  | prepend arg name => exact Emission.liftM_bind_eq_pushed hnone fun value => htwo _ _
  | append arg name => exact Emission.liftM_bind_eq_pushed hnone fun value => htwo _ _
  | list arg name => exact Emission.liftM_bind_eq_pushed hnone pushItems_false_eq_pushed
  | join separator names =>
    cases mode with
    | full => exact pushJoinFull_eq_pushed false names
    | staged => exact pushJoinStaged_eq_pushed false [] names

/-! ### What an error leaves -/

/-- Expanding the expression puts a text at the end of every buffer, the same text whatever the
buffer holds, and ends with the same outcome. -/
def Appends (e : Expression) (params : Params) (encode : Encoder) (mode : Mode)
    (outcome : Except Error Unit) (text : Text) : Prop :=
  ∀ buffer : Text, (e.expandInto params encode mode).runOn buffer = (outcome, buffer ++ text)

theorem appends_expand (e : Expression) (params : Params) (encode : Encoder) (mode : Mode) :
    e.Appends params encode mode (e.expand params encode mode).outcome
      (e.expand params encode mode).written := by
  intro buffer
  rw [expandInto_eq_pushed, Emission.runOn_pushed]

/-- Every expression but a `-join` looks all its names up before it writes. -/
theorem written_eq_nil_of_error {e : Expression} {mode : Mode} {fault : Error}
    (hjoin : ∀ separator names, e ≠ join separator names)
    (h : (e.expand params encode mode).error? = some fault) :
    (e.expand params encode mode).written = [] := by
  have hlookup : ∀ {α : Type} {found : Except Error (Option α)} {form : α → Text}
      {otherwise : Text}, (Emission.ofLookup found form otherwise).error? = some fault →
        (Emission.ofLookup found form otherwise).written = [] := by
    intro α found form otherwise herror
    rcases found with e | _ | x
    · rfl
    · cases herror
    · cases herror
  cases e with
  | bare name => exact hlookup h
  | prepend arg name => exact hlookup h
  | append arg name => exact hlookup h
  | list arg name => exact hlookup h
  | opt arg names => cases h
  | neg arg names => cases h
  | join separator names => exact absurd rfl (hjoin separator names)

/-- Of the names in front of the one that stops a `-join`, those whose text is written by then: in a
full expansion all of them, in a staged expansion those up to the last bound one. -/
def namesWritten (params : Params) : Mode → List Text → List Text
  | .full, names => names
  | .staged, names => names.rdropWhile fun name => (params.get? name).isNone

theorem mem_of_mem_namesWritten {mode : Mode} {names : List Text} {name : Text}
    (h : name ∈ namesWritten params mode names) : name ∈ names := by
  cases mode with
  | full => exact h
  | staged => exact (List.rdropWhile_prefix _ _).subset h

/-- The names up to the last bound one, if there are any, end in that one. -/
theorem exists_bound_of_rdropWhile (params : Params) (names : List Text) :
    (names.rdropWhile fun name => (params.get? name).isNone) = [] ∨
      ∃ kept last, params.get? last ≠ none ∧
        (names.rdropWhile fun name => (params.get? name).isNone) = kept ++ [last] := by
  rcases List.eq_nil_or_concat (names.rdropWhile fun name => (params.get? name).isNone) with
    hnil | ⟨kept, last, hkept⟩
  · exact .inl hnil
  · rw [List.concat_eq_append] at hkept
    have hlast := List.rdropWhile_last_not (fun name => (params.get? name).isNone) names
      (by simp [hkept])
    simp only [hkept, List.getLast_concat, Option.isNone_iff_eq_none] at hlast
    exact .inr ⟨kept, last, hlast, hkept⟩

/-- At a bound name the run is empty again, so what follows it is written behind the text of the
names up to there. -/
theorem joinStaged_append_of_bound {filled : Bool} {run before after : List Text} {name : Text}
    (h : params.get? name ≠ none) :
    joinStaged params encode separator filled run (before ++ name :: after) =
      (joinStaged params encode separator filled run (before ++ [name])).andThen
        (joinStaged params encode separator true [] after) := by
  induction before generalizing filled run with
  | nil =>
    rw [List.nil_append, List.nil_append, joinStaged, joinStaged]
    rcases hsingle : params.single name with fault | _ | value
    · rfl
    · exact absurd (Params.single_eq_ok_none_iff.1 hsingle) h
    · have hend : joinStaged params encode separator true [] [] = .write [] := rfl
      dsimp only
      rw [hend, Emission.andThen_write_nil]
  | cons next before ih =>
    rw [List.cons_append, List.cons_append, joinStaged, joinStaged]
    rcases params.single next with fault | _ | value
    · rfl
    · exact ih
    · dsimp only
      rw [ih, Emission.andThen_assoc]

/-- A `-join` that is stopped has written the text of a shorter one. -/
theorem expand_join_of_error {mode : Mode} {before after : List Text} {name : Text} {fault : Error}
    (h : params.single name = .error fault) :
    (join separator (before ++ name :: after)).expand params encode mode =
      ((join separator (namesWritten params mode before)).expand params encode mode).andThen
        (.fail fault) := by
  cases mode with
  | full =>
    change joinFull _ _ _ _ _ = (joinFull _ _ _ _ before).andThen _
    rw [joinFull_append, joinFull, h]
  | staged =>
    let missing : Text → Bool := fun n => (params.get? n).isNone
    have hrun : ∀ n ∈ before.rtakeWhile missing, params.get? n = none :=
      fun n hn => Option.isNone_iff_eq_none.1 (List.mem_rtakeWhile_imp (p := missing) hn)
    -- The names in front of the fault end in a run that is not written any more.
    have hstop : ∀ filled, joinStaged params encode separator filled []
        (before.rtakeWhile missing ++ name :: after) = .fail fault := by
      intro filled
      rw [joinStaged_append_of_missing hrun, joinStaged, h]
    change joinStaged _ _ _ _ _ _ =
      (joinStaged params encode separator false [] (before.rdropWhile missing)).andThen _
    have hsplit : before.rdropWhile missing ++ before.rtakeWhile missing = before :=
      List.rdropWhile_append_rtakeWhile
    have hbefore : before ++ name :: after =
        before.rdropWhile missing ++ (before.rtakeWhile missing ++ name :: after) := by
      rw [← List.append_assoc, hsplit]
    rw [hbefore]
    rcases exists_bound_of_rdropWhile params before with hkept | ⟨kept, last, hlast, hkept⟩
    · rw [hkept]
      exact hstop false
    · rw [hkept, List.append_assoc, List.singleton_append, joinStaged_append_of_bound hlast, hstop]

/-- A `-join` without lists among its names is not stopped. -/
theorem error?_join_eq_none {mode : Mode} {names : List Text}
    (h : ∀ name ∈ names, ∀ items, params.get? name ≠ some (.list items)) :
    ((join separator names).expand params encode mode).error? = none := by
  rw [error?_expand, fault?_eq_none_iff]
  intro name hrejects
  obtain ⟨hname, items, hitems⟩ := hrejects
  exact h name hname items hitems

/-- A `-join` is stopped by the first of its names that is bound to a list. -/
theorem exists_first_list {mode : Mode} {names : List Text} {fault : Error}
    (h : ((join separator names).expand params encode mode).error? = some fault) :
    ∃ before name after items, names = before ++ name :: after ∧
      (∀ n ∈ before, ∀ items, params.get? n ≠ some (.list items)) ∧
      params.get? name = some (.list items) := by
  rw [error?_expand, fault?_eq_some_iff] at h
  obtain ⟨before, name, after, _, hnames, hbefore, ⟨-, items, hitems⟩, -⟩ := h
  refine ⟨before, name, after, items, hnames, ?_, hitems⟩
  intro n hn items' hitems'
  have hmem : n ∈ (join separator names).names := by
    rw [hnames]
    exact List.mem_append_left _ hn
  exact hbefore n hn ⟨hmem, items', hitems'⟩

/-- Names of which none is bound leave nothing behind. -/
theorem written_join_of_unbound {mode : Mode} {names : List Text}
    (h : ∀ name ∈ names, params.get? name = none) :
    ((join separator (namesWritten params mode names)).expand params encode mode).written = [] := by
  cases mode with
  | full =>
    have hlist : ∀ name ∈ names, ∀ items, params.get? name ≠ some (.list items) := by
      intro name hname items hitems
      cases (h name hname).symm.trans hitems
    have hpairs : names.filterMap (pair? params encode) = [] := by
      rw [List.filterMap_eq_nil_iff]
      intro name hname
      simp [pair?, Params.scalar?, h name hname]
    change (joinFull params encode separator false names).written = []
    rw [joinFull_false_eq_write hlist, hpairs]
    rfl
  | staged =>
    have hnil : namesWritten params .staged names = [] :=
      List.rdropWhile_eq_nil_iff.2 fun name hname => Option.isNone_iff_eq_none.2 (h name hname)
    rw [hnil]
    rfl

/-- **An expansion only appends, and what it leaves after an error is exact.**  Whatever the buffer
holds, the expansion of an expression puts one and the same text behind it, and ends in the same
way.  If it ends with an error the text is empty, except for a `-join` with a first name that is
bound to a list: then it is the text of the `-join` of the names in front of that one, in a staged
expansion only up to the last of them that is bound.  So nothing is left if none of them is. -/
theorem expandInto_appends (e : Expression) (params : Params) (encode : Encoder) (mode : Mode) :
    ∃ outcome text, e.Appends params encode mode outcome text ∧
      ∀ fault, outcome = .error fault →
        (text = [] ∧ ∀ separator names, e ≠ join separator names) ∨
        ∃ separator before name after items, e = join separator (before ++ name :: after) ∧
          (∀ n ∈ before, ∀ items, params.get? n ≠ some (.list items)) ∧
          params.get? name = some (.list items) ∧
          (join separator (namesWritten params mode before)).Appends params encode mode (.ok ())
            text ∧
          ((∀ n ∈ before, params.get? n = none) → text = []) := by
  refine ⟨_, _, e.appends_expand params encode mode, ?_⟩
  intro fault houtcome
  have herror := Emission.outcome_eq_error_iff.1 houtcome
  by_cases hjoin : ∃ separator names, e = join separator names
  · obtain ⟨separator, names, rfl⟩ := hjoin
    obtain ⟨before, name, after, items, rfl, hbefore, hname⟩ := exists_first_list herror
    have hsingle : params.single name = .error (.typeMismatch name .single) := by
      unfold Params.single
      rw [hname]
    have hkept : ((join separator (namesWritten params mode before)).expand params encode
        mode).error? = none :=
      error?_join_eq_none fun n hn => hbefore n (mem_of_mem_namesWritten hn)
    have htext : ((join separator (before ++ name :: after)).expand params encode mode).written =
        ((join separator (namesWritten params mode before)).expand params encode mode).written := by
      rw [expand_join_of_error hsingle, Emission.andThen, hkept]
      exact List.append_nil _
    have happends := (join separator (namesWritten params mode before)).appends_expand params encode
      mode
    rw [Emission.outcome, hkept, ← htext] at happends
    refine .inr ⟨separator, before, name, after, items, rfl, hbefore, hname, happends, ?_⟩
    intro hunbound
    rw [htext, written_join_of_unbound hunbound]
  · have hother : ∀ separator names, e ≠ join separator names :=
      fun separator names heq => hjoin ⟨separator, names, heq⟩
    exact .inl ⟨written_eq_nil_of_error hother herror, hother⟩

/-- `r` is bound to a list.  In a staged expansion the run of `x` and `y` in front of it is not
written, and the separator in front of the pair of `b` is there although the buffer ends in one. -/
theorem expandInto_appends_stopped :
    let params : Params := .ofList [(['b'], .scalar ['2']), (['q'], .scalar ['1']),
      (['r'], .list [['3']])]
    let names : List Text := [['p'], ['q'], ['b'], ['x'], ['y']]
    let e : Expression := .join ['&'] (names ++ ['r'] :: [['z']])
    let fault : Error := .typeMismatch ['r'] .single
    e.Appends params .verbatim .full (.error fault) "q=1&b=2".toList ∧
      e.Appends params .verbatim .staged (.error fault)
        "{-join|&|p}{-opt|&|p}q=1&b=2".toList ∧
      (Expression.join ['&'] [['p'], ['q'], ['b']]).Appends params .verbatim .staged (.ok ())
        "{-join|&|p}{-opt|&|p}q=1&b=2".toList := by
  intro params names e fault
  -- What is appended to the empty buffer is appended to every buffer.
  have hempty : ∀ (e : Expression) mode outcome text,
      (e.expandInto params .verbatim mode).runOn [] = (outcome, text) →
        e.Appends params .verbatim mode outcome text := by
    intro e mode outcome text hrun
    obtain ⟨outcome', text', happends, -⟩ := expandInto_appends e params .verbatim mode
    obtain ⟨rfl, rfl⟩ := Prod.mk.inj ((happends []).symm.trans hrun)
    exact happends
  exact ⟨hempty e .full _ _ rfl, hempty e .staged _ _ rfl, hempty _ .staged _ _ rfl⟩

end Expression

end LinkTemplate
