import LinkTemplate.Proofs.Session.Readings
import Mathlib.Data.List.DropRight
import Mathlib.Data.List.Dedup
/-!
# Calls on a session

A session that starts with an empty memory is used through any sequence of calls.
Whatever they are, each is answered as the functions without a memory answer it, the
memory holds the texts read since the last time it was cleared, and two readings
share a template if their texts are equal and nothing was cleared in between
(`Session.refines_stateless`).

Every call but `clear` is a number of readings (`Session.perform_eq_readAll`), so a
property that readings keep, and clearing as well if there is any, holds after all
calls (`Session.after_of_parse`).
-/

namespace LinkTemplate

/-- A call on a session.  Full and staged expansion are one call in two modes. -/
inductive Call where
  | parse (t : Text)
  | expand (t : Text) (params : Params) (mode : Mode)
  | links (package : Package) (query : Text)
  | clear
deriving DecidableEq

/-- What a call returns. -/
inductive Answer where
  | template (found : Except Error Shared)
  | text (result : Except Error Text)
  | links (result : Except Error (List Link))
  | cleared
deriving DecidableEq

namespace Call

/-- The answer is the one given without a memory. -/
def IsAnswered (isAbsolute : Text → Bool) (encode : Encoder) : Call → Answer → Prop
  | .parse t, .template found => found.map Shared.template = Template.parse t
  | .expand t params mode, .text result => result = expandText t params encode mode
  | .links package query, .links result =>
    result = Package.linksWithout isAbsolute encode (package.queryParams query) package.resources
  | .clear, .cleared => True
  | _, _ => False

/-- The texts that a call reads, from first to last. -/
def reads (encode : Encoder) : Call → List Text
  | .parse t => [t]
  | .expand t _ _ => [t]
  | .links package query =>
    Package.readsOf encode (package.queryParams query) package.resources
  | .clear => []

/-- The calls after the last one that clears the memory. -/
def sinceClear (calls : List Call) : List Call := calls.rtakeWhile fun call => call ≠ .clear

/-- The texts that were read, and could be, after the memory was last cleared. -/
def remembered (encode : Encoder) (calls : List Call) : List Text :=
  ((sinceClear calls).flatMap (reads encode)).filter fun t => (Template.parse t).isOk

theorem sinceClear_concat_clear (calls : List Call) : sinceClear (calls ++ [.clear]) = [] :=
  List.rtakeWhile_concat_neg _ _ _ (by simp)

theorem sinceClear_concat {call : Call} (hne : call ≠ .clear) (calls : List Call) :
    sinceClear (calls ++ [call]) = sinceClear calls ++ [call] :=
  List.rtakeWhile_concat_pos _ _ _ (by simpa using hne)

end Call

namespace Session

variable {isAbsolute : Text → Bool} {session : Session} {call : Call} {calls : List Call}
  {t u : Text}

/-- The session after a call, and the answer. -/
def perform (isAbsolute : Text → Bool) (session : Session) : Call → Session × Answer
  | .parse t => (session.parse t).map id .template
  | .expand t params mode => (session.expand t params mode).map id .text
  | .links package query => (package.links isAbsolute session query).map id .links
  | .clear => (session.clear, .cleared)

/-- The session after calls, one after another. -/
def after (isAbsolute : Text → Bool) (session : Session) : List Call → Session
  | [] => session
  | call :: calls => (session.perform isAbsolute call).1.after isAbsolute calls

/-- The answers to calls, one after another. -/
def answers (isAbsolute : Text → Bool) (session : Session) : List Call → List Answer
  | [] => []
  | call :: calls =>
    (session.perform isAbsolute call).2 ::
      (session.perform isAbsolute call).1.answers isAbsolute calls

theorem after_append (isAbsolute : Text → Bool) (session : Session) (calls more : List Call) :
    session.after isAbsolute (calls ++ more) =
      (session.after isAbsolute calls).after isAbsolute more := by
  induction calls generalizing session with
  | nil => rfl
  | cons call calls ih => exact ih (session.perform isAbsolute call).1

/-- Each call is answered by the session that the calls before it have left. -/
theorem getElem?_answers (isAbsolute : Text → Bool) (session : Session) (calls : List Call)
    (k : Nat) :
    (session.answers isAbsolute calls)[k]? = calls[k]?.map fun call =>
      ((session.after isAbsolute (calls.take k)).perform isAbsolute call).2 := by
  induction calls generalizing session k with
  | nil => rfl
  | cons call calls ih =>
    cases k with
    | zero => rfl
    | succ k => exact ih (session.perform isAbsolute call).1 k

/-! ### One call -/

/-- Every call that does not clear the memory reads its texts one after another. -/
theorem perform_eq_readAll (isAbsolute : Text → Bool) (h : session.IsSound) (hne : call ≠ .clear) :
    (session.perform isAbsolute call).1 = session.readAll (call.reads session.encode) := by
  cases call with
  | parse t => rfl
  | expand t params mode => rfl
  | links package query =>
    exact congrArg Prod.fst
      (Package.linksOf_eq isAbsolute h (package.queryParams query) package.resources)
  | clear => exact absurd rfl hne

/-- A sound session answers as is answered without a memory. -/
theorem isAnswered_perform (h : session.IsSound) (call : Call) :
    call.IsAnswered isAbsolute session.encode (session.perform isAbsolute call).2 := by
  cases call with
  | parse t => exact h.parse_template t
  | expand t params mode => exact congrArg Prod.snd (h.expand_eq t params mode)
  | links package query =>
    exact congrArg Prod.snd
      (Package.linksOf_eq isAbsolute h (package.queryParams query) package.resources)
  | clear => exact trivial

/-- What readings keep, and clearing as well, every call keeps. -/
theorem perform_of_parse {P : Session → Prop}
    (hparse : ∀ session t, P session → P (session.parse t).1)
    (hclear : call = .clear → ∀ session, P session → P session.clear)
    (h : session.IsSound) (hP : P session) : P (session.perform isAbsolute call).1 := by
  by_cases hcall : call = .clear
  · have hcleared := hclear hcall session hP
    rw [hcall]
    exact hcleared
  · rw [perform_eq_readAll isAbsolute h hcall]
    exact readAll_of_parse hparse hP _

theorem IsSound.perform (h : session.IsSound) (isAbsolute : Text → Bool) (call : Call) :
    (session.perform isAbsolute call).1.IsSound :=
  perform_of_parse (fun _ t hs => hs.parse t) (fun _ _ _ => isSound_of_cache_empty rfl) h h

theorem encode_perform (h : session.IsSound) (call : Call) :
    (session.perform isAbsolute call).1.encode = session.encode :=
  perform_of_parse (P := fun later => later.encode = session.encode)
    (fun later t hs => (later.encode_parse t).trans hs) (fun _ _ hs => hs) h rfl

/-! ### Any number of calls -/

/-- What readings keep, and clearing as well if there is any, holds after all calls. -/
theorem after_of_parse {P : Session → Prop}
    (hparse : ∀ session t, P session → P (session.parse t).1)
    (hclear : .clear ∈ calls → ∀ session, P session → P session.clear)
    (h : session.IsSound) (hP : P session) : P (session.after isAbsolute calls) := by
  induction calls generalizing session with
  | nil => exact hP
  | cons call calls ih =>
    have hcall : P (session.perform isAbsolute call).1 :=
      perform_of_parse hparse (fun heq => hclear (heq ▸ List.mem_cons_self)) h hP
    exact ih (fun hmem => hclear (List.mem_cons_of_mem call hmem)) (h.perform isAbsolute call) hcall

theorem IsSound.after (h : session.IsSound) (isAbsolute : Text → Bool) (calls : List Call) :
    (session.after isAbsolute calls).IsSound :=
  after_of_parse (fun _ t hs => hs.parse t) (fun _ _ _ => isSound_of_cache_empty rfl) h h

theorem encode_after (h : session.IsSound) (calls : List Call) :
    (session.after isAbsolute calls).encode = session.encode :=
  after_of_parse (P := fun later => later.encode = session.encode)
    (fun later t hs => (later.encode_parse t).trans hs) (fun _ _ hs => hs) h rfl

/-- A sound session answers all calls as they are answered without a memory. -/
theorem forall₂_isAnswered (h : session.IsSound) (calls : List Call) :
    List.Forall₂ (Call.IsAnswered isAbsolute session.encode) calls
      (session.answers isAbsolute calls) := by
  induction calls generalizing session with
  | nil => exact .nil
  | cons call calls ih =>
    have hrest := ih (h.perform isAbsolute call)
    rw [encode_perform h call] at hrest
    exact .cons (isAnswered_perform h call) hrest

/-- A session that starts empty remembers what was read after it was last cleared. -/
theorem remembers_after (isAbsolute : Text → Bool) (encode : Encoder) (calls : List Call) :
    ((start encode).after isAbsolute calls).Remembers
      ((Call.sinceClear calls).flatMap (Call.reads encode)) := by
  have hstart : (start encode).IsSound := isSound_of_cache_empty rfl
  -- the calls are taken from the end, where the last one either clears the memory or adds to it
  induction calls using List.reverseRecOn with
  | nil => exact remembers_of_cache_empty rfl
  | append_singleton calls call ih =>
    rw [after_append]
    by_cases hcall : call = .clear
    · rw [hcall, Call.sinceClear_concat_clear]
      exact remembers_of_cache_empty rfl
    · have hreads := ih.readAll (call.reads encode)
      have hencode : ((start encode).after isAbsolute calls).encode = encode :=
        encode_after hstart calls
      have hperform := perform_eq_readAll isAbsolute (hstart.after isAbsolute calls) hcall
      rw [hencode] at hperform
      rw [Call.sinceClear_concat hcall, List.flatMap_append, List.flatMap_singleton]
      rw [← hperform] at hreads
      exact hreads

/-- The keys of the memory are the texts that were read, and could be, after it was last cleared. -/
theorem mem_keys_after_iff (isAbsolute : Text → Bool) (encode : Encoder) (calls : List Call)
    (t : Text) :
    t ∈ ((start encode).after isAbsolute calls).cache.keys ↔ t ∈ Call.remembered encode calls := by
  unfold Call.remembered
  rw [TextMap.mem_keys_iff, List.mem_filter, remembers_after isAbsolute encode calls t]

/-- Each of these texts counts once. -/
theorem cacheSize_after (isAbsolute : Text → Bool) (encode : Encoder) (calls : List Call) :
    ((start encode).after isAbsolute calls).cacheSize =
      (Call.remembered encode calls).dedup.length := by
  have hmem : ∀ t, t ∈ ((start encode).after isAbsolute calls).cache.keys ↔
      t ∈ (Call.remembered encode calls).dedup :=
    fun t => (mem_keys_after_iff isAbsolute encode calls t).trans List.mem_dedup.symm
  have hperm : ((start encode).after isAbsolute calls).cache.keys.Perm
      (Call.remembered encode calls).dedup :=
    (List.perm_ext_iff_of_nodup (TextMap.nodup_keys _) (List.nodup_dedup _)).2 hmem
  exact (TextMap.length_keys _).symm.trans hperm.length_eq

/-! ### Shared templates -/

/-- What is read after the memory was cleared has a higher serial number than what was remembered
before. -/
theorem serial_lt_of_clear (h : session.IsSound) (hclear : .clear ∈ calls) {a b : Shared}
    (ha : session.cache.get? t = some a)
    (hb : ((session.after isAbsolute calls).parse u).1.cache.get? u = some b) :
    a.serial < b.serial := by
  obtain ⟨before, rest, rfl⟩ := List.append_of_mem hclear
  let cleared := (session.after isAbsolute before).clear
  have hnext : a.serial < cleared.next :=
    after_of_parse (P := fun later => a.serial < later.next) (fun _ v hlt => lt_next_parse hlt v)
      (fun _ _ hlt => hlt) h (h.serial_lt t a ha)
  have hcleared : SerialsFrom cleared.next cleared :=
    serialsFrom_of_cache_empty rfl (Nat.le_refl _)
  have hrest : SerialsFrom cleared.next (cleared.after isAbsolute rest) :=
    after_of_parse (fun _ v hs => hs.parse v)
      (fun _ _ hs => serialsFrom_of_cache_empty rfl hs.le_next) (isSound_of_cache_empty rfl)
      hcleared
  rw [after_append] at hb
  exact Nat.lt_of_lt_of_le hnext ((hrest.parse u).le_serial u b hb)

/-- Calls that do not clear the memory keep what it holds. -/
theorem keeps_after (h : session.IsSound) (hclear : .clear ∉ calls) :
    session.Keeps (session.after isAbsolute calls) :=
  after_of_parse (fun _ v hs => hs.parse v) (fun hmem => absurd hmem hclear) h fun _ _ hv => hv

/-- Two readings share a template if their texts are equal and the memory was not cleared
between them. -/
theorem serial_eq_iff (h : session.IsSound) {between : List Call} {a b : Shared}
    (ha : (session.parse t).2 = .ok a)
    (hb : (((session.parse t).1.after isAbsolute between).parse u).2 = .ok b) :
    a.serial = b.serial ↔ t = u ∧ .clear ∉ between := by
  have hfirst : (session.parse t).1.IsSound := h.parse t
  have hafound := get?_of_parse_ok ha
  have hbfound := get?_of_parse_ok hb
  by_cases hclear : Call.clear ∈ between
  · have hlt : a.serial < b.serial := serial_lt_of_clear hfirst hclear hafound hbfound
    exact ⟨fun heq => absurd heq (Nat.ne_of_lt hlt), fun hnot => absurd hclear hnot.2⟩
  · have hkept : (session.parse t).1.Keeps ((session.parse t).1.after isAbsolute between) :=
      keeps_after hfirst hclear
    have hkeeps := hkept.parse u
    rw [hkeeps.serial_eq_iff ((hfirst.after isAbsolute between).parse u) hafound hbfound]
    exact ⟨fun heq => ⟨heq, hclear⟩, And.left⟩

/-! ### The answers to two readings -/

/-- The items before position `j` are those before an earlier position, the item there, and those
between the two. -/
theorem take_eq_append_cons {α : Type} {l : List α} {x : α} {i j : Nat} (hij : i < j)
    (hx : l[i]? = some x) : l.take j = l.take i ++ x :: (l.take j).drop (i + 1) := by
  have hitem : (l.take j)[i]? = some x := (List.getElem?_take_of_lt hij).trans hx
  have hfirst : (l.take j).take i = l.take i := by
    rw [List.take_take, Nat.min_eq_left (Nat.le_of_lt hij)]
  have hrest : (l.take j).drop i = x :: (l.take j).drop (i + 1) := by
    rw [List.drop_eq_getElem?_toList_append, hitem]
    rfl
  rw [← hfirst, ← hrest, List.take_append_drop]

/-- The items between two positions. -/
theorem mem_drop_take_iff {α : Type} {l : List α} {x : α} {i j : Nat} :
    x ∈ (l.take j).drop i ↔ ∃ k, i ≤ k ∧ k < j ∧ l[k]? = some x := by
  rw [List.mem_iff_getElem?]
  constructor
  · rintro ⟨k, hk⟩
    rw [List.getElem?_drop] at hk
    obtain ⟨hlt, -⟩ := List.getElem?_eq_some_iff.1 hk
    rw [List.length_take] at hlt
    rw [List.getElem?_take_of_lt (by omega)] at hk
    exact ⟨i + k, Nat.le_add_right i k, by omega, hk⟩
  · rintro ⟨k, hle, hlt, hk⟩
    refine ⟨k - i, ?_⟩
    rw [List.getElem?_drop, Nat.add_sub_cancel' hle, List.getElem?_take_of_lt hlt]
    exact hk

/-- The answers to two readings are one template if their texts are equal and the memory was not
cleared between them. -/
theorem serial_eq_iff_of_answers (h : session.IsSound) {i j : Nat} {a b : Shared} (hij : i < j)
    (hi : calls[i]? = some (.parse t)) (hj : calls[j]? = some (.parse u))
    (ha : (session.answers isAbsolute calls)[i]? = some (.template (.ok a)))
    (hb : (session.answers isAbsolute calls)[j]? = some (.template (.ok b))) :
    a.serial = b.serial ↔ t = u ∧ ∀ k, i < k → k < j → calls[k]? ≠ some .clear := by
  rw [getElem?_answers, hi] at ha
  rw [getElem?_answers, hj] at hb
  have hfirst : ((session.after isAbsolute (calls.take i)).parse t).2 = .ok a := by
    injection Option.some.inj ha
  have hsecond : ((session.after isAbsolute (calls.take j)).parse u).2 = .ok b := by
    injection Option.some.inj hb
  rw [take_eq_append_cons hij hi, after_append] at hsecond
  rw [serial_eq_iff (h.after isAbsolute (calls.take i)) hfirst hsecond, mem_drop_take_iff]
  refine and_congr_right fun _ => ⟨fun hnone k hik hkj hk => hnone ⟨k, hik, hkj, hk⟩, ?_⟩
  rintro hnone ⟨k, hik, hkj, hk⟩
  exact hnone k hik hkj hk

/-! ### The session and the functions without a memory -/

/-- A session that starts empty gives, whatever is called, the answers given without a memory.
Its memory holds exactly the texts that were read, and could be, after it was last cleared, each
once and with the template that it reads as.  Two readings give one shared template if and only if
their texts are equal and the memory was not cleared between them. -/
theorem refines_stateless (isAbsolute : Text → Bool) (encode : Encoder) (calls : List Call) :
    List.Forall₂ (Call.IsAnswered isAbsolute encode) calls
      ((start encode).answers isAbsolute calls) ∧
    (∀ t, t ∈ ((start encode).after isAbsolute calls).cache.keys ↔
      t ∈ Call.remembered encode calls) ∧
    (∀ t shared, ((start encode).after isAbsolute calls).cache.get? t = some shared →
      Template.parse t = .ok shared.template) ∧
    ((start encode).after isAbsolute calls).cacheSize =
      (Call.remembered encode calls).dedup.length ∧
    ∀ (i j : Nat) (t u : Text) (a b : Shared), i < j →
      calls[i]? = some (Call.parse t) → calls[j]? = some (Call.parse u) →
      ((start encode).answers isAbsolute calls)[i]? = some (Answer.template (.ok a)) →
      ((start encode).answers isAbsolute calls)[j]? = some (Answer.template (.ok b)) →
      (a.serial = b.serial ↔ t = u ∧ ∀ k, i < k → k < j → calls[k]? ≠ some Call.clear) := by
  have hstart : (start encode).IsSound := isSound_of_cache_empty rfl
  refine ⟨forall₂_isAnswered hstart calls, mem_keys_after_iff isAbsolute encode calls,
    (hstart.after isAbsolute calls).parse_eq, cacheSize_after isAbsolute encode calls, ?_⟩
  intro i j t u a b hij hi hj ha hb
  exact serial_eq_iff_of_answers hstart hij hi hj ha hb

/-- A template that is read, stays over a query that fails and a text that cannot be read, and is
read anew after the memory was cleared. -/
theorem refines_stateless_search :
    let isAbsolute : Text → Bool := fun t => t.contains ':'
    let resources : List Resource :=
      [⟨[], none, "\x7b-list|,|a\x7d".toList⟩, ⟨[], none, "\x7bb\x7d".toList⟩]
    let read : Call := .parse "\x7ba\x7d".toList
    let calls : List Call := [read, .links ⟨[], none, ['a'], resources⟩ ['x'],
      .expand "\x7b-nope|x|y\x7d".toList ∅ .full, read, .clear, read]
    let shared (serial : Nat) : Shared := ⟨serial, ⟨[.expression (.bare ['a'])]⟩⟩
    ((start .percent).answers isAbsolute calls)[0]? = some (.template (.ok (shared 0))) ∧
      ((start .percent).answers isAbsolute calls)[3]? = some (.template (.ok (shared 0))) ∧
      ((start .percent).answers isAbsolute calls)[5]? = some (.template (.ok (shared 2))) ∧
      (∀ k, 0 < k → k < 3 → calls[k]? ≠ some .clear) ∧
      ((start .percent).after isAbsolute (calls.take 4)).cacheSize = 2 := by
  intro isAbsolute resources read calls shared
  have hfirst : ((start .percent).answers isAbsolute calls)[0]? =
      some (.template (.ok (shared 0))) := by decide +kernel
  have hagain : ((start .percent).answers isAbsolute calls)[3]? =
      some (.template (.ok (shared 0))) := by decide +kernel
  have hanew : ((start .percent).answers isAbsolute calls)[5]? =
      some (.template (.ok (shared 2))) := by decide +kernel
  have hshared := (refines_stateless isAbsolute .percent calls).2.2.2.2 0 3 _ _ _ _ (by decide)
    rfl rfl hfirst hagain
  have hsize := (refines_stateless isAbsolute .percent (calls.take 4)).2.2.2.1
  refine ⟨hfirst, hagain, hanew, (hshared.1 rfl).2, hsize.trans ?_⟩
  decide +kernel

end Session

end LinkTemplate
