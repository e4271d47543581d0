import LinkTemplate.Proofs.Results
import LinkTemplate.Package
/-!
# Readings of a session

Whatever a session does short of forgetting, it does by reading templates one after
another.  What one reading changes is said once, in `Session.parse_cases`: it finds
the template, or it fails and changes nothing, or it remembers the template under
the next serial number.  The laws of the memory follow from this step by step.

* A memory is sound (`Session.IsSound`): every template is what its text reads as,
  and no two entries share a serial number.
* It holds the texts read so far that can be read (`Session.Remembers`).
* Readings keep what is remembered (`Session.Keeps`), and number what is new from
  the next serial number on (`Session.SerialsFrom`).

For a sound session reading and expanding give what they give without a memory.
-/

namespace LinkTemplate

namespace Session

variable {session earlier later : Session} {t u : Text} {texts : List Text}

/-! ### One reading -/

/-- A reading finds the template, or fails, or remembers it under the next serial number. -/
theorem parse_cases (session : Session) (t : Text) :
    (∃ shared, session.cache.get? t = some shared ∧ session.parse t = (session, .ok shared)) ∨
    (∃ fault, session.cache.get? t = none ∧ Template.parse t = .error fault ∧
      session.parse t = (session, .error fault)) ∨
    ∃ template, session.cache.get? t = none ∧ Template.parse t = .ok template ∧
      session.parse t = (session.remember t template, .ok ⟨session.next, template⟩) := by
  unfold parse
  cases hfound : session.cache.get? t with
  | some shared => exact .inl ⟨shared, rfl, rfl⟩
  | none =>
    cases hparse : Template.parse t with
    | error fault => exact .inr (.inl ⟨fault, rfl, rfl, rfl⟩)
    | ok template => exact .inr (.inr ⟨template, rfl, rfl, rfl⟩)

/-- What holds of a session holds after a reading, if remembering a new text keeps it. -/
theorem of_remember {P : Session → Prop} (h : P session)
    (hP : ∀ template, session.cache.get? t = none → Template.parse t = .ok template →
      P (session.remember t template)) : P (session.parse t).1 := by
  obtain ⟨_, -, heq⟩ | ⟨_, -, -, heq⟩ | ⟨template, hnone, hparse, heq⟩ := session.parse_cases t
  · rw [heq]
    exact h
  · rw [heq]
    exact h
  · rw [heq]
    exact hP template hnone hparse

theorem get?_remember (session : Session) (t u : Text) (template : Template) :
    (session.remember t template).cache.get? u =
      if u = t then some ⟨session.next, template⟩ else session.cache.get? u :=
  TextMap.get?_insert session.cache t u _

/-- Readings do not change the encoder. -/
@[simp] theorem encode_parse (session : Session) (t : Text) :
    (session.parse t).1.encode = session.encode :=
  of_remember (P := fun later => later.encode = session.encode) rfl fun _ _ _ => rfl

/-- What a reading returns is remembered after it. -/
theorem get?_of_parse_ok {shared : Shared} (h : (session.parse t).2 = .ok shared) :
    (session.parse t).1.cache.get? t = some shared := by
  obtain ⟨_, hfound, hparse⟩ | ⟨_, -, -, hparse⟩ | ⟨template, -, -, hparse⟩ :=
    session.parse_cases t
  · rw [hparse] at h ⊢
    cases h
    exact hfound
  · rw [hparse] at h
    cases h
  · rw [hparse] at h ⊢
    cases h
    exact (session.get?_remember t t template).trans (if_pos rfl)

/-! ### A sound memory -/

/-- The templates are those of their texts, numbered below the next serial number, each
differently. -/
structure IsSound (session : Session) : Prop where
  parse_eq : ∀ t shared, session.cache.get? t = some shared →
    Template.parse t = .ok shared.template
  serial_lt : ∀ t shared, session.cache.get? t = some shared → shared.serial < session.next
  eq_of_serial_eq : ∀ t u a b, session.cache.get? t = some a → session.cache.get? u = some b →
    a.serial = b.serial → t = u

theorem isSound_of_cache_empty (h : session.cache = .empty) : session.IsSound := by
  have hnone : ∀ t shared, session.cache.get? t ≠ some shared := fun t shared hget => by
    rw [h] at hget
    cases hget
  exact ⟨fun t a ha => absurd ha (hnone t a), fun t a ha => absurd ha (hnone t a),
    fun t _ a _ ha => absurd ha (hnone t a)⟩

theorem IsSound.remember (h : session.IsSound) {template : Template}
    (hparse : Template.parse t = .ok template) : (session.remember t template).IsSound := by
  have hentry : ∀ u shared, (session.remember t template).cache.get? u = some shared →
      u = t ∧ shared = ⟨session.next, template⟩ ∨ session.cache.get? u = some shared := by
    intro u shared hget
    rw [get?_remember] at hget
    split at hget
    · next heq => exact .inl ⟨heq, (Option.some.inj hget).symm⟩
    · exact .inr hget
  refine ⟨fun u a ha => ?_, fun u a ha => ?_, fun u v a b ha hb heq => ?_⟩
  · obtain ⟨rfl, rfl⟩ | hold := hentry u a ha
    · exact hparse
    · exact h.parse_eq u a hold
  · obtain ⟨-, rfl⟩ | hold := hentry u a ha
    · exact Nat.lt_succ_self session.next
    · exact Nat.lt_succ_of_lt (h.serial_lt u a hold)
  · -- the new serial number is above those of all older entries
    obtain ⟨rfl, rfl⟩ | hold := hentry u a ha
    · obtain ⟨rfl, -⟩ | hold' := hentry v b hb
      · rfl
      · exact absurd heq (Nat.ne_of_gt (h.serial_lt v b hold'))
    · obtain ⟨-, rfl⟩ | hold' := hentry v b hb
      · exact absurd heq (Nat.ne_of_lt (h.serial_lt u a hold))
      · exact h.eq_of_serial_eq u v a b hold hold' heq

/-- A reading keeps the memory sound. -/
theorem IsSound.parse (h : session.IsSound) (t : Text) : (session.parse t).1.IsSound :=
  of_remember h fun _ _ hparse => h.remember hparse

/-- A sound session reads a template as it is read without a memory. -/
theorem IsSound.parse_template (h : session.IsSound) (t : Text) :
    (session.parse t).2.map Shared.template = Template.parse t := by
  obtain ⟨shared, hfound, heq⟩ | ⟨_, -, hparse, heq⟩ | ⟨_, -, hparse, heq⟩ :=
    session.parse_cases t
  · rw [heq, h.parse_eq t shared hfound]
    rfl
  · rw [heq, hparse]
    rfl
  · rw [heq, hparse]
    rfl

/-- A sound session expands a text as it is expanded without a memory. -/
theorem IsSound.expand_eq (h : session.IsSound) (t : Text) (params : Params) (mode : Mode) :
    session.expand t params mode =
      ((session.parse t).1, expandText t params session.encode mode) := by
  have hexpand : session.expand t params mode = ((session.parse t).1,
      (session.parse t).2.bind fun shared =>
        shared.template.expand params (session.parse t).1.encode mode) := rfl
  have hparse := h.parse_template t
  rw [hexpand, encode_parse]
  unfold expandText
  rw [← hparse]
  cases (session.parse t).2 <;> rfl

/-! ### The texts remembered -/

/-- The memory holds the texts of a list that can be read, and no others. -/
def Remembers (session : Session) (texts : List Text) : Prop :=
  ∀ t, (session.cache.get? t).isSome ↔ t ∈ texts ∧ (Template.parse t).isOk

theorem remembers_of_cache_empty (h : session.cache = .empty) : session.Remembers [] := by
  intro t
  rw [h]
  simp

/-- After a reading its text is among those remembered, if it can be read. -/
theorem Remembers.parse (h : session.Remembers texts) (t : Text) :
    (session.parse t).1.Remembers (texts ++ [t]) := by
  intro u
  rw [List.mem_append, List.mem_singleton]
  obtain ⟨shared, hfound, heq⟩ | ⟨fault, -, hparse, heq⟩ | ⟨template, -, hparse, heq⟩ :=
    session.parse_cases t
  · have ht : t ∈ texts := ((h t).1 (Option.isSome_of_eq_some hfound)).1
    rw [heq, h u]
    exact and_congr_left' ⟨.inl, fun hu => hu.elim id fun hut => hut ▸ ht⟩
  · rw [heq, h u]
    refine ⟨fun ⟨hu, hok⟩ => ⟨.inl hu, hok⟩, fun ⟨hu, hok⟩ => ⟨hu.resolve_right ?_, hok⟩⟩
    rintro rfl
    rw [hparse] at hok
    cases hok
  · rw [heq, get?_remember]
    split
    · next hut =>
      subst hut
      rw [hparse]
      exact ⟨fun _ => ⟨.inr rfl, rfl⟩, fun _ => rfl⟩
    · next hut =>
      rw [h u]
      exact and_congr_left' ⟨.inl, fun hu => hu.resolve_right hut⟩

/-! ### What stays, and what is new -/

/-- Everything remembered earlier is remembered later, and shared. -/
def Keeps (earlier later : Session) : Prop :=
  ∀ t shared, earlier.cache.get? t = some shared → later.cache.get? t = some shared

theorem Keeps.parse (h : earlier.Keeps later) (t : Text) : earlier.Keeps (later.parse t).1 := by
  refine of_remember h fun template hnone _ u shared hu => ?_
  have hlater := h u shared hu
  rw [get?_remember]
  refine (if_neg ?_).trans hlater
  rintro rfl
  rw [hnone] at hlater
  cases hlater

/-- In a sound memory that keeps an earlier one, an entry of each is one template if their texts are
equal. -/
theorem Keeps.serial_eq_iff (hkeeps : earlier.Keeps later) (h : later.IsSound) {a b : Shared}
    (ha : earlier.cache.get? t = some a) (hb : later.cache.get? u = some b) :
    a.serial = b.serial ↔ t = u := by
  have hstill := hkeeps t a ha
  constructor
  · exact h.eq_of_serial_eq t u a b hstill hb
  · rintro rfl
    rw [hstill] at hb
    exact congrArg Shared.serial (Option.some.inj hb)

/-- Serial numbers only grow. -/
theorem lt_next_parse {n : Nat} (h : n < session.next) (t : Text) :
    n < (session.parse t).1.next :=
  of_remember (P := fun later => n < later.next) h fun _ _ _ => Nat.lt_succ_of_lt h

/-- All serial numbers in use, and those to come, are at least `n`. -/
structure SerialsFrom (n : Nat) (session : Session) : Prop where
  le_next : n ≤ session.next
  le_serial : ∀ t shared, session.cache.get? t = some shared → n ≤ shared.serial

theorem serialsFrom_of_cache_empty {n : Nat} (h : session.cache = .empty)
    (hnext : n ≤ session.next) : SerialsFrom n session := by
  refine ⟨hnext, fun t shared hget => ?_⟩
  rw [h] at hget
  cases hget

theorem SerialsFrom.parse {n : Nat} (h : SerialsFrom n session) (t : Text) :
    SerialsFrom n (session.parse t).1 := by
  refine of_remember h fun template _ _ => ⟨Nat.le_succ_of_le h.le_next, fun u shared hget => ?_⟩
  rw [get?_remember] at hget
  split at hget
  · cases hget
    exact h.le_next
  · exact h.le_serial u shared hget

/-! ### One reading after another -/

/-- The session after it has read texts from left to right. -/
def readAll (session : Session) : List Text → Session
  | [] => session
  | t :: texts => (session.parse t).1.readAll texts

/-- What every reading keeps, any number of them keeps. -/
theorem readAll_of_parse {P : Session → Prop} (hP : ∀ session t, P session → P (session.parse t).1)
    (h : P session) (texts : List Text) : P (session.readAll texts) := by
  induction texts generalizing session with
  | nil => exact h
  | cons t texts ih => exact ih (hP session t h)

theorem Remembers.readAll (h : session.Remembers texts) (more : List Text) :
    (session.readAll more).Remembers (texts ++ more) := by
  induction more generalizing session texts with
  | nil =>
    rw [List.append_nil]
    exact h
  | cons t more ih =>
    have hrest := ih (h.parse t)
    rw [List.append_assoc] at hrest
    exact hrest

end Session

/-! ### The links of a package -/

namespace Package

/-- The templates of resources that are read for their links: up to the first that fails. -/
def readsOf (encode : Encoder) (params : Params) : List Resource → List Text
  | [] => []
  | resource :: resources =>
    resource.template ::
      match expandText resource.template params encode .full with
      | .error _ => []
      | .ok _ => readsOf encode params resources

section Links

variable (isAbsolute : Text → Bool)

/-- The links of resources without a memory. -/
def linksWithout (encode : Encoder) (params : Params) (resources : List Resource) :
    Except Error (List Link) :=
  resources.mapM fun resource =>
    (expandText resource.template params encode .full).map (link isAbsolute resource)

/-- A sound session reads the templates up to the first that fails, and what comes of them are the
links that are found without a memory. -/
theorem attempts_eq {session : Session} (h : session.IsSound) (params : Params)
    (resources : List Resource) :
    (attempts isAbsolute session params resources).1 =
        session.readAll (readsOf session.encode params resources) ∧
      (attempts isAbsolute session params resources).2.mapM id =
        linksWithout isAbsolute session.encode params resources := by
  induction resources generalizing session with
  | nil => exact ⟨rfl, rfl⟩
  | cons resource resources ih =>
    have hexpand := h.expand_eq resource.template params .full
    cases hresult : expandText resource.template params session.encode .full with
    | error fault =>
      have hlinks : linksWithout isAbsolute session.encode params (resource :: resources) =
          .error fault :=
        mapM_cons_of_error (by rw [hresult]; rfl) resources
      rw [hlinks]
      simp only [attempts, readsOf, hexpand, hresult]
      exact ⟨rfl, rfl⟩
    | ok uri =>
      have hlinks : linksWithout isAbsolute session.encode params (resource :: resources) =
          (linksWithout isAbsolute session.encode params resources).map
            fun links => link isAbsolute resource uri :: links :=
        mapM_cons_of_ok (by rw [hresult]; rfl) resources
      obtain ⟨hreads, hrest⟩ := ih (h.parse resource.template)
      rw [Session.encode_parse] at hreads hrest
      rw [hlinks, ← hrest]
      simp only [attempts, readsOf, hexpand, hresult]
      exact ⟨hreads, mapM_cons_of_ok (f := id) rfl _⟩

/-- A sound session finds the links that are found without a memory. -/
theorem linksOf_eq {session : Session} (h : session.IsSound) (params : Params)
    (resources : List Resource) :
    linksOf isAbsolute session params resources =
      (session.readAll (readsOf session.encode params resources),
        linksWithout isAbsolute session.encode params resources) := by
  obtain ⟨hreads, hlinks⟩ := attempts_eq isAbsolute h params resources
  exact Prod.ext hreads hlinks

end Links

end Package

end LinkTemplate
