import LinkTemplate.Yaml.Document
import Mathlib.Logic.Basic
/-!
# The fuel of the parser

The parser runs on fuel, and `Document.ofText?` gives it four units for each token and four
more.  The number has no meaning of its own: twice the number of tokens and two units are
enough for any text, well-formed or not, and more of them change nothing
(`Parse.document_eq_of_length_le`).

What carries this is that a round of the parser which does not end takes a token.  So each
parser comes with a number of tokens that it takes at least (`Parse.Extends`): a node
one, a sequence without an indentation one if it starts with an entry.  With it the fuel of
the parts, which is one unit less, is still enough for the tokens that are left to them
(`Parse.Suffices`).
-/

namespace LinkTemplate.Yaml

namespace Parse

variable {α β : Type}

/-- There are at most `n` tokens. -/
def Within (n : Nat) (s : ParseState) : Prop := s.tokens.length ≤ n

/-- There are at most `n` tokens, of which `t?` comes first. -/
def Facing (n : Nat) (t? : Option Token) (s : ParseState) : Prop :=
  s.tokens.length ≤ n ∧ s.tokens.head? = t?

/-- In the states of a set, `q` has any result that `p` has, and with a result `a` at least `drop a`
tokens are taken. -/
def Extends (P : ParseState → Prop) (drop : α → Nat) (p q : Parse α) : Prop :=
  ∀ (s s' : ParseState) (a : α), P s → p s = some (a, s') →
    q s = some (a, s') ∧ s'.tokens.length + drop a ≤ s.tokens.length

namespace Extends

variable {P Q : ParseState → Prop} {drop : α → Nat} {n : Nat} {t : Token} {t? : Option Token}

theorem imp {p q : Parse α} (h : Extends P drop p q) (hQ : ∀ s, Q s → P s) : Extends Q drop p q :=
  fun s s' a hs => h s s' a (hQ s hs)

theorem mono {drop' : α → Nat} {p q : Parse α} (h : Extends P drop p q)
    (hdrop : ∀ a, drop' a ≤ drop a) : Extends P drop' p q := by
  intro s s' a hs hp
  obtain ⟨hq, hlength⟩ := h s s' a hs hp
  exact ⟨hq, Nat.le_trans (Nat.add_le_add_left (hdrop a) _) hlength⟩

/-- A result without a look at the state, for which no token has to be taken. -/
theorem pure {a : α} (h : drop a = 0) : Extends P drop (pure a) (pure a) := by
  intro s s' a' _ hp
  cases hp
  exact ⟨rfl, Nat.le_of_eq (by rw [h, Nat.add_zero])⟩

theorem failure (q : Parse α) : Extends P drop failure q := fun _ _ _ _ hp => nomatch hp

/-- One step after another, when there are at most `n` tokens in the states of the set. -/
theorem bind_of_within {p q : Parse α} {f g : α → Parse β} {e : β → Nat}
    (hP : ∀ s, P s → Within n s) (h : Extends P drop p q)
    (hnext : ∀ a, drop a ≤ n → Extends (Within (n - drop a)) (fun b => e b - drop a) (f a) (g a)) :
    Extends P e (p >>= f) (q >>= g) := by
  intro s s'' b hs hbind
  obtain ⟨⟨a, s'⟩, hp, hf⟩ := Option.bind_eq_some_iff.1 hbind
  obtain ⟨hq, htaken⟩ := h s s' a hs hp
  have hn : s.tokens.length ≤ n := hP s hs
  have hs' : s'.tokens.length ≤ n - drop a := by omega
  obtain ⟨hg, hmore⟩ := hnext a (by omega) s' s'' b hs' hf
  refine ⟨Option.bind_eq_some_iff.2 ⟨(a, s'), hq, hg⟩, ?_⟩
  dsimp only at hmore
  omega

theorem bind {p q : Parse α} {f g : α → Parse β} {e : β → Nat} (h : Extends (Within n) drop p q)
    (hnext : ∀ a, drop a ≤ n → Extends (Within (n - drop a)) (fun b => e b - drop a) (f a) (g a)) :
    Extends (Within n) e (p >>= f) (q >>= g) :=
  bind_of_within (fun _ hs => hs) h hnext

theorem facing {p q : Parse α} (h : Extends (Within n) drop p q) :
    Extends (Facing n t?) drop p q := h.imp fun _ hs => hs.1

/-- A look at the next token, on which it depends how to go on. -/
theorem peek {f g : Option Token → Parse β} {drop : β → Nat}
    (h : ∀ t?, Extends (Facing n t?) drop (f t?) (g t?)) :
    Extends (Within n) drop (peek? >>= f) (peek? >>= g) :=
  fun s s' b hs => h s.tokens.head? s s' b ⟨hs, rfl⟩

/-- Where the next token is known, a look at it does not change what is parsed. -/
theorem peek_facing {f g : Option Token → Parse β} {drop : β → Nat}
    (h : Extends (Facing n t?) drop (f t?) (g t?)) :
    Extends (Facing n t?) drop (peek? >>= f) (peek? >>= g) := by
  rintro s s' b ⟨hlength, rfl⟩
  exact h s s' b ⟨hlength, rfl⟩

theorem skip : Extends (Facing n (some t)) (fun _ => 1) skip skip := by
  rintro s s' a ⟨-, hhead⟩ hp
  cases hp
  obtain ⟨more, hmore⟩ := List.head?_eq_some_iff.1 hhead
  refine ⟨rfl, ?_⟩
  show s.tokens.tail.length + 1 ≤ s.tokens.length
  rw [hmore]
  exact Nat.le_refl _

/-- The next token is passed over, whatever it is. -/
theorem pass : Extends (Within n) (fun _ => 0) Parse.skip Parse.skip := by
  intro s s' a _ hp
  cases hp
  exact ⟨rfl, (List.tail_sublist s.tokens).length_le⟩

/-- A token that is taken. -/
theorem skip_bind {f g : Unit → Parse β} {e : β → Nat}
    (h : 1 ≤ n → Extends (Within (n - 1)) (fun b => e b - 1) (f ()) (g ())) :
    Extends (Facing n (some t)) e (Parse.skip >>= f) (Parse.skip >>= g) :=
  bind_of_within (fun _ hs => hs.1) skip fun _ => h

theorem expect : Extends (Within n) (fun _ => 1) (expect t) (expect t) := by
  unfold Parse.expect
  refine peek fun t? => ?_
  split
  · next h =>
    subst h
    exact skip
  · exact failure _

theorem nextIsAny (ts : List Token) (atEnd : Bool) :
    Extends (Within n) (fun _ => 0) (nextIsAny ts atEnd) (nextIsAny ts atEnd) := by
  unfold Parse.nextIsAny
  refine peek fun t? => ?_
  split
  · exact pure rfl
  · exact pure rfl

/-- A comma, which is there unless nothing was parsed before. -/
theorem comma {f g : PUnit → Parse β} {drop : β → Nat} (isFirst : Bool)
    (h : Extends (Within n) drop (f ⟨⟩) (g ⟨⟩)) :
    Extends (Within n) drop (if !isFirst then Parse.expect .flowEntry >>= f else f ⟨⟩)
      (if !isFirst then Parse.expect .flowEntry >>= g else g ⟨⟩) := by
  split
  · refine bind expect fun _ _ => ?_
    exact (h.imp fun s hs => Nat.le_trans hs (Nat.sub_le _ _)).mono fun _ => Nat.sub_le _ _
  · exact h

/-- A look at the state, which is left as it is. -/
theorem get : Extends P (fun _ => 0) (get : Parse ParseState) get := by
  intro s s' a _ hp
  cases hp
  exact ⟨rfl, Nat.le_refl _⟩

theorem lookup (name : Text) : Extends (Within n) (fun _ => 0) (lookup name) (lookup name) := by
  unfold Parse.lookup
  refine bind get fun s _ => ?_
  split
  · exact pure rfl
  · exact failure _

theorem define (name : Text) : Extends P (fun _ => 0) (define name) (define name) := by
  intro s s' a _ hp
  cases hp
  exact ⟨rfl, Nat.le_refl _⟩

theorem anchor? :
    Extends (Within n) (fun name? => if name?.isSome then 1 else 0) anchor? anchor? := by
  unfold Parse.anchor?
  refine peek fun t? => ?_
  split
  · exact skip_bind fun _ => pure rfl
  · exact pure rfl

theorem tag? (handles : List (Text × Text)) :
    Extends (Within n) (fun tag? => if tag?.isSome then 1 else 0) (tag? handles)
      (tag? handles) := by
  unfold Parse.tag?
  refine peek fun t? => ?_
  split
  · refine skip_bind fun _ => ?_
    split
    · exact pure rfl
    · exact failure _
  · exact pure rfl

/-- A node that has properties has a token for them. -/
theorem properties (handles : List (Text × Text)) :
    Extends (Within n) (fun p => if p.anchor?.isSome || p.tag?.isSome then 1 else 0)
      (properties handles) (properties handles) := by
  unfold Parse.properties
  refine bind anchor? fun name? _ => bind (tag? handles) fun tag? _ => ?_
  dsimp only
  have hdefine : ∀ {m : Nat} {drop : Properties → Nat} (name : Text),
      (∀ p : Properties, p.anchor?.isSome = true → p.tag? = tag? → drop p = 0) →
      Extends (Within m) drop (do return ⟨some (← Parse.define name), tag?⟩)
        (do return ⟨some (← Parse.define name), tag?⟩) := by
    intro m drop name hdrop
    exact bind (define name) fun number _ => pure (hdrop ⟨some number, tag?⟩ rfl rfl)
  split
  · next h =>
    obtain ⟨name, rfl⟩ := Option.isSome_iff_exists.1 h
    rw [pure_bind]
    refine hdefine name fun p hp _ => ?_
    simp [hp]
  · next h =>
    rw [Option.not_isSome_iff_eq_none] at h
    subst h
    refine bind anchor? fun name? _ => ?_
    cases name? with
    | none =>
      exact pure (by simp)
    | some name =>
      refine hdefine name fun p hp _ => ?_
      simp [hp]

theorem bare (p : Properties) :
    Extends P (fun _ => if p.anchor?.isSome || p.tag?.isSome then 0 else 1) (bare p) (bare p) := by
  unfold Parse.bare
  split
  · exact pure rfl
  · exact failure _

theorem unlessAny {p q : Parse Node} (ts : List Token) (h : Extends (Within n) (fun _ => 0) p q) :
    Extends (Within n) (fun _ => 0) (unlessAny ts p) (unlessAny ts q) := by
  unfold Parse.unlessAny
  refine bind (nextIsAny ts false) fun isAny _ => ?_
  split
  · exact pure rfl
  · exact h

theorem valueUnlessAny {p q : Parse Node} (ts : List Token)
    (h : Extends (Within n) (fun _ => 0) p q) :
    Extends (Within n) (fun _ => 0) (valueUnlessAny ts p) (valueUnlessAny ts q) := by
  unfold Parse.valueUnlessAny
  refine peek fun t? => ?_
  split
  · next ht =>
    subst ht
    refine skip_bind fun _ => unlessAny ts (h.imp fun s hs => ?_)
    exact Nat.le_trans hs (Nat.sub_le _ _)
  · exact pure rfl

end Extends

/-- What the parsers give with the fuel `n`, they give with any fuel that covers twice the tokens.
A node takes a token before it goes on to a collection, unless this is a sequence that is not
indented, which needs one unit less.  An item of a flow collection can be a node without a token in
front of it, so a flow collection needs one unit more than a node. -/
structure Suffices (handles : List (Text × Text)) (n : Nat) : Prop where
  node : ∀ {l k : Nat} (block indentless : Bool), 2 * l + 2 ≤ k →
    Extends (Within l) (fun _ => 1) (node handles n block indentless)
      (node handles k block indentless)
  blockSequence : ∀ {l k : Nat}, 2 * l + 1 ≤ k →
    Extends (Within l) (fun _ => 1) (blockSequence handles n) (blockSequence handles k)
  indentlessSequence : ∀ {l k : Nat} {t? : Option Token}, 2 * l + 1 ≤ k →
    Extends (Facing l t?) (fun _ => if t? = some .blockEntry then 1 else 0)
      (indentlessSequence handles n) (indentlessSequence handles k)
  blockMapping : ∀ {l k : Nat}, 2 * l + 1 ≤ k →
    Extends (Within l) (fun _ => 1) (blockMapping handles n) (blockMapping handles k)
  flowSequence : ∀ {l k : Nat} (isFirst : Bool), 2 * l + 3 ≤ k →
    Extends (Within l) (fun _ => 1) (flowSequence handles n isFirst)
      (flowSequence handles k isFirst)
  flowPair : ∀ {l k : Nat}, 2 * l + 3 ≤ k →
    Extends (Within l) (fun _ => 0) (flowPair handles n) (flowPair handles k)
  flowMapping : ∀ {l k : Nat} (isFirst : Bool), 2 * l + 3 ≤ k →
    Extends (Within l) (fun _ => 1) (flowMapping handles n isFirst)
      (flowMapping handles k isFirst)

namespace Suffices

variable {handles : List (Text × Text)} {n l k : Nat}

theorem node_succ (h : Suffices handles n) (block indentless : Bool) (hk : 2 * l + 1 ≤ k) :
    Extends (Within l) (fun _ => 1) (Parse.node handles (n + 1) block indentless)
      (Parse.node handles (k + 1) block indentless) := by
  unfold Parse.node
  refine Extends.peek fun t? => ?_
  split
  · refine Extends.skip_bind fun _ => ?_
    exact Extends.bind (Extends.lookup _) fun _ _ => Extends.pure rfl
  · refine (Extends.bind (Extends.properties handles) ?_).facing
    intro p _
    -- A node without properties takes a token of its own.
    have hbare : ∀ {P : ParseState → Prop},
        Extends P (fun _ => 1 - if p.anchor?.isSome || p.tag?.isSome then 1 else 0)
          (bare p) (bare p) := fun {P} =>
          (Extends.bare p).mono fun _ => by split <;> exact Nat.le_refl _
    generalize (if p.anchor?.isSome || p.tag?.isSome then 1 else 0) = taken at hbare ⊢
    refine Extends.peek fun t? => ?_
    split
    · exact Extends.skip_bind fun _ => Extends.pure (by omega)
    · refine Extends.skip_bind fun hpos => ?_
      refine Extends.bind (h.flowSequence true ?_) fun _ _ => Extends.pure ?_
      · omega
      · omega
    · refine Extends.skip_bind fun hpos => ?_
      refine Extends.bind (h.flowMapping true ?_) fun _ _ => Extends.pure ?_
      · omega
      · omega
    · split
      · refine Extends.bind_of_within (fun _ hs => hs.1) (h.indentlessSequence ?_) fun _ _ => ?_
        · omega
        · exact Extends.pure (by simp)
      · exact hbare
    · split
      · refine Extends.skip_bind fun hpos => ?_
        refine Extends.bind (h.blockSequence ?_) fun _ _ => Extends.pure ?_
        · omega
        · omega
      · exact hbare
    · split
      · refine Extends.skip_bind fun hpos => ?_
        refine Extends.bind (h.blockMapping ?_) fun _ _ => Extends.pure ?_
        · omega
        · omega
      · exact hbare
    · exact hbare

theorem node_optional (h : Suffices handles n) (block indentless : Bool) (hk : 2 * l + 2 ≤ k) :
    Extends (Within l) (fun _ => 0) (Parse.node handles n block indentless)
      (Parse.node handles k block indentless) :=
  (h.node block indentless hk).mono fun _ => Nat.zero_le _

theorem blockSequence_succ (h : Suffices handles n) (hk : 2 * l ≤ k) :
    Extends (Within l) (fun _ => 1) (Parse.blockSequence handles (n + 1))
      (Parse.blockSequence handles (k + 1)) := by
  unfold Parse.blockSequence
  refine Extends.peek fun t? => ?_
  split
  · refine Extends.skip_bind fun hpos => ?_
    refine Extends.bind (Extends.unlessAny _ (h.node_optional _ _ ?_)) fun _ _ => ?_
    · omega
    · refine Extends.bind (h.blockSequence ?_) fun _ _ => Extends.pure rfl
      omega
  · exact Extends.skip_bind fun _ => Extends.pure rfl
  · exact Extends.failure _

theorem indentlessSequence_any (h : Suffices handles n) (hk : 2 * l + 1 ≤ k) :
    Extends (Within l) (fun _ => 0) (Parse.indentlessSequence handles n)
      (Parse.indentlessSequence handles k) :=
  fun s s' items hs => ((h.indentlessSequence hk).mono fun _ => Nat.zero_le _) s s' items ⟨hs, rfl⟩

theorem indentlessSequence_succ (h : Suffices handles n) {t? : Option Token} (hk : 2 * l ≤ k) :
    Extends (Facing l t?) (fun _ => if t? = some .blockEntry then 1 else 0)
      (Parse.indentlessSequence handles (n + 1)) (Parse.indentlessSequence handles (k + 1)) := by
  unfold Parse.indentlessSequence
  refine Extends.peek_facing ?_
  have htaken : t? ≠ some .blockEntry → (if t? = some .blockEntry then 1 else 0) = 0 :=
    fun h => if_neg h
  have hle : (if t? = some .blockEntry then 1 else 0) ≤ 1 := by split <;> decide
  generalize (if t? = some .blockEntry then 1 else 0) = taken at htaken hle ⊢
  split
  · refine Extends.skip_bind fun hpos => ?_
    refine Extends.bind (Extends.unlessAny _ (h.node_optional _ _ ?_)) fun _ _ => ?_
    · omega
    · refine Extends.bind (h.indentlessSequence_any ?_) fun _ _ => Extends.pure ?_
      · omega
      · omega
  · next ht => exact Extends.pure (htaken ht)

theorem blockMapping_succ (h : Suffices handles n) (hk : 2 * l ≤ k) :
    Extends (Within l) (fun _ => 1) (Parse.blockMapping handles (n + 1))
      (Parse.blockMapping handles (k + 1)) := by
  unfold Parse.blockMapping
  refine Extends.peek fun t? => ?_
  split
  · refine Extends.skip_bind fun hpos => ?_
    refine Extends.bind (Extends.unlessAny _ (h.node_optional _ _ ?_)) fun _ _ => ?_
    · omega
    · refine Extends.bind (Extends.valueUnlessAny _ (h.node_optional _ _ ?_)) fun _ _ => ?_
      · omega
      · refine Extends.bind (h.blockMapping ?_) fun _ _ => Extends.pure rfl
        omega
  · exact Extends.skip_bind fun _ => Extends.pure rfl
  · exact Extends.failure _

theorem flowPair_succ (h : Suffices handles n) (hk : 2 * l + 2 ≤ k) :
    Extends (Within l) (fun _ => 0) (Parse.flowPair handles (n + 1))
      (Parse.flowPair handles (k + 1)) := by
  unfold Parse.flowPair
  dsimp only
  refine Extends.bind (Extends.nextIsAny _ false) fun isAny _ => ?_
  have hvalue : ∀ key : Node, Extends (Within l) (fun _ => 0)
      (do
        let value ← valueUnlessAny [.flowEntry, .flowSequenceEnd] (Parse.node handles n false false)
        return Node.mapping ⟨none, none⟩ [(key, value)])
      (do
        let value ← valueUnlessAny [.flowEntry, .flowSequenceEnd] (Parse.node handles k false false)
        return Node.mapping ⟨none, none⟩ [(key, value)]) := by
    intro key
    refine Extends.bind (Extends.valueUnlessAny _ (h.node_optional _ _ hk)) fun _ _ => ?_
    exact Extends.pure rfl
  split
  · refine Extends.bind Extends.pass fun _ _ => ?_
    rw [pure_bind, pure_bind]
    exact hvalue Node.absent
  · exact Extends.bind (h.node_optional _ _ hk) fun key _ => hvalue key

theorem flowSequence_succ (h : Suffices handles n) (isFirst : Bool) (hk : 2 * l + 2 ≤ k) :
    Extends (Within l) (fun _ => 1) (Parse.flowSequence handles (n + 1) isFirst)
      (Parse.flowSequence handles (k + 1) isFirst) := by
  unfold Parse.flowSequence
  refine Extends.peek fun t? => ?_
  split
  · next ht =>
    subst ht
    exact Extends.skip_bind fun _ => Extends.pure rfl
  · dsimp only
    refine (Extends.comma isFirst ?_).facing
    refine Extends.peek fun t? => ?_
    split
    · exact Extends.skip_bind fun _ => Extends.pure rfl
    · refine Extends.skip_bind fun hpos => ?_
      refine Extends.bind (h.flowPair ?_) fun _ _ => ?_
      · omega
      · refine Extends.bind (h.flowSequence false ?_) fun _ _ => Extends.pure rfl
        omega
    · refine (Extends.bind (h.node false false ?_) fun _ hpos => ?_).facing
      · omega
      · refine Extends.bind (h.flowSequence false ?_) fun _ _ => Extends.pure rfl
        omega

theorem flowMapping_succ (h : Suffices handles n) (isFirst : Bool) (hk : 2 * l + 2 ≤ k) :
    Extends (Within l) (fun _ => 1) (Parse.flowMapping handles (n + 1) isFirst)
      (Parse.flowMapping handles (k + 1) isFirst) := by
  unfold Parse.flowMapping
  refine Extends.peek fun t? => ?_
  split
  · next ht =>
    subst ht
    exact Extends.skip_bind fun _ => Extends.pure rfl
  · dsimp only
    refine (Extends.comma isFirst ?_).facing
    refine Extends.peek fun t? => ?_
    split
    · exact Extends.skip_bind fun _ => Extends.pure rfl
    · refine Extends.skip_bind fun hpos => ?_
      refine Extends.bind (Extends.unlessAny _ (h.node_optional _ _ ?_)) fun _ _ => ?_
      · omega
      · refine Extends.bind (Extends.valueUnlessAny _ (h.node_optional _ _ ?_)) fun _ _ => ?_
        · omega
        · refine Extends.bind (h.flowMapping false ?_) fun _ _ => Extends.pure rfl
          omega
    · refine (Extends.bind (h.node false false ?_) fun _ hpos => ?_).facing
      · omega
      · refine Extends.bind (h.flowMapping false ?_) fun _ _ => Extends.pure rfl
        omega

end Suffices

/-- By induction on the fuel of the first run. -/
theorem suffices_all (handles : List (Text × Text)) (n : Nat) : Suffices handles n := by
  have hsucc : ∀ {m k : Nat}, m + 1 ≤ k → ∃ k', k = k' + 1 ∧ m ≤ k' := fun {m k} h =>
    ⟨k - 1, by omega, by omega⟩
  induction n with
  | zero =>
    constructor
    all_goals
      intros
      exact Extends.failure _
  | succ n ih =>
    constructor
    case node =>
      intro l k block indentless hk
      obtain ⟨k, rfl, hk'⟩ := hsucc hk
      exact ih.node_succ block indentless hk'
    case blockSequence =>
      intro l k hk
      obtain ⟨k, rfl, hk'⟩ := hsucc hk
      exact ih.blockSequence_succ hk'
    case indentlessSequence =>
      intro l k t? hk
      obtain ⟨k, rfl, hk'⟩ := hsucc hk
      exact ih.indentlessSequence_succ hk'
    case blockMapping =>
      intro l k hk
      obtain ⟨k, rfl, hk'⟩ := hsucc hk
      exact ih.blockMapping_succ hk'
    case flowSequence =>
      intro l k isFirst hk
      obtain ⟨k, rfl, hk'⟩ := hsucc hk
      exact ih.flowSequence_succ isFirst hk'
    case flowPair =>
      intro l k hk
      obtain ⟨k, rfl, hk'⟩ := hsucc hk
      exact ih.flowPair_succ hk'
    case flowMapping =>
      intro l k isFirst hk
      obtain ⟨k, rfl, hk'⟩ := hsucc hk
      exact ih.flowMapping_succ isFirst hk'

theorem directives_extends {n l k : Nat} (versioned : Bool) (declared : List (Text × Text))
    (hk : l + 1 ≤ k) : Extends (Within l) (fun _ => 0) (directives n versioned declared)
      (directives k versioned declared) := by
  induction n generalizing l k versioned declared with
  | zero => exact Extends.failure _
  | succ n ih =>
    obtain ⟨k, rfl⟩ : ∃ m, k = m + 1 := ⟨k - 1, by omega⟩
    unfold directives
    refine Extends.peek fun t? => ?_
    split
    · split
      · exact Extends.failure _
      · exact Extends.skip_bind fun hpos => ih true declared (by omega)
    · split
      · exact Extends.failure _
      · exact Extends.skip_bind fun hpos => ih versioned _ (by omega)
    · exact Extends.pure rfl

theorem atDocumentStart_extends {l : Nat} :
    Extends (Within l) (fun _ => 0) atDocumentStart atDocumentStart := by
  unfold atDocumentStart
  refine Extends.peek fun t? => ?_
  split
  · exact Extends.pure rfl
  · exact Extends.pure rfl
  · exact Extends.pure rfl
  · exact Extends.pure rfl

theorem content_extends (handles : List (Text × Text)) {n l k : Nat} (hk : 2 * l + 2 ≤ k) :
    Extends (Within l) (fun _ => 0) (content handles n) (content handles k) := by
  unfold content
  refine Extends.bind atDocumentStart_extends fun _ _ => ?_
  refine Extends.bind (Extends.nextIsAny _ true) fun _ _ => ?_
  split
  · exact Extends.pure rfl
  · exact (suffices_all handles n).node_optional true false hk

theorem document_extends {n l k : Nat} (hk : 2 * l + 2 ≤ k) :
    Extends (Within l) (fun _ => 0) (document n) (document k) := by
  have hend : ∀ {m : Nat} (root : Node), Extends (Within m) (fun _ => 0)
      (do if (← get).tokens.all (· = .documentEnd) then return some root else failure : Parse _)
      (do if (← get).tokens.all (· = .documentEnd) then return some root else failure) := by
    intro m root
    refine Extends.bind Extends.get fun s _ => ?_
    split
    · exact Extends.pure rfl
    · exact Extends.failure _
  unfold document
  refine Extends.peek fun t? => ?_
  split
  · exact Extends.pure rfl
  · dsimp only
    refine (Extends.bind atDocumentStart_extends fun _ _ => ?_).facing
    split
    · refine Extends.bind (directives_extends false [] ?_) fun handles _ => ?_
      · omega
      · refine Extends.bind Extends.expect fun _ _ => ?_
        refine Extends.bind (content_extends handles ?_) fun root _ => hend root
        omega
    · refine Extends.bind ((suffices_all _ n).node_optional true false hk) fun root _ => hend root

/-- Fuel that is twice the number of tokens, and two units more, is as good as any more of it. -/
theorem document_eq_of_length_le {n k : Nat} {s : ParseState} (hn : 2 * s.tokens.length + 2 ≤ n)
    (hk : 2 * s.tokens.length + 2 ≤ k) : document n s = document k s := by
  refine Option.ext fun r => ?_
  constructor
  · exact fun h => (document_extends hk s r.2 r.1 (Nat.le_refl _) h).1
  · exact fun h => (document_extends hn s r.2 r.1 (Nat.le_refl _) h).1

end Parse

/-- The document of a text does not depend on the fuel with which it is parsed. -/
theorem Document.ofText?_eq_of_length_le {t : Text} {tokens : List Token} {fuel : Nat}
    (ht : Token.ofText? t = some tokens) (hfuel : 2 * tokens.length + 2 ≤ fuel) :
    Document.ofText? t = (Parse.document fuel ⟨tokens, []⟩).map
      fun r => ⟨r.1, (r.1.elim [] Node.anchored).reverse⟩ := by
  have hdocument : Parse.document (4 * tokens.length + 4) ⟨tokens, []⟩ =
      Parse.document fuel ⟨tokens, []⟩ :=
    Parse.document_eq_of_length_le (by dsimp only; omega) hfuel
  rw [Option.map_eq_bind, ← hdocument]
  simp only [Document.ofText?, ht]
  rfl

end LinkTemplate.Yaml
