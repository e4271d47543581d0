import LinkTemplate.Yaml.Document
/-!
# The nodes of flow collections

In a flow collection everything is marked by tokens: brackets around it, commas between
its items, and for each entry of a mapping a token in front of the key and one in front
of the value.  Tokens are those of a node (`Parse.Reads`) if the parser makes this node
of them and leaves what comes after them, with any handles and anchors declared before.

`Parse.Reads` is closed under brackets and braces: parts that are the tokens of nodes make
up the tokens of the sequence of these nodes (`Parse.Reads.brackets`), and with names in
front of them those of a mapping (`Parse.Reads.braces`).  The parser runs on fuel, of which
each level and each item takes one unit.  As many units as there are tokens, and one
more, are enough for any node.
-/

namespace LinkTemplate.Yaml

/-- A quoted scalar without an anchor and a tag. -/
def Node.quoted (t : Text) : Node := .scalar ⟨none, none⟩ false t

namespace Token

/-- The tokens of parts with commas between them. -/
def separated : List (List Token) → List Token
  | [] => []
  | part :: parts => part ++ parts.flatMap (Token.flowEntry :: ·)

/-- The tokens of an entry of a mapping whose key is a quoted scalar. -/
def entry (name : Text) (value : List Token) : List Token :=
  [.key, .scalar false name, .value] ++ value

/-- The token with which a node without properties begins inside of a flow collection. -/
def opensFlowNode : Token → Bool
  | .scalar .. | .flowSequenceStart | .flowMappingStart => true
  | _ => false

end Token

namespace Parse

open Token (separated entry)

variable {handles : List (Text × Text)} {anchors : List (Text × Nat)} {s : ParseState}
  {tokens rest : List Token} {fuel : Nat}

theorem node_quoted (block indentless : Bool) (t : Text) :
    node handles (fuel + 1) block indentless ⟨.scalar false t :: rest, anchors⟩ =
      some (.quoted t, ⟨rest, anchors⟩) := rfl

theorem node_flowSequence (block indentless : Bool) :
    node handles (fuel + 1) block indentless ⟨.flowSequenceStart :: rest, anchors⟩ =
      (flowSequence handles fuel true ⟨rest, anchors⟩).map
        fun r => (.sequence ⟨none, none⟩ r.1, r.2) := by
  have : node handles (fuel + 1) block indentless ⟨.flowSequenceStart :: rest, anchors⟩ =
    (flowSequence handles fuel true ⟨rest, anchors⟩).bind
      fun r => some (.sequence ⟨none, none⟩ r.1, r.2) := rfl
  rw [this, Option.map_eq_bind]
  rfl

theorem flowSequence_end (isFirst : Bool) :
    flowSequence handles (fuel + 1) isFirst ⟨.flowSequenceEnd :: rest, anchors⟩ =
      some ([], ⟨rest, anchors⟩) := rfl

/-- A part that is not the first one has a comma in front of it. -/
theorem flowSequence_comma :
    flowSequence handles (fuel + 1) false ⟨.flowEntry :: tokens, anchors⟩ =
      flowSequence handles (fuel + 1) true ⟨tokens, anchors⟩ := by
  rcases tokens with - | ⟨first, more⟩
  · rfl
  · cases first <;> rfl

theorem node_flowMapping (block indentless : Bool) :
    node handles (fuel + 1) block indentless ⟨.flowMappingStart :: rest, anchors⟩ =
      (flowMapping handles fuel true ⟨rest, anchors⟩).map
        fun r => (.mapping ⟨none, none⟩ r.1, r.2) := by
  have : node handles (fuel + 1) block indentless ⟨.flowMappingStart :: rest, anchors⟩ =
    (flowMapping handles fuel true ⟨rest, anchors⟩).bind
      fun r => some (.mapping ⟨none, none⟩ r.1, r.2) := rfl
  rw [this, Option.map_eq_bind]
  rfl

theorem flowMapping_end (isFirst : Bool) :
    flowMapping handles (fuel + 1) isFirst ⟨.flowMappingEnd :: rest, anchors⟩ =
      some ([], ⟨rest, anchors⟩) := rfl

theorem flowMapping_comma :
    flowMapping handles (fuel + 1) false ⟨.flowEntry :: tokens, anchors⟩ =
      flowMapping handles (fuel + 1) true ⟨tokens, anchors⟩ := by
  rcases tokens with - | ⟨first, more⟩
  · rfl
  · cases first <;> rfl

/-- The tokens are those of a node, whatever comes after them. -/
structure Reads (tokens : List Token) (n : Node) : Prop where
  opens : ∃ first more, tokens = first :: more ∧ first.opensFlowNode = true
  node_eq : ∀ {handles : List (Text × Text)} {fuel : Nat} (block indentless : Bool)
    {rest : List Token} {anchors : List (Text × Nat)}, tokens.length < fuel →
      node handles fuel block indentless ⟨tokens ++ rest, anchors⟩ = some (n, ⟨rest, anchors⟩)

/-- In a sequence, a node is an item. -/
theorem Reads.flowSequence_item {item : Node} {items : List Node} (h : Reads tokens item)
    (hfuel : tokens.length < fuel)
    (hmore : flowSequence handles fuel false ⟨rest, anchors⟩ = some (items, s)) :
    flowSequence handles (fuel + 1) true ⟨tokens ++ rest, anchors⟩ = some (item :: items, s) := by
  obtain ⟨first, more, rfl, hfirst⟩ := h.opens
  have hround : flowSequence handles (fuel + 1) true ⟨first :: more ++ rest, anchors⟩ =
      (node handles fuel false false ⟨first :: more ++ rest, anchors⟩).bind fun r =>
        (flowSequence handles fuel false r.2).bind fun r' => some (r.1 :: r'.1, r'.2) := by
    cases first <;> first | rfl | cases hfirst
  rw [hround, h.node_eq false false hfuel, Option.bind_some, hmore]
  rfl

/-- In a mapping, a name with a node is an entry. -/
theorem Reads.flowMapping_entry {name : Text} {value : Node} {entries : List (Node × Node)}
    (h : Reads tokens value) (hfuel : tokens.length < fuel)
    (hmore : flowMapping handles fuel false ⟨rest, anchors⟩ = some (entries, s)) :
    flowMapping handles (fuel + 1) true ⟨entry name tokens ++ rest, anchors⟩ =
      some ((.quoted name, value) :: entries, s) := by
  obtain ⟨first, more, rfl, hfirst⟩ := h.opens
  obtain ⟨fuel, rfl⟩ : ∃ n, fuel = n + 1 := ⟨fuel - 1, by omega⟩
  have hround : flowMapping handles (fuel + 2) true
        ⟨entry name (first :: more) ++ rest, anchors⟩ =
      (node handles (fuel + 1) false false ⟨first :: more ++ rest, anchors⟩).bind fun r =>
        (flowMapping handles (fuel + 1) false r.2).bind fun r' =>
          some ((.quoted name, r.1) :: r'.1, r'.2) := by
    cases first <;> first | rfl | cases hfirst
  rw [hround, h.node_eq false false hfuel, Option.bind_some, hmore]
  rfl

namespace Reads

theorem quoted (t : Text) : Reads [.scalar false t] (.quoted t) where
  opens := ⟨_, _, rfl, rfl⟩
  node_eq {_ fuel} block indentless _ _ hfuel := by
    obtain ⟨fuel, rfl⟩ : ∃ n, fuel = n + 1 := ⟨fuel - 1, by omega⟩
    exact node_quoted block indentless t

section

variable {α : Type} {read : α → List Token} {toNode : α → Node} {xs : List α}

/-- The items that come after a first one. -/
theorem flowSequence_moreParts (h : ∀ x ∈ xs, Reads (read x) (toNode x))
    (hfuel : ((xs.map read).flatMap (Token.flowEntry :: ·)).length < fuel) :
    flowSequence handles fuel false
        ⟨(xs.map read).flatMap (Token.flowEntry :: ·) ++ .flowSequenceEnd :: rest, anchors⟩ =
      some (xs.map toNode, ⟨rest, anchors⟩) := by
  induction xs generalizing fuel with
  | nil =>
    obtain ⟨fuel, rfl⟩ : ∃ n, fuel = n + 1 := ⟨fuel - 1, by omega⟩
    exact flowSequence_end false
  | cons x xs ih =>
    obtain ⟨hx, hxs⟩ := List.forall_mem_cons.1 h
    simp only [List.map_cons, List.flatMap_cons, List.cons_append, List.length_cons,
      List.length_append, List.append_assoc] at hfuel ⊢
    obtain ⟨fuel, rfl⟩ : ∃ n, fuel = n + 1 := ⟨fuel - 1, by omega⟩
    rw [flowSequence_comma]
    exact hx.flowSequence_item (by omega) (ih hxs (by omega))

/-- A sequence in brackets. -/
theorem brackets (h : ∀ x ∈ xs, Reads (read x) (toNode x)) :
    Reads ([.flowSequenceStart] ++ separated (xs.map read) ++ [.flowSequenceEnd])
      (.sequence ⟨none, none⟩ (xs.map toNode)) where
  opens := ⟨_, _, rfl, rfl⟩
  node_eq {handles fuel} block indentless rest anchors hfuel := by
    simp only [List.length_append, List.length_singleton] at hfuel
    obtain ⟨fuel, rfl⟩ : ∃ n, fuel = n + 2 := ⟨fuel - 2, by omega⟩
    have hitems : flowSequence handles (fuel + 1) true
        ⟨separated (xs.map read) ++ .flowSequenceEnd :: rest, anchors⟩ =
          some (xs.map toNode, ⟨rest, anchors⟩) := by
      cases xs with
      | nil => exact flowSequence_end true
      | cons x xs =>
        obtain ⟨hx, hxs⟩ := List.forall_mem_cons.1 h
        simp only [separated, List.map_cons, List.length_append, List.append_assoc] at hfuel ⊢
        exact hx.flowSequence_item (by omega) (flowSequence_moreParts hxs (by omega))
    rw [List.append_assoc, List.append_assoc, List.singleton_append, List.singleton_append,
      node_flowSequence, hitems]
    rfl

/-- The entries that come after a first one. -/
theorem flowMapping_moreParts (name : α → Text) (h : ∀ x ∈ xs, Reads (read x) (toNode x))
    (hfuel : ((xs.map fun x => entry (name x) (read x)).flatMap
      (Token.flowEntry :: ·)).length < fuel) :
    flowMapping handles fuel false
        ⟨(xs.map fun x => entry (name x) (read x)).flatMap (Token.flowEntry :: ·) ++
          .flowMappingEnd :: rest, anchors⟩ =
      some (xs.map fun x => (.quoted (name x), toNode x), ⟨rest, anchors⟩) := by
  induction xs generalizing fuel with
  | nil =>
    obtain ⟨fuel, rfl⟩ : ∃ n, fuel = n + 1 := ⟨fuel - 1, by omega⟩
    exact flowMapping_end false
  | cons x xs ih =>
    obtain ⟨hx, hxs⟩ := List.forall_mem_cons.1 h
    simp only [List.map_cons, List.flatMap_cons, List.cons_append, List.length_cons,
      List.length_append, List.append_assoc] at hfuel ⊢
    obtain ⟨fuel, rfl⟩ : ∃ n, fuel = n + 1 := ⟨fuel - 1, by omega⟩
    have hvalue : (entry (name x) (read x)).length = (read x).length + 3 := rfl
    rw [flowMapping_comma]
    exact hx.flowMapping_entry (by omega) (ih hxs (by omega))

/-- A mapping in braces whose keys are scalars. -/
theorem braces (name : α → Text) (h : ∀ x ∈ xs, Reads (read x) (toNode x)) :
    Reads ([.flowMappingStart] ++ separated (xs.map fun x => entry (name x) (read x)) ++
        [.flowMappingEnd])
      (.mapping ⟨none, none⟩
        (xs.map fun x => (.quoted (name x), toNode x))) where
  opens := ⟨_, _, rfl, rfl⟩
  node_eq {handles fuel} block indentless rest anchors hfuel := by
    simp only [List.length_append, List.length_singleton] at hfuel
    obtain ⟨fuel, rfl⟩ : ∃ n, fuel = n + 2 := ⟨fuel - 2, by omega⟩
    have hentries : flowMapping handles (fuel + 1) true
        ⟨separated (xs.map fun x => entry (name x) (read x)) ++ .flowMappingEnd :: rest,
          anchors⟩ =
        some (xs.map fun x => (.quoted (name x), toNode x),
          ⟨rest, anchors⟩) := by
      cases xs with
      | nil => exact flowMapping_end true
      | cons x xs =>
        obtain ⟨hx, hxs⟩ := List.forall_mem_cons.1 h
        have hvalue : (entry (name x) (read x)).length = (read x).length + 3 := rfl
        simp only [separated, List.map_cons, List.length_append, List.append_assoc] at hfuel ⊢
        exact hx.flowMapping_entry (by omega) (flowMapping_moreParts name hxs (by omega))
    rw [List.append_assoc, List.append_assoc, List.singleton_append, List.singleton_append,
      node_flowMapping, hentries]
    rfl

end

end Reads

/-- The document that consists of a node. -/
theorem document_eq {n : Node} (h : Reads tokens n) (hfuel : tokens.length < fuel) :
    document fuel ⟨tokens, []⟩ = some (some n, ⟨[], []⟩) := by
  have hnode : node Tag.defaultHandles fuel true false ⟨tokens ++ [], []⟩ =
      some (n, ⟨[], []⟩) := h.node_eq true false hfuel
  rw [List.append_nil] at hnode
  obtain ⟨first, more, rfl, hfirst⟩ := h.opens
  have hround : document fuel ⟨first :: more, []⟩ =
      (node Tag.defaultHandles fuel true false ⟨first :: more, []⟩).bind fun r =>
        (if r.2.tokens.all (· = .documentEnd) then return some r.1 else failure : Parse _) r.2 := by
    cases first <;> first | rfl | cases hfirst
  rw [hround, hnode]
  rfl

end Parse

end LinkTemplate.Yaml
