import LinkTemplate.Yaml.Lexer
/-!
# From tokens to documents

The nodes of a document are scalars, sequences, mappings and aliases.  Anchors go
by numbers: a node with an anchor has one, and an alias has the number of the
anchor that it refers to.

A text holds at most one document.  An alias refers to the anchor that bears its
name at that point.  The number of an anchor is the count of different names seen
before it, so when a name is used again two anchors can get one number.  The last
node with a number is the one that its aliases mean, wherever they stand.
-/

namespace LinkTemplate.Yaml

/-! ### Nodes -/

/-- The number of a node's anchor, and its tag. -/
structure Properties where
  anchor? : Option Nat
  tag? : Option Text
deriving DecidableEq, Repr

/-- A node of a document. -/
inductive Node where
  | reference (anchor : Nat)
  | scalar (properties : Properties) (plain : Bool) (text : Text)
  | sequence (properties : Properties) (items : List Node)
  | mapping (properties : Properties) (entries : List (Node × Node))
deriving Repr

namespace Node

/-- The scalar that stands where a node is missing. -/
def absent : Node := .scalar ⟨none, none⟩ true []

/-- A pair of a number and a node, if the node has an anchor. -/
def anchoredAs (properties : Properties) (node : Node) : List (Nat × Node) :=
  match properties.anchor? with
  | some n => [(n, node)]
  | none => []

/-- The nodes with anchors below and including a node, in document order. -/
def anchored : Node → List (Nat × Node)
  | reference _ => []
  | scalar properties plain text => anchoredAs properties (scalar properties plain text)
  | sequence properties items =>
    anchoredAs properties (sequence properties items) ++ anchoredItems items
  | mapping properties entries =>
    anchoredAs properties (mapping properties entries) ++ anchoredEntries entries
where
  anchoredItems : List Node → List (Nat × Node)
    | [] => []
    | item :: items => item.anchored ++ anchoredItems items
  anchoredEntries : List (Node × Node) → List (Nat × Node)
    | [] => []
    | (key, value) :: entries => key.anchored ++ value.anchored ++ anchoredEntries entries

end Node

/-! ### Parsing -/

/-- What is left of the tokens, and the number of the anchor that bears each name. -/
structure ParseState where
  tokens : List Token
  anchors : List (Text × Nat)

/-- A step of parsing; none is a fault. -/
abbrev Parse := StateT ParseState Option

namespace Parse

/-- The next token, which is left in place. -/
def peek? : Parse (Option Token) := do return (← get).tokens.head?

/-- Goes on to the next token. -/
def skip : Parse Unit := modify fun s => { s with tokens := s.tokens.tail }

/-- Takes the next token, which must be the given one. -/
def expect (t : Token) : Parse Unit := do
  if (← peek?) = some t then skip else failure

/-- The next token is one of the given ones; the end of the text counts as one if `atEnd` is set. -/
def nextIsAny (ts : List Token) (atEnd : Bool) : Parse Bool := do
  match ← peek? with
  | some t => return ts.contains t
  | none => return atEnd

/-- Gives an anchor its number. -/
def define (name : Text) : Parse Nat := do
  let s ← get
  let number := s.anchors.length
  set { s with anchors := (name, number) :: s.anchors.filter fun entry => entry.1 ≠ name }
  return number

/-- The number of the anchor that bears a name. -/
def lookup (name : Text) : Parse Nat := do
  match (← get).anchors.lookup name with
  | some number => return number
  | none => failure

/-- Takes an anchor, if there is one. -/
def anchor? : Parse (Option Text) := do
  match ← peek? with
  | some (.anchor name) => skip; return some name
  | _ => return none

/-- Takes a tag, if there is one, and resolves it. -/
def tag? (handles : List (Text × Text)) : Parse (Option Text) := do
  match ← peek? with
  | some (.tag tag) =>
    skip
    match tag.resolve? handles with
    | some t => return some t
    | none => failure
  | _ => return none

/-- Takes an anchor and a tag, in either order. -/
def properties (handles : List (Text × Text)) : Parse Properties := do
  let name? ← anchor?
  let tag? ← tag? handles
  let name? ← if name?.isSome then pure name? else anchor?
  match name? with
  | some name => return ⟨some (← define name), tag?⟩
  | none => return ⟨none, tag?⟩

/-- The tag of a scalar; the tag `!` says no more than no tag. -/
def scalarProperties (p : Properties) : Properties :=
  if p.tag? = some ['!'] then { p with tag? := none } else p

/-- A scalar without a text, which has to have an anchor or a tag. -/
def bare (p : Properties) : Parse Node :=
  if p.anchor?.isSome || p.tag?.isSome then return .scalar p true [] else failure

/-- The node that a parser gives, or the absent one in front of one of the given tokens. -/
def unlessAny (ts : List Token) (p : Parse Node) : Parse Node := do
  if ← nextIsAny ts false then return Node.absent else p

/-- The node behind a value mark, or the absent one where there is no such mark. -/
def valueUnlessAny (ts : List Token) (p : Parse Node) : Parse Node := do
  if (← peek?) = some .value then
    skip
    unlessAny ts p
  else return Node.absent

mutual

/-- Parses a node.  Block collections are admitted if `block` is set, and a sequence that is not
indented if `indentless` is set. -/
def node (handles : List (Text × Text)) : Nat → Bool → Bool → Parse Node
  | 0, _, _ => failure
  | fuel + 1, block, indentless => do
    match ← peek? with
    | some (.reference name) =>
      skip
      return .reference (← lookup name)
    | _ =>
      let p ← properties handles
      match ← peek? with
      | some (.scalar plain text) =>
        skip
        return .scalar (scalarProperties p) plain text
      | some .flowSequenceStart =>
        skip
        return .sequence p (← flowSequence handles fuel true)
      | some .flowMappingStart =>
        skip
        return .mapping p (← flowMapping handles fuel true)
      | some .blockEntry =>
        if indentless then return .sequence p (← indentlessSequence handles fuel)
        else bare p
      | some .blockSequenceStart =>
        if block then
          skip
          return .sequence p (← blockSequence handles fuel)
        else bare p
      | some .blockMappingStart =>
        if block then
          skip
          return .mapping p (← blockMapping handles fuel)
        else bare p
      | _ => bare p

/-- Parses the items of an indented sequence. -/
def blockSequence (handles : List (Text × Text)) : Nat → Parse (List Node)
  | 0 => failure
  | fuel + 1 => do
    match ← peek? with
    | some .blockEntry =>
      skip
      let item ← unlessAny [.blockEntry, .blockEnd] (node handles fuel true false)
      return item :: (← blockSequence handles fuel)
    | some .blockEnd =>
      skip
      return []
    | _ => failure

/-- Parses the items of a sequence that is not indented. -/
def indentlessSequence (handles : List (Text × Text)) : Nat → Parse (List Node)
  | 0 => failure
  | fuel + 1 => do
    match ← peek? with
    | some .blockEntry =>
      skip
      let item ← unlessAny [.blockEntry, .key, .value, .blockEnd] (node handles fuel true false)
      return item :: (← indentlessSequence handles fuel)
    | _ => return []

/-- Parses the entries of a block mapping. -/
def blockMapping (handles : List (Text × Text)) : Nat → Parse (List (Node × Node))
  | 0 => failure
  | fuel + 1 => do
    match ← peek? with
    | some .key =>
      skip
      let key ← unlessAny [.key, .value, .blockEnd] (node handles fuel true true)
      let value ← valueUnlessAny [.key, .value, .blockEnd] (node handles fuel true true)
      return (key, value) :: (← blockMapping handles fuel)
    | some .blockEnd =>
      skip
      return []
    | _ => failure

/-- Parses the items of a flow sequence; `first` says that none was parsed yet. -/
def flowSequence (handles : List (Text × Text)) : Nat → Bool → Parse (List Node)
  | 0, _ => failure
  | fuel + 1, first => do
    if (← peek?) = some .flowSequenceEnd then
      skip
      return []
    if !first then expect .flowEntry
    match ← peek? with
    | some .flowSequenceEnd =>
      skip
      return []
    | some .key =>
      skip
      let item ← flowPair handles fuel
      return item :: (← flowSequence handles fuel false)
    | _ =>
      let item ← node handles fuel false false
      return item :: (← flowSequence handles fuel false)

/-- Parses a mapping of one entry inside a flow sequence.  When its key is missing, the token in its
place is passed over. -/
def flowPair (handles : List (Text × Text)) : Nat → Parse Node
  | 0 => failure
  | fuel + 1 => do
    let key ←
      if ← nextIsAny [.value, .flowEntry, .flowSequenceEnd] false then do
        skip
        pure Node.absent
      else node handles fuel false false
    let value ← valueUnlessAny [.flowEntry, .flowSequenceEnd] (node handles fuel false false)
    return .mapping ⟨none, none⟩ [(key, value)]

/-- Parses the entries of a flow mapping; `first` says that none was parsed yet. -/
def flowMapping (handles : List (Text × Text)) : Nat → Bool → Parse (List (Node × Node))
  | 0, _ => failure
  | fuel + 1, first => do
    if (← peek?) = some .flowMappingEnd then
      skip
      return []
    if !first then expect .flowEntry
    match ← peek? with
    | some .flowMappingEnd =>
      skip
      return []
    | some .key =>
      skip
      let key ←
        unlessAny [.value, .flowEntry, .flowMappingEnd] (node handles fuel false false)
      let value ← valueUnlessAny [.flowEntry, .flowMappingEnd] (node handles fuel false false)
      return (key, value) :: (← flowMapping handles fuel false)
    | _ =>
      let key ← node handles fuel false false
      return (key, Node.absent) :: (← flowMapping handles fuel false)

end

/-- Reads the directives in front of a document: at most one version, which must be 1.1 or 1.2, and
tag handles that are different from one another.  The result is the handles declared in the
document. -/
def directives : Nat → Bool → List (Text × Text) → Parse (List (Text × Text))
  | 0, _, _ => failure
  | fuel + 1, versioned, declared => do
    match ← peek? with
    | some (.versionDirective major minor) =>
      if versioned || major ≠ 1 || (minor ≠ 1 && minor ≠ 2) then failure
      else
        skip
        directives fuel true declared
    | some (.tagDirective handle expansion) =>
      if declared.any fun entry => entry.1 = handle then failure
      else
        skip
        directives fuel versioned (declared ++ [(handle, expansion)])
    | _ => return declared ++ Tag.defaultHandles

/-- The next token starts an explicit document or is a directive in front of one. -/
def atDocumentStart : Parse Bool := do
  match ← peek? with
  | some (.versionDirective ..) | some (.tagDirective ..) | some .documentStart => return true
  | _ => return false

/-- Parses the content of an explicit document, which may be missing. -/
def content (handles : List (Text × Text)) (fuel : Nat) : Parse Node := do
  let startsNext ← atDocumentStart
  if startsNext || (← nextIsAny [.documentEnd] true) then return Node.absent
  else node handles fuel true false

/-- Parses a text with at most one document. -/
def document (fuel : Nat) : Parse (Option Node) := do
  match ← peek? with
  | none => return none
  | some _ =>
    let root ←
      if ← atDocumentStart then do
        let handles ← directives fuel false []
        expect .documentStart
        content handles fuel
      else node Tag.defaultHandles fuel true false
    if (← get).tokens.all (· = .documentEnd) then return some root else failure

end Parse

/-- A document: its root, if it has one, and the nodes that aliases mean. -/
structure Document where
  root? : Option Node
  anchors : List (Nat × Node)

namespace Document

/-- The document of a text; none if the text is at fault or has several documents. -/
def ofText? (t : Text) : Option Document := do
  let tokens ← Token.ofText? t
  let (root?, _) ← (Parse.document (4 * tokens.length + 4)).run ⟨tokens, []⟩
  return ⟨root?, (root?.elim [] Node.anchored).reverse⟩

/-- The node itself, or the one that an alias means. -/
def resolve (document : Document) : Node → Node
  | .reference n => (document.anchors.lookup n).getD Node.absent
  | node => node

end Document

end LinkTemplate.Yaml
