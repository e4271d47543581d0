import LinkTemplate.Yaml.Scalar
import LinkTemplate.Yaml.Token
/-!
# From text to tokens

The lexer turns indentation into tokens and finds out which scalars and
collections are keys.  A key is recognised only by the `:` after it, so the place
of each token that might be a key is kept, one for the surrounding block and one
for every open flow collection; when the `:` comes, the key token is put in at
that place.  A key that is required by its column and does not come is a fault.
-/

namespace LinkTemplate.Yaml

/-- The place of a token that might turn out to be a key. -/
structure PossibleKey where
  position : Position
  /-- The number of tokens in front of it. -/
  token : Nat
  /-- It is a key, or the text is at fault. -/
  required : Bool

/-- The state of scanning a text. -/
structure Lexer where
  rest : Text
  position : Position
  tokens : Array Token
  /-- The indentation of the innermost open block collection, `-1` outside of all. -/
  indent : Int
  /-- The indentations around it, innermost first. -/
  outerIndents : List Int
  /-- The possible key at the innermost level. -/
  key? : Option PossibleKey
  /-- The possible keys around it, one for each open flow collection. -/
  outerKeys : List (Option PossibleKey)
  /-- A key may start here. -/
  keyAllowed : Bool

namespace Lexer

/-- The lexer at the start of a text. -/
def start (t : Text) : Lexer where
  rest := t
  position := .start
  tokens := #[]
  indent := -1
  outerIndents := []
  key? := none
  outerKeys := []
  keyAllowed := true

/-- The lexer is inside a flow collection. -/
def inFlow (s : Lexer) : Bool := !s.outerKeys.isEmpty

/-- The column of the lexer. -/
def column (s : Lexer) : Int := s.position.column

/-- Moves on to `rest`, which is what is left after reading a part of the text. -/
def moveTo (s : Lexer) (rest : Text) : Lexer :=
  { s with
    rest
    position := s.position.after (s.rest.take (s.rest.length - rest.length)) }

/-- Appends a token. -/
def emit (s : Lexer) (t : Token) : Lexer := { s with tokens := s.tokens.push t }

/-- Puts a token in front of the one with number `n`. -/
def emitAt (s : Lexer) (n : Nat) (t : Token) : Lexer :=
  { s with tokens := (s.tokens.extract 0 n).push t ++ s.tokens.extract n s.tokens.size }

/-! ### Indentation -/

/-- Opens a block collection at a column, unless one is open there; its token goes in front of the
token with number `n`. -/
def openBlock (s : Lexer) (column : Int) (n : Nat) (t : Token) : Lexer :=
  if s.inFlow || column ≤ s.indent then s
  else { s.emitAt n t with indent := column, outerIndents := s.indent :: s.outerIndents }

/-- Closes block collections that are indented deeper than a column. -/
def closeBlocks (s : Lexer) (column : Int) : Lexer :=
  if s.inFlow then s
  else
    let rec go (outer : List Int) (s : Lexer) : Lexer :=
      if s.indent ≤ column then s
      else
        match outer with
        | [] => { s.emit .blockEnd with indent := -1, outerIndents := [] }
        | indent :: outer => go outer { s.emit .blockEnd with indent, outerIndents := outer }
    go s.outerIndents s

/-! ### Keys -/

/-- Gives up the possible key of the innermost level; a fault if it is required. -/
def dropKey (s : Lexer) : Option Lexer :=
  if s.key?.any (·.required) then none else some { s with key? := none }

/-- Notes that the next token might be a key. -/
def saveKey (s : Lexer) : Option Lexer :=
  if !s.keyAllowed then some s
  else do
    let required := !s.inFlow && s.indent == s.column
    let s ← s.dropKey
    return { s with key? := some ⟨s.position, s.tokens.size, required⟩ }

/-- A key ends on the line on which it starts and is at most 1024 characters long. -/
def isStale (s : Lexer) (key : PossibleKey) : Bool :=
  key.position.line < s.position.line || key.position.index + 1024 < s.position.index

/-- Drops a key that has become impossible; a fault if it is required. -/
def refresh (s : Lexer) : Option PossibleKey → Option (Option PossibleKey)
  | some key => if !s.isStale key then some (some key) else if key.required then none else some none
  | none => some none

/-- Drops all keys that have become impossible. -/
def dropStaleKeys (s : Lexer) : Option Lexer := do
  let key? ← s.refresh s.key?
  let outerKeys ← s.outerKeys.mapM s.refresh
  return { s with key?, outerKeys }

/-! ### Between tokens -/

/-- The text from the next token on, and whether a key is allowed there.  Tabs are skipped only
where no key can start. -/
def skipToToken (flow : Bool) : Bool → Bool → Text → Bool × Text
  | keyAllowed, _, [] => (keyAllowed, [])
  | keyAllowed, _, '\r' :: '\n' :: rest => skipToToken flow (!flow || keyAllowed) false rest
  | keyAllowed, comment, c :: rest =>
    if isBreak c then skipToToken flow (!flow || keyAllowed) false rest
    else if comment || c = ' ' || (c = '\t' && (flow || !keyAllowed)) then
      skipToToken flow keyAllowed comment rest
    else if c = '#' then skipToToken flow keyAllowed true rest
    else (keyAllowed, c :: rest)

/-- Moves on to the next token, and closes what its column ends.  A byte order mark at the start of
the text is passed over; it takes up a column. -/
def toToken (s : Lexer) : Option Lexer := do
  let s :=
    if s.position.index == 0 && s.rest.head? = some byteOrderMark then s.moveTo s.rest.tail else s
  let (keyAllowed, rest) := skipToToken s.inFlow s.keyAllowed false s.rest
  let s ← { s.moveTo rest with keyAllowed }.dropStaleKeys
  return s.closeBlocks s.column

/-! ### Single tokens -/

/-- Ends everything that is open, as markers, directives and the end of the text do. -/
def endDocument (s : Lexer) : Option Lexer := do
  let s ← (s.closeBlocks (-1)).dropKey
  return { s with keyAllowed := false }

/-- Reads the name of an anchor or alias. -/
def readName (t : Text) : Option (Text × Text) :=
  let name := t.takeWhile isWord
  let rest := t.dropWhile isWord
  if name.isEmpty then none
  else if endsWord rest || rest.head?.any fun c => "?:,]\x7d%@`".toList.contains c then
    some (name, rest)
  else none

/-- Takes a `[` or `\x7b`. -/
def openFlow (s : Lexer) (t : Token) (rest : Text) : Option Lexer := do
  let s ← s.saveKey
  return { (s.moveTo rest).emit t with
    outerKeys := s.key? :: s.outerKeys, key? := none, keyAllowed := true }

/-- Takes a `]` or `\x7d`. -/
def closeFlow (s : Lexer) (t : Token) (rest : Text) : Option Lexer := do
  let s ← s.dropKey
  let s := { (s.moveTo rest).emit t with keyAllowed := false }
  match s.outerKeys with
  | [] => return s
  | key? :: outerKeys => return { s with key?, outerKeys }

/-- Takes a `,`. -/
def flowEntry (s : Lexer) (rest : Text) : Option Lexer := do
  let s ← s.dropKey
  return { (s.moveTo rest).emit .flowEntry with keyAllowed := true }

/-- Takes a `-` in front of a sequence item. -/
def blockEntry (s : Lexer) (rest : Text) : Option Lexer := do
  if !s.inFlow && !s.keyAllowed then none
  else
    let s ← (s.openBlock s.column s.tokens.size .blockSequenceStart).dropKey
    return { (s.moveTo rest).emit .blockEntry with keyAllowed := true }

/-- Takes a `?` in front of a key. -/
def explicitKey (s : Lexer) (rest : Text) : Option Lexer := do
  if !s.inFlow && !s.keyAllowed then none
  else
    let s ← (s.openBlock s.column s.tokens.size .blockMappingStart).dropKey
    return { (s.moveTo rest).emit .key with keyAllowed := !s.inFlow }

/-- Takes a `:` in front of a value. -/
def value (s : Lexer) (rest : Text) : Option Lexer :=
  match s.key? with
  | some key =>
    let s := s.emitAt key.token .key
    let s := s.openBlock key.position.column key.token .blockMappingStart
    some { (s.moveTo rest).emit .value with key? := none, keyAllowed := false }
  | none =>
    if !s.inFlow && !s.keyAllowed then none
    else
      let s := s.openBlock s.column s.tokens.size .blockMappingStart
      some { (s.moveTo rest).emit .value with keyAllowed := !s.inFlow }

/-- Takes a token that might be a key. -/
def keyToken (s : Lexer) (t : Token) (rest : Text) : Option Lexer := do
  let s ← s.saveKey
  return { (s.moveTo rest).emit t with keyAllowed := false }

/-- Takes a block scalar. -/
def blockScalar (s : Lexer) (literal : Bool) (after : Text) : Option Lexer := do
  let s ← s.dropKey
  let (text, rest) ← Block.read literal s.indent after
  return { (s.moveTo rest).emit (.scalar false text) with keyAllowed := true }

/-- Takes a plain scalar. -/
def plainScalar (s : Lexer) : Option Lexer := do
  let r ← Plain.read s.inFlow (s.indent + 1) s.rest
  let s ← s.keyToken (.scalar true r.text) r.rest
  return { s with keyAllowed := r.broken }

/-- A plain scalar can start here: with anything but punctuation, and with `-`, `?` and `:` if a
word follows, the latter two outside of flow collections only. -/
def startsPlain (flow : Bool) (c : Char) (after : Text) : Bool :=
  let punctuation := "-?:,[]\x7b\x7d#&*!|>'\"%@`".toList
  !(isBlank c || isBreak c || punctuation.contains c) ||
    (c = '-' && !after.head?.any isBlank) ||
    (!flow && (c = '?' || c = ':') && !endsWord after)

/-- Takes a quoted scalar, whose opening quote comes first. -/
def quotedScalar (s : Lexer) (double : Bool) (after : Text) : Option Lexer := do
  let (text, rest) ← Quoted.read double after
  s.keyToken (.scalar false text) rest

/-- Takes an anchor or alias. -/
def named (s : Lexer) (token : Text → Token) (after : Text) : Option Lexer := do
  let (name, rest) ← readName after
  s.keyToken (token name) rest

/-- Takes a tag. -/
def tagToken (s : Lexer) : Option Lexer := do
  let (tag, rest) ← Tag.read s.inFlow s.rest
  s.keyToken (.tag tag) rest

/-- Takes a directive, whose `%` comes first. -/
def directive (s : Lexer) (after : Text) : Option Lexer := do
  let s ← s.endDocument
  let (token, rest) ← Directive.read after
  return (s.moveTo rest).emit token

/-- Takes a document marker. -/
def marker (s : Lexer) (t : Token) : Option Lexer := do
  let s ← s.endDocument
  return (s.moveTo (s.rest.drop 3)).emit t

/-- Takes the token that starts here. -/
def takeToken (s : Lexer) : Option Lexer :=
  match s.rest with
  | [] => none
  | c :: after =>
    if s.column == 0 && c = '%' then s.directive after
    else if s.column == 0 && isMarker s.rest then
      s.marker (if c = '-' then .documentStart else .documentEnd)
    else if c = '[' then s.openFlow .flowSequenceStart after
    else if c = '{' then s.openFlow .flowMappingStart after
    else if c = ']' then s.closeFlow .flowSequenceEnd after
    else if c = '}' then s.closeFlow .flowMappingEnd after
    else if c = ',' then s.flowEntry after
    else if c = '-' && endsWord after then s.blockEntry after
    else if c = '?' && (s.inFlow || endsWord after) then s.explicitKey after
    else if c = ':' && (s.inFlow || endsWord after) then s.value after
    else if c = '*' then s.named .reference after
    else if c = '&' then s.named .anchor after
    else if c = '!' then s.tagToken
    else if c = '|' && !s.inFlow then s.blockScalar true after
    else if c = '>' && !s.inFlow then s.blockScalar false after
    else if c = '\'' || c = '"' then s.quotedScalar (c = '"') after
    else if startsPlain s.inFlow c after then s.plainScalar
    else none

/-- Takes tokens up to the end of the text. -/
def run : Nat → Lexer → Option (Array Token)
  | 0, _ => none
  | fuel + 1, s => do
    let s ← s.toToken
    if s.rest.isEmpty then return (← s.endDocument).tokens else run fuel (← s.takeToken)

end Lexer

/-- The tokens of a text; none if it has characters that are not allowed, or no tokens.  Each token
takes up some text, so there are no more steps than characters. -/
def Token.ofText? (t : Text) : Option (List Token) :=
  if t.all isAllowed then (Lexer.run (t.length + 1) (.start t)).map Array.toList else none

end LinkTemplate.Yaml
