import LinkTemplate.Yaml.Lexical
/-!
# Tokens

The tokens of a YAML text, without a token for its start and its end.  Block
collections have tokens for where they start and end, which come from
indentation alone.

A tag in a text is a handle with a suffix, or a verbatim tag in angle brackets,
which has the empty handle.  What a handle stands for is declared by directives;
two handles are declared in every document.  A directive is a line that starts with
`%` and states the version of the format or what a tag handle stands for.
-/

namespace LinkTemplate.Yaml

/-! ### Tags -/

/-- A tag as it is written. -/
structure Tag where
  handle : Text
  suffix : Text
deriving DecidableEq, Repr

namespace Tag

/-- The tags of the basic types begin with this. -/
def core : Text := "tag:yaml.org,2002:".toList

/-- The handles that every document declares. -/
def defaultHandles : List (Text × Text) := [(['!'], ['!']), (['!', '!'], core)]

/-- The tag that is meant; none if the handle is not declared. -/
def resolve? (handles : List (Text × Text)) (tag : Tag) : Option Text :=
  if tag.handle.isEmpty then some tag.suffix
  else (handles.lookup tag.handle).map (· ++ tag.suffix)

/-- Characters of a tag's suffix.  In a verbatim tag, the punctuation of flow sequences is
included. -/
def isSuffixChar (verbatim : Bool) (c : Char) : Bool :=
  isWord c || ";/?:@&=+$.%!~*'()".toList.contains c || (verbatim && ",[]".toList.contains c)

/-- The number of bytes in the UTF-8 form of a character, from the first of them. -/
def sequenceLength? (b : UInt8) : Option Nat :=
  if b.toNat < 0x80 then some 1
  else if 0xC0 ≤ b.toNat ∧ b.toNat < 0xE0 then some 2
  else if 0xE0 ≤ b.toNat ∧ b.toNat < 0xF0 then some 3
  else if 0xF0 ≤ b.toNat ∧ b.toNat < 0xF8 then some 4
  else none

/-- The bytes of a run of `%XX`. -/
def escapedBytes? : Nat → Text → Option (List UInt8)
  | 0, _ => some []
  | n + 1, '%' :: h :: l :: rest => do
    let byte ← Text.natOfDigits? 16 [h, l]
    return UInt8.ofNat byte :: (← escapedBytes? n rest)
  | _ + 1, _ => none

/-- Reads one escaped character; the bytes after the first must continue it. -/
def readEscaped (t : Text) : Option (Text × Text) := do
  let first ← (← escapedBytes? 1 t).head?
  let length ← sequenceLength? first
  let bytes ← escapedBytes? length t
  if bytes.tail.all fun b => 0x80 ≤ b.toNat && b.toNat < 0xC0 then
    return ((Text.ofBytes? bytes).getD ['\ufffd'], t.drop (3 * length))
  else none

/-- Reads one character of a suffix, which may be escaped. -/
def readSuffixChar (c : Char) (rest : Text) : Option (Text × Text) :=
  if c = '%' then readEscaped (c :: rest) else some ([c], rest)

/-- Reads suffix characters as far as they go. -/
def readSuffixChars (verbatim : Bool) : Nat → Text → Option (Text × Text)
  | 0, _ => none
  | _ + 1, [] => some ([], [])
  | fuel + 1, c :: rest =>
    if !isSuffixChar verbatim c then some ([], c :: rest)
    else do
      let (s, rest) ← readSuffixChar c rest
      let (more, rest) ← readSuffixChars verbatim fuel rest
      return (s ++ more, rest)

/-- Reads the suffix of a tag, of which `head` was read; together they must not be empty. -/
def readSuffix (verbatim : Bool) (head t : Text) : Option (Text × Text) := do
  let (more, rest) ← readSuffixChars verbatim (t.length + 1) t
  if head.isEmpty && more.isEmpty then none else return (head.drop 1 ++ more, rest)

/-- Reads `!`, word characters and, if there is one, another `!`. -/
def readHandle : Text → Option (Text × Text)
  | '!' :: rest =>
    let word := rest.takeWhile isWord
    match rest.dropWhile isWord with
    | '!' :: rest => some ('!' :: word ++ ['!'], rest)
    | rest => some ('!' :: word, rest)
  | _ => none

/-- Reads a verbatim tag, its `!<` having been read. -/
def readVerbatim (t : Text) : Option (Tag × Text) := do
  let (suffix, rest) ← readSuffix true [] t
  match rest with
  | '>' :: rest => return (⟨[], suffix⟩, rest)
  | _ => none

/-- Reads a handle and a suffix.  What looks like the start of a handle without a second `!` is the
start of the suffix of the handle `!`. -/
def readShorthand (t : Text) : Option (Tag × Text) := do
  let (handle, rest) ← readHandle t
  if handle.length > 1 && handle.getLast? = some '!' then
    let (suffix, rest) ← readSuffix false [] rest
    return (⟨handle, suffix⟩, rest)
  else
    let (suffix, rest) ← readSuffix false handle rest
    return (if suffix.isEmpty then ⟨[], ['!']⟩ else ⟨['!'], suffix⟩, rest)

/-- Reads a tag of either kind. -/
def readAny : Text → Option (Tag × Text)
  | '!' :: '<' :: rest => readVerbatim rest
  | t => readShorthand t

/-- Reads a tag, which must be a word of its own. -/
def read (flow : Bool) (t : Text) : Option (Tag × Text) := do
  let (tag, rest) ← readAny t
  if endsWord rest || (flow && rest.head? = some ',') then return (tag, rest) else none

end Tag

/-! ### Tokens -/

/-- A token of a YAML text. -/
inductive Token where
  | versionDirective (major minor : Nat)
  | tagDirective (handle expansion : Text)
  | documentStart
  | documentEnd
  | blockSequenceStart
  | blockMappingStart
  | blockEnd
  | flowSequenceStart
  | flowSequenceEnd
  | flowMappingStart
  | flowMappingEnd
  | blockEntry
  | flowEntry
  | key
  | value
  | reference (name : Text)
  | anchor (name : Text)
  | tag (tag : Tag)
  /-- The flag says that the scalar is plain. -/
  | scalar (plain : Bool) (text : Text)
deriving DecidableEq, Repr

/-! ### Directives -/

namespace Directive

/-- A number of a version: at most nine digits. -/
def readVersionNumber (t : Text) : Option (Nat × Text) := do
  let digits := t.takeWhile Char.isDigit
  if 9 < digits.length then none
  else return (← Text.natOfDigits? 10 digits, t.drop digits.length)

/-- Reads the value of a version directive. -/
def readVersion (t : Text) : Option (Token × Text) := do
  let (major, rest) ← readVersionNumber (t.dropWhile isBlank)
  match rest with
  | '.' :: rest => do
    let (minor, rest) ← readVersionNumber rest
    return (.versionDirective major minor, rest)
  | _ => none

/-- Reads the value of a tag directive. -/
def readTagDeclaration (t : Text) : Option (Token × Text) := do
  let (handle, rest) ← Tag.readHandle (t.dropWhile isBlank)
  if handle ≠ ['!'] ∧ (handle.length = 1 ∨ handle.getLast? ≠ some '!') then none
  else if !rest.head?.any isBlank then none
  else
    let (expansion, rest) ← Tag.readSuffix true [] (rest.dropWhile isBlank)
    if endsWord rest then return (.tagDirective handle expansion, rest) else none

/-- Reads the value of the directive of a name.  There are no others. -/
def readValue (name t : Text) : Option (Token × Text) :=
  if name = "YAML".toList then readVersion t
  else if name = "TAG".toList then readTagDeclaration t
  else none

/-- Reads a directive, its `%` having been read, up to the end of its line. -/
def read (t : Text) : Option (Token × Text) := do
  let name := t.takeWhile isWord
  let rest := t.dropWhile isWord
  if name.isEmpty || !endsWord rest then none
  else
    let (token, rest) ← readValue name rest
    return (token, ← endLine? rest)

end Directive

end LinkTemplate.Yaml
