import LinkTemplate.Number
/-!
# JSON values

The values of JSON documents, and their text: compact, without any blanks, or
indented over several lines.
-/

namespace LinkTemplate

/-- A JSON value; the members of an object are kept in their order. -/
inductive Json where
  | null
  | bool (b : Bool)
  | number (n : Number)
  | string (s : Text)
  | array (items : List Json)
  | object (members : List (Text × Json))
deriving Repr

namespace Json

/-! ### Strings -/

/-- The lower-case hexadecimal digit of a value below 16. -/
def hexDigit (n : Nat) : Char :=
  if n < 10 then Char.ofNat ('0'.toNat + n) else Char.ofNat ('a'.toNat + (n - 10))

/-- A character as it is written inside a string.  Quotes, backslashes and control characters are
escaped, everything else stands for itself. -/
def escapeChar (c : Char) : Text :=
  if c = '"' then ['\\', '"']
  else if c = '\\' then ['\\', '\\']
  else if c = '\x08' then ['\\', 'b']
  else if c = '\x0c' then ['\\', 'f']
  else if c = '\n' then ['\\', 'n']
  else if c = '\r' then ['\\', 'r']
  else if c = '\t' then ['\\', 't']
  else if c < ' ' then ['\\', 'u', '0', '0', hexDigit (c.toNat / 16), hexDigit (c.toNat % 16)]
  else [c]

/-- A string in quotes. -/
def quote (s : Text) : Text := '"' :: s.flatMap escapeChar ++ ['"']

/-! ### Compact text -/

/-- Parts with commas between them and brackets around them. -/
def enclose (opening closing : Char) (parts : List Text) : Text :=
  opening :: Text.joinWith [','] parts ++ [closing]

/-- The text of a value without any blanks. -/
def render : Json → Text
  | null => "null".toList
  | bool b => if b then "true".toList else "false".toList
  | number n => n.toText
  | string s => quote s
  | array items => enclose '[' ']' (renderItems items)
  | object members => enclose '{' '}' (renderMembers members)
where
  renderItems : List Json → List Text
    | [] => []
    | item :: items => item.render :: renderItems items
  renderMembers : List (Text × Json) → List Text
    | [] => []
    | (name, value) :: members => (quote name ++ ':' :: value.render) :: renderMembers members

/-! ### Indented text -/

/-- A new line at an indentation depth, two blanks for each level. -/
def newline (depth : Nat) : Text := '\n' :: List.replicate (2 * depth) ' '

/-- Parts on lines of their own, one level deeper than the brackets; nothing between the brackets if
there are no parts. -/
def encloseLines (depth : Nat) (opening closing : Char) (parts : List Text) : Text :=
  if parts.isEmpty then [opening, closing]
  else opening :: newline (depth + 1) ++ Text.joinWith (',' :: newline (depth + 1)) parts ++
    newline depth ++ [closing]

/-- The text of a value on several lines, at an indentation depth. -/
def pretty (depth : Nat) : Json → Text
  | array items => encloseLines depth '[' ']' (prettyItems (depth + 1) items)
  | object members => encloseLines depth '{' '}' (prettyMembers (depth + 1) members)
  | value => value.render
where
  prettyItems (depth : Nat) : List Json → List Text
    | [] => []
    | item :: items => item.pretty depth :: prettyItems depth items
  prettyMembers (depth : Nat) : List (Text × Json) → List Text
    | [] => []
    | (name, value) :: members =>
      (quote name ++ ':' :: ' ' :: value.pretty depth) :: prettyMembers depth members

end Json

end LinkTemplate
