import LinkTemplate.Expression.Expand
/-!
# Templates

A template is a sequence of literal texts and expressions.  Braces do not nest:
an expression runs from `{` to the next `}`.  An empty `{}` and a `{` without a
`}` after it are literal text.

`chunks` cuts a text into literals and braced bodies without looking into the
bodies; `parse` then reads every body, so one malformed expression fails the
whole template and the leftmost one gives the error.  Since reading and writing
an expression are inverse, the segments hold the whole source text: it is their
concatenation, and the place of each is the width of what precedes it.
-/

namespace LinkTemplate

/-- A part of a template: text to be copied, or an expression to be evaluated. -/
inductive Segment where
  | literal (text : Text)
  | expression (e : Expression)
deriving DecidableEq, Repr

namespace Segment

/-- A segment as it is written in the template. -/
def source : Segment → Text
  | literal text => text
  | expression e => e.render

/-- The expression of a segment. -/
def expression? : Segment → Option Expression
  | literal _ => none
  | expression e => some e

/-- Copies a literal and evaluates an expression. -/
def expand (params : Params) (encode : Encoder) (mode : Mode) : Segment → Emission
  | literal text => .write text
  | expression e => e.expand params encode mode

end Segment

/-- A part of a text before its expressions are read. -/
inductive Chunk where
  | literal (text : Text)
  | braced (body : Text)
deriving DecidableEq, Repr

namespace Chunk

/-- A chunk as it is written. -/
def source : Chunk → Text
  | literal text => text
  | braced body => Expression.braced body

/-- The literal chunk of a text, none if the text is empty. -/
def literals (t : Text) : List Chunk := if t.isEmpty then [] else [literal t]

/-- Cuts a text that follows the literal text `before` into chunks. -/
def ofTextAfter (before t : Text) : List Chunk :=
  match h : Text.cutAt '{' t with
  | none => literals (before ++ t)
  | some (plain, opened) =>
    match h' : Text.cutAt '}' opened with
    | none => literals (before ++ t)
    | some ([], rest) =>
      have := Text.length_lt_of_cutAt h
      have := Text.length_lt_of_cutAt h'
      ofTextAfter (before ++ plain ++ ['{', '}']) rest
    | some (body, rest) =>
      have := Text.length_lt_of_cutAt h
      have := Text.length_lt_of_cutAt h'
      literals (before ++ plain) ++ braced body :: ofTextAfter [] rest
termination_by t.length

/-- The chunks of a text. -/
def ofText (t : Text) : List Chunk := ofTextAfter [] t

/-- Reads the expression of a braced chunk. -/
def parse : Chunk → Except Error Segment
  | literal text => .ok (.literal text)
  | braced body => (Expression.parse body).map .expression

end Chunk

/-- A template. -/
structure Template where
  segments : List Segment
deriving DecidableEq, Repr

namespace Template

/-- Reads a template. -/
def parse (t : Text) : Except Error Template := do
  return ⟨← (Chunk.ofText t).mapM Chunk.parse⟩

/-- The text of a template. -/
def source (template : Template) : Text := template.segments.flatMap Segment.source

/-- The expressions of a template from left to right. -/
def expressions (template : Template) : List Expression :=
  template.segments.filterMap Segment.expression?

/-- The names without repetitions, in the order in which they first appear. -/
def distinct (names : List Text) : List Text :=
  names.foldl (fun seen name => if seen.contains name then seen else seen ++ [name]) []

/-- The names of the variables a template depends on, in the order in which they first appear. -/
def names (template : Template) : List Text :=
  distinct (template.expressions.flatMap Expression.names)

/-! ### Places -/

/-- A range of bytes in a text; `stop` is the offset after the last one. -/
structure Span where
  start : Nat
  stop : Nat
deriving DecidableEq, Repr

/-- The spans of segments that begin at an offset. -/
def spansFrom (start : Nat) : List Segment → List (Segment × Span)
  | [] => []
  | s :: rest =>
    let stop := start + s.source.byteLength
    (s, ⟨start, stop⟩) :: spansFrom stop rest

/-- The segments, each with the bytes it occupies in the source. -/
def spans (template : Template) : List (Segment × Span) := spansFrom 0 template.segments

/-! ### Names outside the standard grammar -/

/-- The standard grammar of variable names: ASCII letters, digits and, except in front, `.`, `_`
and `-`. -/
def isStandardName : Text → Bool
  | [] => false
  | c :: rest => c.isAlphanum && rest.all fun d => d.isAlphanum || d = '.' || d = '_' || d = '-'

/-- A variable whose name is outside the standard grammar, and the expression that mentions it. -/
structure Lint where
  name : Text
  span : Span
deriving DecidableEq, Repr

/-- One lint for each mention of a name outside the standard grammar. -/
def lint (template : Template) : List Lint :=
  template.spans.flatMap fun (segment, span) =>
    match segment.expression? with
    | none => []
    | some e => (e.names.filter fun name => !isStandardName name).map fun name => ⟨name, span⟩

/-- How a lint is described. -/
def Lint.message (l : Lint) : Text :=
  "variable '".toList ++ l.name ++ "' at ".toList ++ Text.ofNat l.span.start ++ ['.', '.'] ++
    Text.ofNat l.span.stop ++ " is not a standard URI Template name".toList

/-! ### Expansion -/

/-- Copies the literals and evaluates the expressions from left to right. -/
def expand (template : Template) (params : Params) (encode : Encoder) (mode : Mode) :
    Except Error Text :=
  (Emission.sequence (template.segments.map (Segment.expand params encode mode))).result

end Template

/-- Reads a template and expands it. -/
def expandText (t : Text) (params : Params) (encode : Encoder) (mode : Mode) :
    Except Error Text := do
  (← Template.parse t).expand params encode mode

end LinkTemplate
