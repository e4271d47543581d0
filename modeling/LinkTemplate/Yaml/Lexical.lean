import LinkTemplate.Text
/-!
# Characters and places of a YAML text

A text is read line by line.  Five characters end a line; a carriage return
with a line feed after it is one line end.  A `Position` counts characters since
the start of the text, lines, and characters since the start of the line.
-/

namespace LinkTemplate.Yaml

/-- Blanks within a line. -/
def isBlank (c : Char) : Bool := c = ' ' || c = '\t'

/-- Characters that end a line. -/
def isBreak (c : Char) : Bool :=
  c = '\n' || c = '\r' || c = '\u0085' || c = '\u2028' || c = '\u2029'

/-- Characters of anchors, tag handles and directive names. -/
def isWord (c : Char) : Bool := c.isAlphanum || c = '-' || c = '_'

/-- Characters that a YAML text may hold. -/
def isAllowed (c : Char) : Bool :=
  let n := c.toNat
  c = '\t' || c = '\n' || c = '\r' || (0x20 ≤ n && n ≤ 0x7E) || n = 0x85 ||
    (0xA0 ≤ n && n ≤ 0xD7FF) || (0xE000 ≤ n && n ≤ 0xFFFD) || 0x10000 ≤ n

/-- The byte order mark. -/
def byteOrderMark : Char := '\ufeff'

/-- A blank, a line end or the end of the text comes first. -/
def endsWord : Text → Bool
  | [] => true
  | c :: _ => isBlank c || isBreak c

/-- The form in which a line end enters a scalar: the two Unicode separators stand for themselves,
all others become a line feed. -/
def breakForm (c : Char) : Char := if c = '\u2028' || c = '\u2029' then c else '\n'

/-- The line end that comes first, in the form in which it enters a scalar, and the text after
it. -/
def readBreak? : Text → Option (Char × Text)
  | '\r' :: '\n' :: rest => some ('\n', rest)
  | c :: rest => if isBreak c then some (breakForm c, rest) else none
  | [] => none

/-- The text from the next line end on. -/
def skipLine (t : Text) : Text := t.dropWhile fun c => !isBreak c

/-- The text after the line, on which there must be nothing more than blanks and a comment. -/
def endLine? (t : Text) : Option Text :=
  let rest := t.dropWhile isBlank
  let rest := if rest.head? = some '#' then skipLine rest else rest
  match readBreak? rest with
  | some (_, rest) => some rest
  | none => if rest.isEmpty then some rest else none

/-- A line starts with `---` or `...` as a word of its own. -/
def isMarker : Text → Bool
  | '-' :: '-' :: '-' :: rest => endsWord rest
  | '.' :: '.' :: '.' :: rest => endsWord rest
  | _ => false

/-! ### Positions -/

/-- A place in a text. -/
structure Position where
  index : Nat
  line : Nat
  column : Nat
deriving DecidableEq, Repr

namespace Position

/-- The start of a text. -/
def start : Position := ⟨0, 0, 0⟩

/-- The place that is reached by reading a text. -/
def after (p : Position) : Text → Position
  | '\r' :: '\n' :: rest => after ⟨p.index + 2, p.line + 1, 0⟩ rest
  | c :: rest =>
    if isBreak c then after ⟨p.index + 1, p.line + 1, 0⟩ rest
    else after ⟨p.index + 1, p.line, p.column + 1⟩ rest
  | [] => p

end Position

/-! ### Gaps -/

/-- The blanks and line ends between two words of a scalar. -/
structure Gap where
  /-- The blanks in front of the first line end. -/
  blanks : Text
  /-- The line ends, each in the form in which it enters a scalar. -/
  breaks : Text
  /-- The number of blanks after the last line end. -/
  column : Nat
  /-- The least column of a tab in a line that the gap enters. -/
  tab? : Option Nat
deriving DecidableEq, Repr

namespace Gap

/-- The gap without characters. -/
def none : Gap := ⟨[], [], 0, .none⟩

/-- The gap goes over a line end. -/
def isBroken (g : Gap) : Bool := !g.breaks.isEmpty

/-- The next word starts a line. -/
def atLineStart (g : Gap) : Bool := g.isBroken && g.column == 0

/-- Records a tab at a column. -/
def addTab (tab? : Option Nat) (column : Nat) : Option Nat :=
  some (match tab? with
    | some c => min c column
    | .none => column)

/-- Reads line ends and the blanks between them, having read `g`. -/
def readLines (g : Gap) : Text → Gap × Text
  | '\r' :: '\n' :: rest => readLines { g with breaks := g.breaks ++ ['\n'], column := 0 } rest
  | c :: rest =>
    if isBreak c then readLines { g with breaks := g.breaks ++ [breakForm c], column := 0 } rest
    else if c = ' ' then readLines { g with column := g.column + 1 } rest
    else if c = '\t' then
      readLines { g with column := g.column + 1, tab? := addTab g.tab? g.column } rest
    else (g, c :: rest)
  | [] => (g, [])

/-- Reads the gap at the start of a text. -/
def read (t : Text) : Gap × Text :=
  let blanks := t.takeWhile isBlank
  let rest := t.dropWhile isBlank
  match rest with
  | c :: _ =>
    if isBreak c then readLines { Gap.none with blanks } rest else ({ Gap.none with blanks }, rest)
  | [] => ({ Gap.none with blanks }, rest)

/-- Line folding: a single line feed becomes a blank, of several the first is dropped, and a Unicode
separator in front keeps all. -/
def fold : Text → Text
  | ['\n'] => [' ']
  | '\n' :: more => more
  | breaks => breaks

/-- What a gap contributes to a scalar. -/
def text (g : Gap) : Text := if g.isBroken then fold g.breaks else g.blanks

end Gap

end LinkTemplate.Yaml
