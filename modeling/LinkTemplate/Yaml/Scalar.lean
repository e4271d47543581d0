import LinkTemplate.Yaml.Lexical
/-!
# Scalars

A scalar without quotes runs over words and the gaps between them.  It ends in
front of a comment, a `:` that ends a word, a document marker, in a flow
collection also in front of the collection's punctuation, and in front of a line
that is not indented deeper than the surrounding block.

Between single quotes a quote is written twice and nothing else is special.
Between double quotes a backslash starts an escape.  Gaps that go over a line end
are folded, and a document marker at the start of a line is a fault.

A block scalar takes whole lines of one indentation, which its first line shows
or its header states.  A literal scalar keeps the line ends; a folded one joins
lines that start with no blank.  The header also says what becomes of the line
ends after the last line.
-/

namespace LinkTemplate.Yaml

/-! ### Plain scalars -/

namespace Plain

/-- Punctuation of flow collections. -/
def isFlowMark (c : Char) : Bool := c = ',' || c = '[' || c = ']' || c = '{' || c = '}'

/-- The word at the start of a text; none if a flow collection has a `:` directly in front of its
punctuation. -/
def readWord (flow : Bool) : Text → Option Text
  | [] => some []
  | c :: rest =>
    if isBlank c || isBreak c then some []
    else if flow && c = ':' && (rest.take 1).any (fun d => isFlowMark d || d = '?') then none
    else if (c = ':' && endsWord rest) || (flow && isFlowMark c) then some []
    else (readWord flow rest).map (c :: ·)

/-- A scalar that was read. -/
structure Result where
  text : Text
  rest : Text
  /-- The scalar was ended by something at the start of a line. -/
  broken : Bool

/-- Reads on after `text` and a gap.  `indent` is the least column of a line that continues the
scalar. -/
def readFrom (flow : Bool) (indent : Int) : Nat → Text → Gap → Text → Option Result
  | 0, _, _, _ => none
  | fuel + 1, text, gap, t =>
    let ended : Result := ⟨text, t, gap.isBroken⟩
    if gap.atLineStart && isMarker t then some ended
    else if t.head? = some '#' then some ended
    else do
      let word ← readWord flow t
      if word.isEmpty then return ended
      let text := text ++ gap.text ++ word
      let rest := t.drop word.length
      match rest with
      | [] => return ⟨text, rest, false⟩
      | c :: _ =>
        if isBlank c || isBreak c then
          let (gap, rest) := Gap.read rest
          if gap.tab?.any fun column => (column : Int) < indent then none
          else if gap.isBroken && !flow && (gap.column : Int) < indent then
            return ⟨text, rest, true⟩
          else readFrom flow indent fuel text gap rest
        else return ⟨text, rest, false⟩

/-- Reads the plain scalar at the start of a text. -/
def read (flow : Bool) (indent : Int) (t : Text) : Option Result :=
  readFrom flow indent (t.length + 1) [] Gap.none t

end Plain

/-! ### Quoted scalars -/

namespace Quoted

/-- The character that a one-letter escape stands for. -/
def simpleEscape? (c : Char) : Option Char :=
  match c with
  | '0' => some '\x00'
  | 'a' => some '\x07'
  | 'b' => some '\x08'
  | 't' | '\t' => some '\t'
  | 'n' => some '\n'
  | 'v' => some '\x0b'
  | 'f' => some '\x0c'
  | 'r' => some '\r'
  | 'e' => some '\x1b'
  | ' ' => some ' '
  | '"' => some '"'
  | '/' => some '/'
  | '\\' => some '\\'
  | 'N' => some '\u0085'
  | '_' => some '\u00a0'
  | 'L' => some '\u2028'
  | 'P' => some '\u2029'
  | _ => none

/-- The number of hexadecimal digits of a numeric escape. -/
def escapeLength? (c : Char) : Option Nat :=
  match c with
  | 'x' => some 2
  | 'u' => some 4
  | 'U' => some 8
  | _ => none

/-- Reads what follows a backslash within a line. -/
def readEscape : Text → Option (Char × Text)
  | [] => none
  | c :: rest =>
    match simpleEscape? c with
    | some d => some (d, rest)
    | none => do
      let length ← escapeLength? c
      let digits := rest.take length
      if digits.length < length then none
      else
        let code ← Text.natOfDigits? 16 digits
        if code.isValidChar then some (Char.ofNat code, rest.drop length) else none

/-- Reads on up to the closing quote.  `lineStart` says that `t` starts a line. -/
def readFrom (double : Bool) : Nat → Bool → Text → Option (Text × Text)
  | 0, _, _ => none
  | fuel + 1, lineStart, t =>
    if lineStart && isMarker t then none
    else
      let append (s : Text) (lineStart : Bool) (rest : Text) : Option (Text × Text) :=
        (readFrom double fuel lineStart rest).map fun (more, rest) => (s ++ more, rest)
      match t with
      | [] => none
      | c :: rest =>
        if isBlank c || isBreak c then
          let (gap, rest) := Gap.read t
          append gap.text gap.atLineStart rest
        else if c = '\'' && !double then
          match rest with
          | '\'' :: rest => append ['\''] false rest
          | rest => some ([], rest)
        else if c = '"' && double then some ([], rest)
        else if c = '\\' && double then
          match readBreak? rest with
          | some (_, rest) =>
            let (gap, rest) := Gap.readLines Gap.none rest
            append gap.breaks (gap.column == 0) rest
          | none =>
            match readEscape rest with
            | some (d, rest) => append [d] false rest
            | none => none
        else append [c] false rest

/-- Reads a scalar whose opening quote was read. -/
def read (double : Bool) (t : Text) : Option (Text × Text) :=
  readFrom double (t.length + 1) false t

end Quoted

/-! ### Block scalars -/

namespace Block

/-- What becomes of the line ends after the last line. -/
inductive Chomping where
  /-- All are dropped. -/
  | strip
  /-- The first is kept. -/
  | clip
  /-- All are kept. -/
  | keep
deriving DecidableEq, Repr

/-- The header of a block scalar; the increment is the indentation beyond that of the surrounding
block, if it is stated. -/
structure Header where
  chomping : Chomping
  increment? : Option Nat
deriving DecidableEq, Repr

/-- Reads a chomping indicator, if there is one. -/
def readChomping? : Text → Option (Chomping × Text)
  | '+' :: rest => some (.keep, rest)
  | '-' :: rest => some (.strip, rest)
  | _ => none

/-- Reads an indentation indicator, if there is one; zero is a fault. -/
def readIncrement : Text → Option (Option Nat × Text)
  | c :: rest =>
    if c = '0' then none
    else if c.isDigit then some (some (c.toNat - '0'.toNat), rest)
    else some (none, c :: rest)
  | [] => some (none, [])

/-- Reads the two indicators, which may stand in either order. -/
def readIndicators (t : Text) : Option (Header × Text) :=
  match readChomping? t with
  | some (chomping, rest) => do
    let (increment?, rest) ← readIncrement rest
    return (⟨chomping, increment?⟩, rest)
  | none => do
    let (increment?, rest) ← readIncrement t
    match increment?, readChomping? rest with
    | some _, some (chomping, rest) => return (⟨chomping, increment?⟩, rest)
    | _, _ => return (⟨.clip, increment?⟩, rest)

/-- Reads the rest of the first line, which may hold the indicators and a comment. -/
def readHeader (t : Text) : Option (Header × Text) := do
  let (header, rest) ← readIndicators t
  return (header, ← endLine? rest)

/-- The empty lines in front of a line, and where that line starts. -/
structure Lead where
  breaks : Text
  /-- The blanks eaten in front of the line. -/
  column : Nat
  /-- The most blanks eaten in front of any of the lines. -/
  widest : Nat
  rest : Text

/-- Reads empty lines, eating at most `limit?` blanks of each, and the blanks of the line after
them; a tab among them is a fault. -/
def readLead (limit? : Option Nat) : Nat → Text → Nat → Text → Option Lead
  | 0, _, _, _ => none
  | fuel + 1, breaks, widest, t =>
    let spaces := (t.takeWhile (· = ' ')).length
    let column := limit?.elim spaces (min spaces)
    let rest := t.drop column
    let widest := max widest column
    if rest.head? = some '\t' && limit?.all (column < ·) then none
    else
      match readBreak? rest with
      | some (b, rest) => readLead limit? fuel (breaks ++ [b]) widest rest
      | none => some ⟨breaks, column, widest, rest⟩

/-- What was read of a scalar: its text, then the end of its last line and the empty lines after
it. -/
structure Lines where
  text : Text
  lineEnd : Text
  trailing : Text
  rest : Text

/-- Reads the lines of the scalar.  `startsBlank` says that the line before started with a blank. -/
def readLines (literal : Bool) (indent : Nat) : Nat → Bool → Lines → Nat → Option Lines
  | 0, _, _, _ => none
  | fuel + 1, startsBlank, lines, column =>
    match lines.rest with
    | [] => some lines
    | c :: _ =>
      if column ≠ indent then some lines
      else do
        let blank := isBlank c
        let joined :=
          if !literal && lines.lineEnd = ['\n'] && !startsBlank && !blank then
            if lines.trailing.isEmpty then [' '] else []
          else lines.lineEnd
        let line := lines.rest.takeWhile fun d => !isBreak d
        let rest := skipLine lines.rest
        let (lineEnd, rest) : Text × Text :=
          match readBreak? rest with
          | some (b, rest) => ([b], rest)
          | none => ([], rest)
        let lead ← readLead (some indent) (rest.length + 1) [] 0 rest
        readLines literal indent fuel blank
          ⟨lines.text ++ joined ++ lines.trailing ++ line, lineEnd, lead.breaks, lead.rest⟩
          lead.column

/-- Reads a block scalar whose indicator was read; `outer` is the indentation of the surrounding
block, negative at the top. -/
def read (literal : Bool) (outer : Int) (t : Text) : Option (Text × Text) := do
  let (header, rest) ← readHeader t
  let stated? : Option Nat := header.increment?.map fun n => (max outer 0).toNat + n
  let lead ← readLead stated? (rest.length + 1) [] 0 rest
  let indent := stated?.getD (max lead.widest (max (outer + 1) 1).toNat)
  let lines ← readLines literal indent (lead.rest.length + 1) false
    ⟨[], [], lead.breaks, lead.rest⟩ lead.column
  let tail :=
    match header.chomping with
    | .strip => []
    | .clip => lines.lineEnd
    | .keep => lines.lineEnd ++ lines.trailing
  return (lines.text ++ tail, lines.rest)

end Block

end LinkTemplate.Yaml
