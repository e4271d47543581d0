import LinkTemplate.Error
import LinkTemplate.Json
/-!
# Reading JSON

Readers take the text at which they start and return what they read together
with the text after it.  They stop at the first fault in reading order: a text
that ends inside a value is `truncated`, any other departure from the grammar is
`malformed`.

A number without fraction and exponent that fits 64 bits is read exactly.  Any
other number is read in two roundings: its leading digits, as many as fit 64
bits, and the power of ten that scales them.  A number too large for the binary
format is malformed, and so is nesting beyond `maxDepth`.
-/

namespace LinkTemplate.Json

/-- What a reader returns. -/
abbrev Reading (α : Type) := Except JsonFault (α × Text)

/-- Blanks between the parts of a document. -/
def isBlank (c : Char) : Bool := c = ' ' || c = '\t' || c = '\n' || c = '\r'

/-- The text from its first non-blank character on. -/
def skipBlank (t : Text) : Text := t.dropWhile isBlank

/-! ### Strings -/

/-- Reads four hexadecimal digits; that fewer than four bytes are left is found out first. -/
def readHex4 (t : Text) : Reading Nat :=
  match t with
  | a :: b :: c :: d :: rest =>
    match Text.natOfDigits? 16 [a, b, c, d] with
    | some n => .ok (n, rest)
    | none => .error .malformed
  | t => .error (if t.byteLength < 4 then .truncated else .malformed)

/-- The character with a code point that is no surrogate. -/
def charOfCode (n : Nat) : Char := Char.ofNat n

/-- Reads the second half of a surrogate pair, of which `high` is the first. -/
def readLowSurrogate (high : Nat) : Text → Reading Char
  | [] => .error .truncated
  | ['\\'] => .error .truncated
  | '\\' :: 'u' :: rest =>
    match readHex4 rest with
    | .error fault => .error fault
    | .ok (low, rest) =>
      if 0xDC00 ≤ low ∧ low ≤ 0xDFFF then
        .ok (charOfCode (0x10000 + (high - 0xD800) * 0x400 + (low - 0xDC00)), rest)
      else .error .malformed
  | _ => .error .malformed

/-- Reads the digits of a `\u` escape; a code point beyond the first plane takes two escapes. -/
def readUnicodeEscape (t : Text) : Reading Char :=
  match readHex4 t with
  | .error fault => .error fault
  | .ok (n, rest) =>
    if 0xDC00 ≤ n ∧ n ≤ 0xDFFF then .error .malformed
    else if 0xD800 ≤ n ∧ n ≤ 0xDBFF then readLowSurrogate n rest
    else .ok (charOfCode n, rest)

/-- The character that a one-letter escape stands for. -/
def simpleEscape? (c : Char) : Option Char :=
  if c = '"' ∨ c = '\\' ∨ c = '/' then some c
  else if c = 'b' then some '\x08'
  else if c = 'f' then some '\x0c'
  else if c = 'n' then some '\n'
  else if c = 'r' then some '\r'
  else if c = 't' then some '\t'
  else none

/-- Reads what follows a backslash. -/
def readEscape : Text → Reading Char
  | [] => .error .truncated
  | c :: rest =>
    if c = 'u' then readUnicodeEscape rest
    else
      match simpleEscape? c with
      | some d => .ok (d, rest)
      | none => .error .malformed

theorem length_lt_of_readHex4 {t rest : Text} {n : Nat} (h : readHex4 t = .ok (n, rest)) :
    rest.length < t.length := by
  unfold readHex4 at h
  split at h
  · split at h
    · cases h
      simp
      omega
    · cases h
  · cases h

theorem length_lt_of_readLowSurrogate {t rest : Text} {high : Nat} {c : Char}
    (h : readLowSurrogate high t = .ok (c, rest)) : rest.length < t.length := by
  unfold readLowSurrogate at h
  split at h
  · cases h
  · cases h
  · split at h
    · cases h
    · rename_i hread
      have := length_lt_of_readHex4 hread
      split at h
      · simp only [Except.ok.injEq, Prod.mk.injEq] at h
        rw [← h.2]
        simp
        omega
      · cases h
  · cases h

theorem length_lt_of_readUnicodeEscape {t rest : Text} {c : Char}
    (h : readUnicodeEscape t = .ok (c, rest)) : rest.length < t.length := by
  unfold readUnicodeEscape at h
  split at h
  · cases h
  · rename_i hread
    have hlt := length_lt_of_readHex4 hread
    split at h
    · cases h
    · split at h
      · exact Nat.lt_trans (length_lt_of_readLowSurrogate h) hlt
      · simp only [Except.ok.injEq, Prod.mk.injEq] at h
        rw [← h.2]
        exact hlt

/-- An escape takes up some text. -/
theorem length_lt_of_readEscape {t rest : Text} {c : Char} (h : readEscape t = .ok (c, rest)) :
    rest.length < t.length := by
  unfold readEscape at h
  split at h
  · cases h
  · split at h
    · have := length_lt_of_readUnicodeEscape h
      simp
      omega
    · split at h
      · cases h
        simp
      · cases h

/-- Reads the rest of a string whose opening quote was read. -/
def readString (t : Text) : Reading Text :=
  match t with
  | [] => .error .truncated
  | c :: rest =>
    if c = '"' then .ok ([], rest)
    else if c = '\\' then
      match h : readEscape rest with
      | .error fault => .error fault
      | .ok (d, after) =>
        have := length_lt_of_readEscape h
        (readString after).map fun (s, rest) => (d :: s, rest)
    else if c < ' ' then .error .malformed
    else (readString rest).map fun (s, rest) => (c :: s, rest)
termination_by t.length

/-! ### Numbers -/

/-- The value of a decimal digit. -/
def digitValue (c : Char) : Nat := c.toNat - '0'.toNat

/-- Appends digits to a number as long as it fits 64 bits; the result comes with the count of digits
taken. -/
def takeDigits : Nat → Text → Nat × Nat
  | n, [] => (n, 0)
  | n, c :: digits =>
    let n' := n * 10 + digitValue c
    if n' < Nat.pow 2 64 then
      let (m, taken) := takeDigits n' digits
      (m, taken + 1)
    else (n, 0)

/-- Scales `significand` by a power of ten, one rounding for the significand and one for each
scaling step; a step spans at most 308 decimal places.  None if the result is too large. -/
def scaleDecimal (significand : Magnitude) (exponent : Int) : Option Magnitude :=
  if exponent.natAbs ≤ 308 then do
    let power ← Magnitude.powerOfTen? exponent.natAbs
    if 0 ≤ exponent then significand.mul? power else significand.div? power
  else if significand.mantissa = 0 then some significand
  else if 0 ≤ exponent then none
  else do
    let power ← Magnitude.powerOfTen? 308
    scaleDecimal (← significand.div? power) (exponent + 308)
termination_by exponent.natAbs
decreasing_by omega

/-- The binary value of `significand * 10 ^ exponent`. -/
def realOfParts (negative : Bool) (significand : Nat) (exponent : Int) :
    Except JsonFault Number :=
  match (Magnitude.ofRatio? significand 1).bind fun m => scaleDecimal m exponent with
  | some m => .ok (.real (.finite negative m))
  | none => .error .malformed

/-- The number of an integer literal. -/
def integerOfParts (negative : Bool) (n : Nat) : Number :=
  if !negative then .integer n
  else if n = 0 ∨ Nat.pow 2 63 < n then
    match Magnitude.ofRatio? n 1 with
    | some m => .real (.finite true m)
    | none => .real (.infinite true)
  else .integer (-(n : Int))

/-- The largest exponent that is taken at its value. -/
def maxExponent : Nat := Nat.pow 2 31 - 1

/-- Reads the digits of an exponent, its letter having been read, and scales the significand. -/
def readExponent (negative : Bool) (significand : Nat) (shift : Int) (t : Text) :
    Reading Number :=
  let (down, t) :=
    match t with
    | '+' :: rest => (false, rest)
    | '-' :: rest => (true, rest)
    | _ => (false, t)
  match t with
  | [] => .error .truncated
  | c :: _ =>
    if c.isDigit then
      let digits := t.takeWhile Char.isDigit
      let rest := t.dropWhile Char.isDigit
      let n := digits.foldl (fun n c => n * 10 + digitValue c) 0
      if maxExponent < n then
        if significand ≠ 0 ∧ !down then .error .malformed
        else .ok (.real (.finite negative .zero), rest)
      else
        let exponent : Int := if down then shift - n else shift + n
        (realOfParts negative significand exponent).map fun x => (x, rest)
    else .error .malformed

/-- An exponent begins with `e` of either case. -/
def isExponentMark (c : Char) : Bool := c = 'e' || c = 'E'

/-- Reads what follows the digits in front of the point.  `dropped` is the number of those digits
that are not in `significand`. -/
def readTail (negative : Bool) (significand dropped : Nat) (t : Text) : Reading Number :=
  match t with
  | '.' :: fraction =>
    let digits := fraction.takeWhile Char.isDigit
    let rest := fraction.dropWhile Char.isDigit
    if digits.isEmpty then .error (if rest.isEmpty then .truncated else .malformed)
    else
      let (significand, taken) := takeDigits significand digits
      let shift : Int := dropped - taken
      match rest with
      | c :: after =>
        if isExponentMark c then readExponent negative significand shift after
        else (realOfParts negative significand shift).map fun x => (x, rest)
      | [] => (realOfParts negative significand shift).map fun x => (x, rest)
  | c :: after =>
    if isExponentMark c then readExponent negative significand dropped after
    else if dropped = 0 then .ok (integerOfParts negative significand, t)
    else (realOfParts negative significand dropped).map fun x => (x, t)
  | [] =>
    if dropped = 0 then .ok (integerOfParts negative significand, t)
    else (realOfParts negative significand dropped).map fun x => (x, t)

/-- Reads a number after its sign.  A leading zero stands alone. -/
def readUnsigned (negative : Bool) (t : Text) : Reading Number :=
  match t with
  | [] => .error .truncated
  | c :: rest =>
    if c = '0' then
      match rest with
      | d :: _ => if d.isDigit then .error .malformed else readTail negative 0 0 rest
      | [] => readTail negative 0 0 rest
    else if c.isDigit then
      let digits := t.takeWhile Char.isDigit
      let (significand, taken) := takeDigits 0 digits
      readTail negative significand (digits.length - taken) (t.dropWhile Char.isDigit)
    else .error .malformed

/-! ### Values -/

/-- Reads the rest of a keyword. -/
def readWord (word : Text) (value : Json) (t : Text) : Reading Json :=
  match word, t with
  | [], t => .ok (value, t)
  | _ :: _, [] => .error .truncated
  | c :: word, d :: t => if c = d then readWord word value t else .error .malformed

/-- Reads items with commas between them up to the closing bracket. -/
def readSequence {α : Type} (closing : Char) (item : Text → Reading α) :
    Nat → Text → Reading (List α)
  | 0, _ => .error .truncated
  | fuel + 1, t =>
    match item t with
    | .error fault => .error fault
    | .ok (x, rest) =>
      match skipBlank rest with
      | [] => .error .truncated
      | c :: rest =>
        if c = closing then .ok ([x], rest)
        else if c = ',' then (readSequence closing item fuel rest).map fun (xs, t) => (x :: xs, t)
        else .error .malformed

/-- Reads what follows an opening bracket.  Each item takes up some text, so there are no more of
them than characters. -/
def readEnclosed {α : Type} (closing : Char) (item : Text → Reading α) (t : Text) :
    Reading (List α) :=
  match skipBlank t with
  | [] => .error .truncated
  | c :: rest =>
    if c = closing then .ok ([], rest) else readSequence closing item (rest.length + 1) (c :: rest)

/-- Reads a member of an object: a name, a colon and a value. -/
def readMember {α : Type} (value : Text → Reading α) (t : Text) : Reading (Text × α) :=
  match skipBlank t with
  | [] => .error .truncated
  | '"' :: rest =>
    match readString rest with
    | .error fault => .error fault
    | .ok (name, rest) =>
      match skipBlank rest with
      | [] => .error .truncated
      | ':' :: rest => (value rest).map fun (x, rest) => ((name, x), rest)
      | _ :: _ => .error .malformed
  | _ :: _ => .error .malformed

/-- Reads a value in which arrays and objects are nested at most `depth` deep. -/
def readValue (depth : Nat) (t : Text) : Reading Json :=
  match skipBlank t with
  | [] => .error .truncated
  | c :: rest =>
    if c = '"' then (readString rest).map fun (s, rest) => (string s, rest)
    else if c = '[' then
      match depth with
      | 0 => .error .malformed
      | depth + 1 =>
        (readEnclosed ']' (readValue depth) rest).map fun (items, rest) => (array items, rest)
    else if c = '{' then
      match depth with
      | 0 => .error .malformed
      | depth + 1 =>
        (readEnclosed '}' (readMember (readValue depth)) rest).map
          fun (members, rest) => (object members, rest)
    else if c = 'n' then readWord ['u', 'l', 'l'] null rest
    else if c = 't' then readWord ['r', 'u', 'e'] (bool true) rest
    else if c = 'f' then readWord ['a', 'l', 's', 'e'] (bool false) rest
    else if c = '-' then (readUnsigned true rest).map fun (n, rest) => (number n, rest)
    else if c.isDigit then (readUnsigned false (c :: rest)).map fun (n, rest) => (number n, rest)
    else .error .malformed
termination_by structural depth

/-- Arrays and objects nest at most this deep in a document. -/
def maxDepth : Nat := 127

/-- The document ends here, blanks apart. -/
def expectEnd {α : Type} (x : α) (t : Text) : Except JsonFault α :=
  if (skipBlank t).isEmpty then .ok x else .error .malformed

end LinkTemplate.Json
