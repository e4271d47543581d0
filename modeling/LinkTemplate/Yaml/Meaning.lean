import LinkTemplate.Number
import LinkTemplate.Yaml.Token
/-!
# What scalars mean

A plain scalar without a tag is null, a boolean, a number or a text, tried in
this order.  An integer that fits 128 bits but not 64 is a number that no reader
takes; a larger one is the binary value nearest to it.  Decimal digits with a
leading zero are a text.

A tag of a basic type demands that type; any other tag that does not start with
`!` makes a scalar a text.
-/

namespace LinkTemplate.Yaml

/-- What a scalar means. -/
inductive Meaning where
  | null
  | bool (b : Bool)
  | number (n : Number)
  /-- An integer too wide for every reader. -/
  | wide
  | text (t : Text)
deriving DecidableEq, Repr

namespace Meaning

/-- The words for null. -/
def isNull (t : Text) : Bool :=
  ["~".toList, "null".toList, "Null".toList, "NULL".toList].contains t

/-- The words for the booleans. -/
def bool? (t : Text) : Option Bool :=
  if ["true".toList, "True".toList, "TRUE".toList].contains t then some true
  else if ["false".toList, "False".toList, "FALSE".toList].contains t then some false
  else none

/-- Digits with a leading zero, after one sign. -/
def isZeroPadded (t : Text) : Bool :=
  match t with
  | '-' :: rest | '+' :: rest => padded rest
  | t => padded t
where
  padded : Text → Bool
    | '0' :: d :: rest => (d :: rest).all Char.isDigit
    | _ => false

/-- The value of digits after a base marker. -/
def basedNat? : Text → Option Nat
  | '0' :: 'x' :: digits => Text.natOfDigits? 16 digits
  | '0' :: 'o' :: digits => Text.natOfDigits? 8 digits
  | '0' :: 'b' :: digits => Text.natOfDigits? 2 digits
  | _ => none

/-- The value of an integer literal: a sign, then digits or a base marker and digits. -/
def int? (t : Text) : Option Int :=
  let (negative, digits) :=
    match t with
    | '-' :: rest => (true, rest)
    | '+' :: rest => (false, rest)
    | t => (false, t)
  let magnitude? := (basedNat? digits).orElse fun _ =>
    if isZeroPadded t then none else Text.natOfDigits? 10 digits
  magnitude?.map fun n => if negative then -(n : Int) else n

/-- The meaning of an integer, if it fits 128 bits. -/
def ofInt? (n : Int) : Option Meaning :=
  if Number.fitsSigned 64 n || Number.fitsUnsigned 64 n then some (number (.integer n))
  else if Number.fitsSigned 128 n || Number.fitsUnsigned 128 n then some wide
  else none

/-- The parts of a decimal literal: its digits as a number, and the power of ten that scales them.
There is at least one digit, and one after an exponent mark. -/
def decimal? (t : Text) : Option (Nat × Int) := do
  let whole := t.takeWhile Char.isDigit
  let rest := t.dropWhile Char.isDigit
  let (fraction, rest) :=
    match rest with
    | '.' :: rest => (rest.takeWhile Char.isDigit, rest.dropWhile Char.isDigit)
    | rest => ([], rest)
  let digits ← Text.natOfDigits? 10 (whole ++ fraction)
  let shift : Int := -(fraction.length : Int)
  match rest with
  | [] => return (digits, shift)
  | c :: rest =>
    if c = 'e' || c = 'E' then
      match rest with
      | '-' :: rest => return (digits, shift - (← Text.natOfDigits? 10 rest))
      | '+' :: rest => return (digits, shift + (← Text.natOfDigits? 10 rest))
      | rest => return (digits, shift + (← Text.natOfDigits? 10 rest))
    else none

/-- The value of a real literal.  One that is too large for the format is none. -/
def real? (t : Text) : Option Binary64 :=
  let unsigned :=
    match t with
    | '+' :: rest => if rest.head?.any fun c => c = '+' || c = '-' then [] else rest
    | t => t
  if [".inf".toList, ".Inf".toList, ".INF".toList].contains unsigned then some (.infinite false)
  else if ["-.inf".toList, "-.Inf".toList, "-.INF".toList].contains t then some (.infinite true)
  else if [".nan".toList, ".NaN".toList, ".NAN".toList].contains t then some .nan
  else
    let (negative, magnitude) :=
      match unsigned with
      | '-' :: rest => (true, rest)
      | rest => (false, rest)
    (decimal? magnitude).bind fun (digits, exponent) =>
      (Magnitude.ofDecimal? digits exponent).map (.finite negative)

/-- The meaning of a plain scalar without a tag. -/
def ofPlain (t : Text) : Meaning :=
  if t.isEmpty || isNull t then null
  else
    match bool? t with
    | some b => bool b
    | none =>
      match (int? t).bind ofInt? with
      | some m => m
      | none =>
        if isZeroPadded t then text t
        else
          match real? t with
          | some x => number (.real x)
          | none => text t

/-- The meaning of a scalar; none if it does not have the type that its tag demands, or if the tag
starts with `!`. -/
def ofScalar? (tag? : Option Text) (plain : Bool) (t : Text) : Option Meaning :=
  match tag? with
  | none => some (if plain then ofPlain t else text t)
  | some tag =>
    if tag.head? = some '!' then none
    else if tag = Tag.core ++ "bool".toList then (bool? t).map bool
    else if tag = Tag.core ++ "int".toList then (int? t).bind ofInt?
    else if tag = Tag.core ++ "float".toList then (real? t).map fun x => number (.real x)
    else if tag = Tag.core ++ "null".toList then if isNull t then some null else none
    else some (text t)

/-- The text of a boolean, a number or a text. -/
def toText? : Meaning → Option Text
  | bool b => some (if b then "true".toList else "false".toList)
  | number n => some n.toText
  | text t => some t
  | null | wide => none

end Meaning

end LinkTemplate.Yaml
