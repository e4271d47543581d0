import LinkTemplate.Text
/-!
# Encoders

An encoder turns a raw value into the text that is substituted for it.  Percent
encoding is the default: it works on the UTF-8 bytes of the value, keeps the
unreserved characters of a URI and writes every other byte as `%XX`.  Its
decoder stands beside it.
-/

namespace LinkTemplate

/-- The form in which a value is substituted. -/
abbrev Encoder := Text → Text

namespace Encoder

/-- Values are substituted unchanged. -/
def verbatim : Encoder := id

/-- The unreserved characters of a URI: ASCII letters and digits and four marks. -/
def isUnreserved (c : Char) : Bool :=
  c.isAlphanum || c = '-' || c = '.' || c = '_' || c = '~'

/-- The upper-case hexadecimal digit of a value below 16. -/
def hexDigit (n : Nat) : Char :=
  if n < 10 then Char.ofNat ('0'.toNat + n) else Char.ofNat ('A'.toNat + (n - 10))

/-- A byte as itself if it is an unreserved character, otherwise as `%XX`. -/
def percentByte (b : UInt8) : Text :=
  let c := Char.ofNat b.toNat
  if isUnreserved c then [c]
  else ['%', hexDigit (b.toNat / 16), hexDigit (b.toNat % 16)]

/-- Percent encoding: the UTF-8 bytes of the value one by one. -/
def percent : Encoder := fun value => value.bytes.flatMap percentByte

@[simp] theorem percent_nil : percent [] = [] := rfl

/-- Percent encoding works character by character. -/
@[simp] theorem percent_append (s t : Text) : percent (s ++ t) = percent s ++ percent t := by
  simp [percent]

/-- The bytes that a percent-encoded text stands for: `%XX` is one byte, every other character its
UTF-8 form; a `%` without two hexadecimal digits stands for itself. -/
def percentDecode : Text → List UInt8
  | [] => []
  | '%' :: h :: l :: rest =>
    match Text.hexDigitValue? h, Text.hexDigitValue? l with
    | some high, some low => UInt8.ofNat (high * 16 + low) :: percentDecode rest
    | _, _ => String.utf8EncodeChar '%' ++ percentDecode (h :: l :: rest)
  | c :: rest => String.utf8EncodeChar c ++ percentDecode rest

end Encoder

end LinkTemplate
