import LinkTemplate.Encoder
import LinkTemplate.Main.Url.Domain
/-!
# Absolute URLs

Which texts are a URL by themselves, without a base to resolve them against.  The
library leaves this to another one; `isAbsolute` is the answer that the program runs
with.  It does not bring host names into normal form, and its tables of marks and
directions are those of Unicode 14, so for host names beyond ASCII its answers are not
always those of the standard.

Only the scheme and the authority can be at fault; path, query and fragment may be
anything.  For the special schemes any number of slashes and backslashes may stand in
front of the host, and there must be a host; only the host of a file may be missing.

The host of a URL with a special scheme is a domain name or an address; it is
percent-decoded first.  Other schemes have opaque hosts, in which only some
characters are forbidden.

An IPv4 address has up to four numbers, each decimal, octal (leading `0`) or hexadecimal
(leading `0x`); the last one fills all bytes that are left.  An IPv6 address stands in
brackets and has eight groups, of which `::` stands for any number of zeros, and may end
in four decimal bytes.
-/

namespace LinkTemplate.Url

/-! ### Numeric addresses -/

namespace Ipv4

/-- The value of a number of an address. -/
def number? (t : Text) : Option Nat :=
  match t with
  | ['0'] => some 0
  | ['0', 'x'] | ['0', 'X'] => some 0
  | '0' :: 'x' :: digits | '0' :: 'X' :: digits => Text.natOfDigits? 16 digits
  | '0' :: digits => Text.natOfDigits? 8 digits
  | digits => Text.natOfDigits? 10 digits

/-- The parts of a host, without the empty one after a final point. -/
def parts (host : Text) : List Text :=
  let parts := host.splitOn '.'
  if parts.length > 1 && parts.getLast? = some [] then parts.dropLast else parts

/-- A host whose last part is a number is meant as an address. -/
def isMeant (host : Text) : Bool :=
  match (parts host).getLast? with
  | none => false
  | some part => (!part.isEmpty && part.all Char.isDigit) || (number? part).isSome

/-- The host is an address. -/
def isValid (host : Text) : Bool :=
  let parts := parts host
  match parts.mapM number? with
  | none => false
  | some numbers =>
    match numbers.getLast? with
    | none => false
    | some last =>
      let leading := numbers.dropLast
      numbers.length ≤ 4 && leading.all (· < 256) && last < Nat.pow 256 (4 - leading.length)

end Ipv4

namespace Ipv6

/-- A decimal byte without leading zeros, and the text after it. -/
def readByte? (t : Text) : Option Text :=
  let digits := t.takeWhile Char.isDigit
  match Text.natOfDigits? 10 digits with
  | none => none
  | some n =>
    if 255 < n || (digits.head? = some '0' && digits.length > 1) then none
    else some (t.dropWhile Char.isDigit)

/-- The text is `n + 1` bytes with points between them. -/
def isBytes : Nat → Text → Bool
  | 0, t => readByte? t = some []
  | n + 1, t =>
    match readByte? t with
    | some ('.' :: rest) => isBytes n rest
    | _ => false

/-- The characters of one group. -/
def groupDigits (t : Text) : Text := (t.take 4).takeWhile fun c => (Text.hexDigitValue? c).isSome

/-- The groups from here on make up an address of which `count` groups precede; `compressed` says
that `::` was among them.  Each step takes up some text. -/
def isGroups : Nat → Nat → Bool → Text → Bool
  | 0, _, _, _ => false
  | _ + 1, count, compressed, [] => compressed || count == 8
  | fuel + 1, count, compressed, c :: t =>
    if count == 8 then false
    else if c = ':' then !compressed && isGroups fuel (count + 1) true t
    else
      let digits := groupDigits (c :: t)
      match (c :: t).drop digits.length with
      | [] => !digits.isEmpty && isGroups fuel (count + 1) compressed []
      | ':' :: rest => !digits.isEmpty && !rest.isEmpty && isGroups fuel (count + 1) compressed rest
      | '.' :: _ =>
        !digits.isEmpty && count ≤ 6 && (compressed || count == 6) && isBytes 3 (c :: t)
      | _ => false

/-- The text between the brackets is an address. -/
def isValid (t : Text) : Bool :=
  match t with
  | ':' :: ':' :: rest => isGroups (rest.length + 1) 1 true rest
  | ':' :: _ => false
  | t => 2 ≤ t.length && isGroups (t.length + 1) 0 false t

end Ipv6

/-! ### Hosts -/

namespace Host

/-- The text between brackets, if the text begins with one; its last character must then be the
other. -/
def bracketed? : Text → Option (Option Text)
  | '[' :: rest => some (if rest.getLast? = some ']' then some rest.dropLast else none)
  | _ => none

/-- The host of a URL with a special scheme is valid. -/
def isSpecial (t : Text) : Bool :=
  match bracketed? t with
  | some address? => address?.any Ipv6.isValid
  | none =>
    match (Text.ofBytes? (Encoder.percentDecode t)).bind Domain.normalize? with
    | none => false
    | some name => !name.isEmpty && (!Ipv4.isMeant name || Ipv4.isValid name)

/-- Characters that no opaque host holds. -/
def isForbidden (c : Char) : Bool := "\x00\t\n\r #/:<>?@[\\]^|".toList.contains c

/-- The host of a URL with any other scheme is valid. -/
def isOpaque (t : Text) : Bool :=
  match bracketed? t with
  | some address? => address?.any Ipv6.isValid
  | none => !t.any isForbidden

end Host

/-! ### URLs -/

/-- The text without control characters and blanks around it, and without tabs and line ends. -/
def clean (t : Text) : Text :=
  let trim (t : Text) := t.dropWhile (· ≤ ' ')
  ((trim (trim t).reverse).reverse).filter fun c => c ≠ '\t' && c ≠ '\n' && c ≠ '\r'

/-- The scheme in lower case, and the text after its colon. -/
def scheme? (t : Text) : Option (Text × Text) :=
  match Text.cutAt ':' t with
  | none => none
  | some (scheme, rest) =>
    let isLater (c : Char) := c.isAlphanum || c = '+' || c = '-' || c = '.'
    if scheme.head?.any Char.isAlpha && scheme.all isLater then some (scheme.map Char.toLower, rest)
    else none

/-- The special schemes but that of files. -/
def specialSchemes : List Text :=
  ["http".toList, "https".toList, "ws".toList, "wss".toList, "ftp".toList]

/-- Slashes of either direction. -/
def isSlash (c : Char) : Bool := c = '/' || c = '\\'

/-- An authority ends in front of this character. -/
def endsAuthority (special : Bool) (c : Char) : Bool :=
  c = '/' || c = '?' || c = '#' || (special && c = '\\')

/-- The host at the start of a text, and the text from the colon after it on.  A colon between
brackets is part of the host. -/
def splitHost : Bool → Text → Text × Text
  | _, [] => ([], [])
  | inside, c :: rest =>
    if c = ':' && !inside then ([], c :: rest)
    else
      let inside := if c = '[' then true else if c = ']' then false else inside
      let (host, number) := splitHost inside rest
      (c :: host, number)

/-- What follows the host: nothing, or a colon and a number below 65536, which may be missing. -/
def isPortNumber : Text → Bool
  | [] => true
  | _ :: t =>
    let digits := t.takeWhile fun c => c ≠ '\\'
    digits.all Char.isDigit && (digits.isEmpty || (Text.natOfDigits? 10 digits).any (· < 65536))

/-- The parts of an authority in front of and after its last `@`. -/
def splitUser (authority : Text) : Option Text × Text :=
  let host := (authority.reverse.takeWhile (· ≠ '@')).reverse
  if host.length = authority.length then (none, authority)
  else (some (authority.take (authority.length - host.length - 1)), host)

/-- The authority at the start of a text is valid. -/
def hasAuthority (special : Bool) (t : Text) : Bool :=
  let authority := t.takeWhile fun c => !endsAuthority special c
  let ended := authority.length < t.length
  let (user?, location) := splitUser authority
  let (host, number) := splitHost false location
  -- An empty user name stands for no user, but then something has to follow it.
  if user? = some [] && location.isEmpty && ended then false
  else if host.isEmpty then !special && number.isEmpty && !user?.any (fun u => u ≠ [] && u ≠ [':'])
  else (if special then Host.isSpecial host else Host.isOpaque host) && isPortNumber number

/-- A letter and a colon or bar, which name a drive and not a host. -/
def isDrive : Text → Bool
  | [letter, c] => letter.isAlpha && (c = ':' || c = '|')
  | _ => false

/-- What follows the scheme of files is valid. -/
def isFile : Text → Bool
  | a :: b :: rest =>
    if isSlash a && isSlash b then
      let host := rest.takeWhile fun c => !endsAuthority true c
      host.isEmpty || isDrive host || Host.isSpecial host
    else true
  | _ => true

/-- The text is an absolute URL. -/
def isAbsolute (t : Text) : Bool :=
  match scheme? (clean t) with
  | none => false
  | some (scheme, rest) =>
    if scheme = "file".toList then isFile rest
    else if specialSchemes.contains scheme then hasAuthority true (rest.dropWhile isSlash)
    else
      match rest with
      | '/' :: '/' :: rest => hasAuthority false rest
      | _ => true

end LinkTemplate.Url
