import LinkTemplate.Main.Url.Domain.Mapping
/-!
# Domain names

A domain name is mapped character by character and then cut into labels at its
points.  Labels may be empty.  A label that starts with `xn--` stands for the
label that it encodes, which must have characters beyond ASCII and nothing that
would be mapped.  All labels are checked for characters that may not stand where
they do.

In an encoded label the ASCII characters come first, in order; after the last hyphen,
numbers in a mixed base say which character to insert next and where.  The base of each
digit adapts to the numbers read so far.

A domain name with right-to-left characters must read the same in either
direction of the surrounding text.  Each of its labels then has a direction,
which its first character shows, holds no character against it and ends with a
character that belongs to it.

A label does not start with a mark.  The two joiners, which are invisible, stand
only where they change the text: after a virama, and the non-joiner also between
letters that would be joined without it.
-/

namespace LinkTemplate.Url

/-! ### Encoded labels -/

namespace Punycode

/-- The value of a digit. -/
def digitValue? (c : Char) : Option Nat :=
  if 'a' ≤ c ∧ c ≤ 'z' then some (c.toNat - 'a'.toNat)
  else if 'A' ≤ c ∧ c ≤ 'Z' then some (c.toNat - 'A'.toNat)
  else if '0' ≤ c ∧ c ≤ '9' then some (c.toNat - '0'.toNat + 26)
  else none

/-- A digit below this value is the last one of its number. -/
def threshold (k bias : Nat) : Nat :=
  if k ≤ bias then 1 else if bias + 26 ≤ k then 26 else k - bias

/-- Reads a number; `weight` is that of the next digit. -/
def readNumber (bias : Nat) : Nat → Nat → Nat → Text → Option (Nat × Text)
  | _, _, _, [] => none
  | k, weight, n, c :: rest =>
    match digitValue? c with
    | none => none
    | some digit =>
      let n := n + digit * weight
      let t := threshold k bias
      if digit < t then some (n, rest) else readNumber bias (k + 36) (weight * (36 - t)) n rest

/-- Brings a difference into the range of the bias, counting the steps. -/
def adaptSteps (delta k : Nat) : Nat :=
  if 455 < delta then adaptSteps (delta / 35) (k + 36) else k + 36 * delta / (delta + 38)
termination_by delta
decreasing_by omega

/-- The bias after a number, when there are `count` characters. -/
def adapt (delta count : Nat) (first : Bool) : Nat :=
  let delta := if first then delta / 700 else delta / 2
  adaptSteps (delta + delta / count) 0

/-- The state of inserting characters into a label. -/
structure Insertion where
  label : Text
  /-- The code point of the last character that was inserted. -/
  code : Nat
  /-- The place after it. -/
  position : Nat
  bias : Nat
  /-- No character was inserted yet. -/
  first : Bool

/-- Inserts the characters that the rest of the digits describe.  Each takes up a digit. -/
def insertAll : Nat → Insertion → Text → Option Text
  | 0, _, _ => none
  | _ + 1, s, [] => some s.label
  | fuel + 1, s, digits => do
    let (delta, rest) ← readNumber s.bias 36 1 0 digits
    let count := s.label.length + 1
    let code := s.code + (s.position + delta) / count
    let position := (s.position + delta) % count
    if code.isValidChar then
      let label := s.label.take position ++ Char.ofNat code :: s.label.drop position
      insertAll fuel ⟨label, code, position + 1, adapt delta count s.first, false⟩ rest
    else none

/-- The label that a text after `xn--` stands for; the text must be ASCII. -/
def decode? (t : Text) : Option Text :=
  let digits := (t.reverse.takeWhile (· ≠ '-')).reverse
  let basic := t.take (t.length - digits.length - 1)
  if t.any fun c => 0x80 ≤ c.toNat then none
  else if basic.isEmpty then insertAll (t.length + 1) ⟨[], 0x80, 0, 72, true⟩ t
  else insertAll (t.length + 1) ⟨basic, 0x80, 0, 72, true⟩ digits

end Punycode

namespace Domain

/-! ### Direction -/

/-- The directional classes that the rules tell apart. -/
inductive Direction where
  | left
  | right
  | arabicNumber
  | europeanNumber
  | neutral
  | mark
deriving DecidableEq, Repr

/-- Letters that are written from right to left. -/
def rightToLeft : List CodeRange := CodeRange.parseAll "
5be 5c0 5c3 5c6 5d0..5ea 5ef..5f4 608 60b 60d 61b 61d..64a 66d..66f 671..674 679..6d5 6e5..6e6
6ee..6ef 6fa..70d 710 712..72f 74d..7a5 7b1 7c0..7ea 7f4..7f5 7fa 7fe..815 81a 824 828 830..83e
840..858 85e 860..86a 870..88e 8a0..8c9 fbb2..fbc2 fe73 10800..10805 10808 1080a..10835
10837..10838 1083c 1083f..10855 10857..1089e 108a7..108af 108e0..108f2 108f4..108f5 108fb..1091b
10920..10939 1093f 10980..109b7 109bc..109cf 109d2..10a00 10a10..10a13 10a15..10a17 10a19..10a35
10a40..10a48 10a50..10a58 10a60..10a9f 10ac0..10ae4 10aeb..10af6 10b00..10b35 10b40..10b55
10b58..10b72 10b78..10b91 10b99..10b9c 10ba9..10baf 10c00..10c48 10cc0..10cf2 10cfa..10d23
10e80..10ea9 10ead 10eb0..10eb1 10f00..10f27 10f30..10f45 10f51..10f59 10f70..10f81 10f86..10f89
10fb0..10fcb 10fe0..10ff6 1e800..1e8c4 1e8c7..1e8cf 1e922..1e943 1e94b 1e950..1e959 1e95e..1e95f
1ec71..1ecb4 1ed01..1ed3d"

/-- Digits that are used with them. -/
def arabicNumbers : List CodeRange := CodeRange.parseAll "
660..669 66b..66c 10d30..10d39 10e60..10e7e"

/-- Other digits. -/
def europeanNumbers : List CodeRange := CodeRange.parseAll "
30..39 6f0..6f9 102e1..102fb"

/-- Marks that take on the direction of what they are put on. -/
def directionlessMarks : List CodeRange := CodeRange.parseAll "
300..33f 342 346..34e 350..36f 483..489 591..5bd 5bf 5c1..5c2 5c4..5c5 5c7 610..61a 64b..65f 670
6d6..6dc 6df..6e4 6e7..6e8 6ea..6ed 711 730..74a 7a6..7b0 7eb..7f3 7fd 816..819 81b..823
825..827 829..82d 859..85b 898..89f 8ca..8e1 8e3..902 93a 93c 941..948 94d 951..957 962..963 981
9bc 9c1..9c4 9cd 9e2..9e3 9fe a01..a02 a3c a41..a42 a47..a48 a4b..a4d a51 a70..a71 a75 a81..a82
abc ac1..ac5 ac7..ac8 acd ae2..ae3 afa..aff b01 b3c b3f b41..b44 b4d b55..b56 b62..b63 b82 bc0
bcd c00 c04 c3c c3e..c40 c46..c48 c4a..c4d c55..c56 c62..c63 c81 cbc ccc..ccd ce2..ce3 d00..d01
d3b..d3c d41..d44 d4d d62..d63 d81 dca dd2..dd4 dd6 e31 e34..e3a e47..e4e eb1 eb4..ebc ec8..ecd
f18..f19 f35 f37 f39 f71..f72 f74 f7a..f7e f80 f82..f84 f86..f87 f8d..f92 f94..f97 f99..f9c
f9e..fa1 fa3..fa6 fa8..fab fad..fb8 fba..fbc fc6 102d..1030 1032..1037 1039..103a 103d..103e
1058..1059 105e..1060 1071..1074 1082 1085..1086 108d 109d 135d..135f 1712..1714 1732..1733
1752..1753 1772..1773 17b7..17bd 17c6 17c9..17d3 17dd 1885..1886 18a9 1920..1922 1927..1928 1932
1939..193b 1a17..1a18 1a1b 1a56 1a58..1a5e 1a60 1a62 1a65..1a6c 1a73..1a7c 1a7f 1ab0..1ace
1b00..1b03 1b34 1b36..1b3a 1b3c 1b42 1b6b..1b73 1b80..1b81 1ba2..1ba5 1ba8..1ba9 1bab..1bad 1be6
1be8..1be9 1bed 1bef..1bf1 1c2c..1c33 1c36..1c37 1cd0..1cd2 1cd4..1ce0 1ce2..1ce8 1ced 1cf4
1cf8..1cf9 1dc0..1dff 20d0..20f0 2cef..2cf1 2d7f 2de0..2dff 302a..302d 3099..309a a66f..a672
a674..a67d a69e..a69f a6f0..a6f1 a802 a806 a80b a825..a826 a82c a8c4..a8c5 a8e0..a8f1 a8ff
a926..a92d a947..a951 a980..a982 a9b3 a9b6..a9b9 a9bc..a9bd a9e5 aa29..aa2e aa31..aa32
aa35..aa36 aa43 aa4c aa7c aab0 aab2..aab4 aab7..aab8 aabe..aabf aac1 aaec..aaed aaf6 abe5 abe8
abed fb1e fe20..fe2f 101fd 102e0 10376..1037a 10a01..10a03 10a05..10a06 10a0c..10a0f
10a38..10a3a 10a3f 10ae5..10ae6 10d24..10d27 10eab..10eac 10f46..10f50 10f82..10f85 11001
11038..11046 11070 11073..11074 1107f..11081 110b3..110b6 110b9..110ba 110c2 11100..11102
11127..1112b 1112d..11134 11173 11180..11181 111b6..111be 111c9..111cc 111cf 1122f..11231 11234
11236..11237 1123e 112df 112e3..112ea 11300..11301 1133b..1133c 11340 11366..1136c 11370..11374
11438..1143f 11442..11444 11446 1145e 114b3..114b8 114ba 114bf..114c0 114c2..114c3 115b2..115b5
115bc..115bd 115bf..115c0 115dc..115dd 11633..1163a 1163d 1163f..11640 116ab 116ad 116b0..116b5
116b7 1171d..1171f 11722..11725 11727..1172b 1182f..11837 11839..1183a 1193b..1193c 1193e 11943
119d4..119d7 119da..119db 119e0 11a01..11a06 11a09..11a0a 11a33..11a38 11a3b..11a3e 11a47
11a51..11a56 11a59..11a5b 11a8a..11a96 11a98..11a99 11c30..11c36 11c38..11c3d 11c92..11ca7
11caa..11cb0 11cb2..11cb3 11cb5..11cb6 11d31..11d36 11d3a 11d3c..11d3d 11d3f..11d45 11d47
11d90..11d91 11d95 11d97 11ef3..11ef4 16af0..16af4 16b30..16b36 16f4f 16f8f..16f92 16fe4
1bc9d..1bc9e 1cf00..1cf2d 1cf30..1cf46 1d167..1d169 1d17b..1d182 1d185..1d18b 1d1aa..1d1ad
1d242..1d244 1da00..1da36 1da3b..1da6c 1da75 1da84 1da9b..1da9f 1daa1..1daaf 1e000..1e006
1e008..1e018 1e01b..1e021 1e023..1e024 1e026..1e02a 1e130..1e136 1e2ae 1e2ec..1e2ef 1e8d0..1e8d6
1e944..1e94a"

/-- Punctuation and symbols. -/
def neutrals : List CodeRange := CodeRange.parseAll "
0..2f 3a..40 5b..60 7b..7f a1..a7 a9 ab..ac ae b0..b1 b6..b7 bb bf d7 f7 2b9..2ba 2c2..2cf
2d2..2d7 2de..2df 2e5..2ed 2ef..2ff 375 3f6 58a 58d..58f 606..607 609..60a 60c 60e..60f 66a 6de
6e9 7f6..7f9 9f2..9f3 9fb af1 bf3..bfa c78..c7e e3f f3a..f3d 1390..1399 1400 169b..169c 17db
17f0..17f9 1800..180a 1940 1944..1945 19de..19ff 200c..200d 2010 2012..2016 2018..2023 2027
2030..2032 2035 2038..203b 203d 203f..2046 204a..2056 2058..205e 20a0..20a7 20a9..20c0 2104 2108
2114 2117..2118 211e..211f 2123 2125 2127 2129 212e 213a 2141..2144 214a..214d 218a..218b
2190..222b 222e 2231..2328 232b..2335 237b..2394 2396..2426 2440..244a 24eb..26ab 26ad..27ff
2900..2a0b 2a0d..2a73 2a77..2adb 2add..2b73 2b76..2b95 2b97..2bff 2ce5..2cea 2cf9..2cff
2e00..2e5d 2e80..2e99 2e9b..2e9e 2ea0..2ef2 3001 3003..3004 3008..3020 3030 3037 303d..303f 30a0
30fb 31c0..31e3 4dc0..4dff a490..a4c6 a60d..a60f a673 a67e..a67f a700..a721 a788 a828..a82b
a838..a839 a874..a877 ab6a..ab6b fd3e..fd4f fdcf fdfd..fdff fe45..fe46 10101 10140..1018c
10190..1019c 101a0 1091f 10b39..10b3f 11052..11065 11660..1166c 11fd5..11ff1 16fe2 1d1e9..1d1ea
1d200..1d241 1d245 1d300..1d356 1e2ff 1eef0..1eef1 1f000..1f02b 1f030..1f093 1f0a0..1f0ae
1f0b1..1f0bf 1f0c1..1f0cf 1f0d1..1f0f5 1f10b..1f10f 1f12f 1f16d..1f16f 1f1ad 1f260..1f265
1f300..1f6d7 1f6dd..1f6ec 1f6f0..1f6fc 1f700..1f773 1f780..1f7d8 1f7e0..1f7eb 1f7f0 1f800..1f80b
1f810..1f847 1f850..1f859 1f860..1f887 1f890..1f8ad 1f8b0..1f8b1 1f900..1fa53 1fa60..1fa6d
1fa70..1fa74 1fa78..1fa7c 1fa80..1fa86 1fa90..1faac 1fab0..1faba 1fac0..1fac5 1fad0..1fad9
1fae0..1fae7 1faf0..1faf6 1fb00..1fb92 1fb94..1fbca"

/-- The directional class of a character. -/
def direction (c : Char) : Direction :=
  if c.isAlpha then .left
  else if c.isDigit then .europeanNumber
  else if isIn rightToLeft c then .right
  else if isIn arabicNumbers c then .arabicNumber
  else if isIn europeanNumbers c then .europeanNumber
  else if isIn directionlessMarks c then .mark
  else if isIn neutrals c then .neutral
  else .left

/-- A label follows the rules for domain names with right-to-left characters. -/
def isDirectional (label : Text) : Bool :=
  let directions := label.map direction
  let ending := (directions.reverse.dropWhile (· = .mark)).head?
  match directions.head? with
  | none => true
  | some .left =>
    directions.all (fun d => d ≠ .right && d ≠ .arabicNumber) &&
      (ending = some .left || ending = some .europeanNumber)
  | some .right =>
    directions.all (· ≠ .left) &&
      ending.any (fun d => d = .right || d = .europeanNumber || d = .arabicNumber) &&
      !(directions.contains .europeanNumber && directions.contains .arabicNumber)
  | some _ => false

/-- A label holds right-to-left characters. -/
def hasRightToLeft (label : Text) : Bool :=
  label.any fun c => direction c = .right || direction c = .arabicNumber

/-! ### Combining and joining characters -/

/-- Marks, which combine with the character in front of them. -/
def marks : List CodeRange := CodeRange.parseAll "
300..33f 342 346..34e 350..36f 483..489 591..5bd 5bf 5c1..5c2 5c4..5c5 5c7 610..61a 64b..65f 670
6d6..6dc 6df..6e4 6e7..6e8 6ea..6ed 711 730..74a 7a6..7b0 7eb..7f3 7fd 816..819 81b..823
825..827 829..82d 859..85b 898..89f 8ca..8e1 8e3..903 93a..93c 93e..94f 951..957 962..963
981..983 9bc 9be..9c4 9c7..9c8 9cb..9cd 9d7 9e2..9e3 9fe a01..a03 a3c a3e..a42 a47..a48 a4b..a4d
a51 a70..a71 a75 a81..a83 abc abe..ac5 ac7..ac9 acb..acd ae2..ae3 afa..aff b01..b03 b3c b3e..b44
b47..b48 b4b..b4d b55..b57 b62..b63 b82 bbe..bc2 bc6..bc8 bca..bcd bd7 c00..c04 c3c c3e..c44
c46..c48 c4a..c4d c55..c56 c62..c63 c81..c83 cbc cbe..cc4 cc6..cc8 cca..ccd cd5..cd6 ce2..ce3
d00..d03 d3b..d3c d3e..d44 d46..d48 d4a..d4d d57 d62..d63 d81..d83 dca dcf..dd4 dd6 dd8..ddf
df2..df3 e31 e34..e3a e47..e4e eb1 eb4..ebc ec8..ecd f18..f19 f35 f37 f39 f3e..f3f f71..f72 f74
f7a..f80 f82..f84 f86..f87 f8d..f92 f94..f97 f99..f9c f9e..fa1 fa3..fa6 fa8..fab fad..fb8
fba..fbc fc6 102b..103e 1056..1059 105e..1060 1062..1064 1067..106d 1071..1074 1082..108d 108f
109a..109d 135d..135f 1712..1715 1732..1734 1752..1753 1772..1773 17b6..17d3 17dd 1885..1886
18a9 1920..192b 1930..193b 1a17..1a1b 1a55..1a5e 1a60..1a7c 1a7f 1ab0..1ace 1b00..1b04
1b34..1b44 1b6b..1b73 1b80..1b82 1ba1..1bad 1be6..1bf3 1c24..1c37 1cd0..1cd2 1cd4..1ce8 1ced
1cf4 1cf7..1cf9 1dc0..1dff 20d0..20f0 2cef..2cf1 2d7f 2de0..2dff 302a..302f 3099..309a
a66f..a672 a674..a67d a69e..a69f a6f0..a6f1 a802 a806 a80b a823..a827 a82c a880..a881 a8b4..a8c5
a8e0..a8f1 a8ff a926..a92d a947..a953 a980..a983 a9b3..a9c0 a9e5 aa29..aa36 aa43 aa4c..aa4d
aa7b..aa7d aab0 aab2..aab4 aab7..aab8 aabe..aabf aac1 aaeb..aaef aaf5..aaf6 abe3..abea
abec..abed fb1e fe20..fe2f 101fd 102e0 10376..1037a 10a01..10a03 10a05..10a06 10a0c..10a0f
10a38..10a3a 10a3f 10ae5..10ae6 10d24..10d27 10eab..10eac 10f46..10f50 10f82..10f85 11000..11002
11038..11046 11070 11073..11074 1107f..11082 110b0..110ba 110c2 11100..11102 11127..11134
11145..11146 11173 11180..11182 111b3..111c0 111c9..111cc 111ce..111cf 1122c..11237 1123e
112df..112ea 11300..11303 1133b..1133c 1133e..11344 11347..11348 1134b..1134d 11357 11362..11363
11366..1136c 11370..11374 11435..11446 1145e 114b0..114c3 115af..115b5 115b8..115c0 115dc..115dd
11630..11640 116ab..116b7 1171d..1172b 1182c..1183a 11930..11935 11937..11938 1193b..1193e 11940
11942..11943 119d1..119d7 119da..119e0 119e4 11a01..11a0a 11a33..11a39 11a3b..11a3e 11a47
11a51..11a5b 11a8a..11a99 11c2f..11c36 11c38..11c3f 11c92..11ca7 11ca9..11cb6 11d31..11d36 11d3a
11d3c..11d3d 11d3f..11d45 11d47 11d8a..11d8e 11d90..11d91 11d93..11d97 11ef3..11ef6 16af0..16af4
16b30..16b36 16f4f 16f51..16f87 16f8f..16f92 16fe4 16ff0..16ff1 1bc9d..1bc9e 1cf00..1cf2d
1cf30..1cf46 1d165..1d169 1d16d..1d172 1d17b..1d182 1d185..1d18b 1d1aa..1d1ad 1d242..1d244
1da00..1da36 1da3b..1da6c 1da75 1da84 1da9b..1da9f 1daa1..1daaf 1e000..1e006 1e008..1e018
1e01b..1e021 1e023..1e024 1e026..1e02a 1e130..1e136 1e2ae 1e2ec..1e2ef 1e8d0..1e8d6 1e944..1e94a"

/-- Viramas, which silence the vowel of the consonant in front of them. -/
def viramas : List CodeRange := CodeRange.parseAll "
94d 9cd a4d acd b4d bcd c4d ccd d3b..d3c d4d dca e3a eba f84 1039..103a 1714..1715 1734 17d2
1a60 1b44 1baa..1bab 1bf2..1bf3 2d7f a806 a82c a8c4 a953 a9c0 aaf6 abed 10a3f 11046 11070 1107f
110b9 11133..11134 111c0 11235 112ea 1134d 11442 114c2 115bf 1163f 116b6 1172b 11839
1193d..1193e 119e0 11a34 11a47 11a99 11c3f 11d44..11d45 11d97"

/-- Letters that can be joined to the letter after them. -/
def joinAfter : List CodeRange := CodeRange.parseAll "
620 626 628 62a..62e 633..63f 641..647 649..64a 66e..66f 679..687 69a..6bf 6c1..6c2 6cc 6ce
6d0..6d1 6fa..6fc 6ff 712..714 71a..71d 71f..727 729 72b 72d..72e 74e..758 75c..76a 76d..770 772
775..777 77a..77f 7ca..7ea 841..845 848 84a..853 855 860 862..865 868 886 889..88d 88f 8a0..8a9
8af..8b0 8b3..8b8 8ba..8c8 1807 1820..1878 1887..18a8 18aa a840..a872 10ac0..10ac4 10acd
10ad3..10adc 10ade..10ae0 10aeb..10aee 10b80 10b82 10b86..10b88 10b8a..10b8b 10b8d 10b90
10bad..10bae 10d00..10d21 10d23 10ec3..10ec4 10ec6..10ec7 10f30..10f32 10f34..10f44 10f51..10f53
10f70..10f73 10f76..10f81 10fb0 10fb2..10fb3 10fb8 10fbb..10fbc 10fbe..10fbf 10fc1 10fc4
10fca..10fcb 1e922..1e943"

/-- Letters that can be joined to the letter in front of them. -/
def joinBefore : List CodeRange := CodeRange.parseAll "
620 622..63f 641..64a 66e..66f 671..673 679..6d3 6d5 6ee..6ef 6fa..6fc 6ff 710 712..72f 74d..77f
7ca..7ea 840..858 860 862..865 867..86a 870..882 886 889..88f 8a0..8ac 8ae..8c8 1807 1820..1878
1887..18a8 18aa a840..a871 10ac0..10ac5 10ac7 10ac9..10aca 10ace..10ad6 10ad8..10ae1 10ae4
10aeb..10aef 10b80..10b91 10ba9..10bae 10d01..10d23 10ec2..10ec4 10ec6..10ec7 10f30..10f44
10f51..10f54 10f70..10f81 10fb0 10fb2..10fb6 10fb8..10fbf 10fc1..10fc4 10fc9..10fca 1e922..1e943"

/-- Characters that joining sees through. -/
def transparent : List CodeRange := CodeRange.parseAll "
300..33f 342 346..34e 350..36f 483..489 591..5bd 5bf 5c1..5c2 5c4..5c5 5c7 610..61a 64b..65f 670
6d6..6dc 6df..6e4 6e7..6e8 6ea..6ed 711 730..74a 7a6..7b0 7eb..7f3 7fd 816..819 81b..823
825..827 829..82d 859..85b 897..89f 8ca..8e1 8e3..902 93a 93c 941..948 94d 951..957 962..963 981
9bc 9c1..9c4 9cd 9e2..9e3 9fe a01..a02 a3c a41..a42 a47..a48 a4b..a4d a51 a70..a71 a75 a81..a82
abc ac1..ac5 ac7..ac8 acd ae2..ae3 afa..aff b01 b3c b3f b41..b44 b4d b55..b56 b62..b63 b82 bc0
bcd c00 c04 c3c c3e..c40 c46..c48 c4a..c4d c55..c56 c62..c63 c81 cbc cbf cc6 ccc..ccd ce2..ce3
d00..d01 d3b..d3c d41..d44 d4d d62..d63 d81 dca dd2..dd4 dd6 e31 e34..e3a e47..e4e eb1 eb4..ebc
ec8..ece f18..f19 f35 f37 f39 f71..f72 f74 f7a..f7e f80 f82..f84 f86..f87 f8d..f92 f94..f97
f99..f9c f9e..fa1 fa3..fa6 fa8..fab fad..fb8 fba..fbc fc6 102d..1030 1032..1037 1039..103a
103d..103e 1058..1059 105e..1060 1071..1074 1082 1085..1086 108d 109d 135d..135f 1712..1714
1732..1733 1752..1753 1772..1773 17b7..17bd 17c6 17c9..17d3 17dd 1885..1886 18a9 1920..1922
1927..1928 1932 1939..193b 1a17..1a18 1a1b 1a56 1a58..1a5e 1a60 1a62 1a65..1a6c 1a73..1a7c 1a7f
1ab0..1add 1ae0..1aeb 1b00..1b03 1b34 1b36..1b3a 1b3c 1b42 1b6b..1b73 1b80..1b81 1ba2..1ba5
1ba8..1ba9 1bab..1bad 1be6 1be8..1be9 1bed 1bef..1bf1 1c2c..1c33 1c36..1c37 1cd0..1cd2
1cd4..1ce0 1ce2..1ce8 1ced 1cf4 1cf8..1cf9 1dc0..1dff 20d0..20f0 2cef..2cf1 2d7f 2de0..2dff
302a..302d 3099..309a a66f..a672 a674..a67d a69e..a69f a6f0..a6f1 a802 a806 a80b a825..a826 a82c
a8c4..a8c5 a8e0..a8f1 a8ff a926..a92d a947..a951 a980..a982 a9b3 a9b6..a9b9 a9bc..a9bd a9e5
aa29..aa2e aa31..aa32 aa35..aa36 aa43 aa4c aa7c aab0 aab2..aab4 aab7..aab8 aabe..aabf aac1
aaec..aaed aaf6 abe5 abe8 abed fb1e fe20..fe2f 101fd 102e0 10376..1037a 10a01..10a03
10a05..10a06 10a0c..10a0f 10a38..10a3a 10a3f 10ae5..10ae6 10d24..10d27 10d69..10d6d 10eab..10eac
10efa..10eff 10f46..10f50 10f82..10f85 11001 11038..11046 11070 11073..11074 1107f..11081
110b3..110b6 110b9..110ba 110c2 11100..11102 11127..1112b 1112d..11134 11173 11180..11181
111b6..111be 111c9..111cc 111cf 1122f..11231 11234 11236..11237 1123e 11241 112df 112e3..112ea
11300..11301 1133b..1133c 11340 11366..1136c 11370..11374 113bb..113c0 113ce 113d0 113d2
113e1..113e2 11438..1143f 11442..11444 11446 1145e 114b3..114b8 114ba 114bf..114c0 114c2..114c3
115b2..115b5 115bc..115bd 115bf..115c0 115dc..115dd 11633..1163a 1163d 1163f..11640 116ab 116ad
116b0..116b5 116b7 1171d 1171f 11722..11725 11727..1172b 1182f..11837 11839..1183a 1193b..1193c
1193e 11943 119d4..119d7 119da..119db 119e0 11a01..11a0a 11a33..11a38 11a3b..11a3e 11a47
11a51..11a56 11a59..11a5b 11a8a..11a96 11a98..11a99 11b60 11b62..11b64 11b66 11c30..11c36
11c38..11c3d 11c3f 11c92..11ca7 11caa..11cb0 11cb2..11cb3 11cb5..11cb6 11d31..11d36 11d3a
11d3c..11d3d 11d3f..11d45 11d47 11d90..11d91 11d95 11d97 11ef3..11ef4 11f00..11f01 11f36..11f3a
11f40 11f42 11f5a 13440 13447..13455 1611e..16129 1612d..1612f 16af0..16af4 16b30..16b36 16f4f
16f8f..16f92 16fe4 1bc9d..1bc9e 1cf00..1cf2d 1cf30..1cf46 1d167..1d169 1d17b..1d182 1d185..1d18b
1d1aa..1d1ad 1d242..1d244 1da00..1da36 1da3b..1da6c 1da75 1da84 1da9b..1da9f 1daa1..1daaf
1e000..1e006 1e008..1e018 1e01b..1e021 1e023..1e024 1e026..1e02a 1e08f 1e130..1e136 1e2ae
1e2ec..1e2ef 1e4ec..1e4ef 1e5ee..1e5ef 1e6e3 1e6e6 1e6ee..1e6ef 1e6f5 1e8d0..1e8d6 1e944..1e94b"

/-- The joiner that stands between two letters only where they would be joined. -/
def nonJoiner : Char := '\u200c'

/-- The joiner that asks for joining. -/
def joiner : Char := '\u200d'

/-- Every joiner in a label stands where it may; `before` is what precedes, the nearest character
first. -/
def joinersAllowed (before : Text) : Text → Bool
  | [] => true
  | c :: rest =>
    let afterVirama := before.head?.any (isIn viramas)
    let betweenJoined :=
      (before.dropWhile (isIn transparent)).head?.any (isIn joinAfter) &&
        (rest.dropWhile (isIn transparent)).head?.any (isIn joinBefore)
    let allowed :=
      if c = joiner then afterVirama
      else if c = nonJoiner then afterVirama || betweenJoined
      else true
    allowed && joinersAllowed (c :: before) rest

/-! ### Names -/

/-- ASCII characters that no domain name holds. -/
def isForbidden (c : Char) : Bool :=
  c ≤ ' ' || c = '\x7f' || "%#/:<>?@[\\]^|".toList.contains c

/-- A mapped name; none if it has a character that is not allowed. -/
def map? (name : Text) : Option Text := (name.mapM mapChar?).map List.flatten

/-- The label that a label stands for. -/
def decodeLabel? (label : Text) : Option Text :=
  match label with
  | 'x' :: 'n' :: '-' :: '-' :: encoded => do
    let decoded ← Punycode.decode? encoded
    if decoded.all (fun c => c.toNat < 0x80) || decoded.any (fun c => mapChar? c ≠ some [c]) then
      none
    else return decoded
  | label => some label

/-- A label starts with no mark and has its joiners in their places. -/
def isLabel (label : Text) : Bool :=
  !label.head?.any (isIn marks) && joinersAllowed [] label

/-- The mapped form of a name, if the name is valid. -/
def normalize? (name : Text) : Option Text := do
  let mapped ← map? name
  if mapped.any isForbidden then none
  else
    let labels ← (mapped.splitOn '.').mapM decodeLabel?
    if labels.all isLabel && (labels.all isDirectional || !labels.any hasRightToLeft) then
      return mapped
    else none

end Domain

end LinkTemplate.Url
