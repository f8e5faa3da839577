import LineCoverage.Bytes

/-!
# White space at the ends of a text

White space is the ASCII blanks and the Unicode separators, each given by its UTF-8 bytes.
-/

namespace LineCoverage

namespace Space

def isAsciiSpace (b : UInt8) : Bool := b = 32 || (9 ≤ b && b ≤ 13)

def isSeparatorTail (a b c : UInt8) : Bool :=
  (a = 0xE1 && b = 0x9A && c = 0x80) ||
  (a = 0xE2 && b = 0x80 && ((0x80 ≤ c && c ≤ 0x8A) || c = 0xA8 || c = 0xA9 || c = 0xAF)) ||
  (a = 0xE2 && b = 0x81 && c = 0x9F) ||
  (a = 0xE3 && b = 0x80 && c = 0x80)

def isSeparatorPair (a b : UInt8) : Bool := a = 0xC2 && (b = 0x85 || b = 0xA0)

def trimLeft : Bytes → Bytes
  | [] => []
  | [a] => if isAsciiSpace a then [] else [a]
  | [a, b] =>
    if isAsciiSpace a then trimLeft [b] else if isSeparatorPair a b then [] else [a, b]
  | a :: b :: c :: rest =>
    if isAsciiSpace a then trimLeft (b :: c :: rest)
    else if isSeparatorPair a b then trimLeft (c :: rest)
    else if isSeparatorTail a b c then trimLeft rest
    else a :: b :: c :: rest

def trimLeftReversed : Bytes → Bytes
  | [] => []
  | [a] => if isAsciiSpace a then [] else [a]
  | [b, a] =>
    if isAsciiSpace b then trimLeftReversed [a] else if isSeparatorPair a b then [] else [b, a]
  | c :: b :: a :: rest =>
    if isAsciiSpace c then trimLeftReversed (b :: a :: rest)
    else if isSeparatorPair b c then trimLeftReversed (a :: rest)
    else if isSeparatorTail a b c then trimLeftReversed rest
    else c :: b :: a :: rest

def trimRight (s : Bytes) : Bytes := (trimLeftReversed s.reverse).reverse

def trim (s : Bytes) : Bytes := trimRight (trimLeft s)

end Space

end LineCoverage
