import LineCoverage.Bytes

/-!
# Characters in byte strings

A byte string holds characters where its bytes are valid UTF-8. A byte that starts no whole
character stands alone.
-/

namespace LineCoverage

namespace Utf8

def isTail (b : UInt8) : Bool := 0x80 ≤ b && b ≤ 0xBF

def tailBits (b : UInt8) : Nat := b.toNat % 64

def secondOfThree (lead : UInt8) : UInt8 × UInt8 :=
  if lead = 0xE0 then (0xA0, 0xBF) else if lead = 0xED then (0x80, 0x9F) else (0x80, 0xBF)

def secondOfFour (lead : UInt8) : UInt8 × UInt8 :=
  if lead = 0xF0 then (0x90, 0xBF) else if lead = 0xF4 then (0x80, 0x8F) else (0x80, 0xBF)

def within (range : UInt8 × UInt8) (b : UInt8) : Bool := range.1 ≤ b && b ≤ range.2

def decodeLong (lead : UInt8) : Bytes → Option (Nat × Nat)
  | b :: rest =>
    if 0xC2 ≤ lead && lead ≤ 0xDF then
      if isTail b then some ((lead.toNat % 32) * 64 + tailBits b, 2) else none
    else match rest with
      | c :: rest =>
        if 0xE0 ≤ lead && lead ≤ 0xEF then
          if within (secondOfThree lead) b && isTail c then
            some ((lead.toNat % 16) * 4096 + tailBits b * 64 + tailBits c, 3)
          else none
        else match rest with
          | d :: _ =>
            if 0xF0 ≤ lead && lead ≤ 0xF4 && within (secondOfFour lead) b && isTail c && isTail d then
              some ((lead.toNat % 8) * 262144 + tailBits b * 4096 + tailBits c * 64 + tailBits d, 4)
            else none
          | [] => none
      | [] => none
  | [] => none

def decode? : Bytes → Option (Nat × Nat)
  | [] => none
  | b :: rest => if b < 0x80 then some (b.toNat, 1) else decodeLong b rest

/-- One piece of a text: a character with its code point, or a byte outside any. -/
inductive Unit where
  | char (code : Nat) (bytes : Bytes)
  | stray (byte : UInt8)
  deriving DecidableEq, Repr

def firstUnit (b : UInt8) (rest : Bytes) : Unit :=
  match decode? (b :: rest) with
  | some (code, width) => .char code ((b :: rest).take width)
  | none => .stray b

def Unit.width : Unit → Nat
  | .char _ bytes => bytes.length
  | .stray _ => 1

def units (s : Bytes) : List Unit :=
  match s with
  | [] => []
  | b :: rest =>
    let u := firstUnit b rest
    u :: units (rest.drop (u.width - 1))
termination_by s.length
decreasing_by
  simp only [List.length_drop, List.length_cons]
  omega

/-- The code points of a text; a stray byte counts as the replacement character. -/
def codePoints (s : Bytes) : List Nat :=
  (units s).map fun
    | .char code _ => code
    | .stray _ => 0xFFFD

/-- The bytes of a code point; a number that is none is written as the replacement character. -/
def encode (code : Nat) : Bytes :=
  if h : code.isValidChar then String.utf8EncodeChar (Char.ofNatAux code h) else [0xEF, 0xBF, 0xBD]

end Utf8

end LineCoverage
