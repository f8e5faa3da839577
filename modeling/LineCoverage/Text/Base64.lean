import LineCoverage.Bytes

/-!
# Base 64

Bytes written with 64 characters, three bytes as four characters, filled up with `=` at the end.
-/

namespace LineCoverage

namespace Base64

def digit? (b : UInt8) : Option Nat :=
  if ch 'A' ≤ b && b ≤ ch 'Z' then some (b.toNat - 65)
  else if ch 'a' ≤ b && b ≤ ch 'z' then some (b.toNat - 97 + 26)
  else if ch '0' ≤ b && b ≤ ch '9' then some (b.toNat - 48 + 52)
  else if b = ch '+' then some 62
  else if b = ch '/' then some 63
  else none

def fill : UInt8 := ch '='

/-- The bytes of groups of four characters. Only the last group may be filled up. -/
def decodeGroups : Bytes → Option Bytes
  | [] => some []
  | a :: b :: c :: d :: rest => do
    let x := (← digit? a) * 64 + (← digit? b)
    if d = fill then
      if rest ≠ [] then none
      else if c = fill then pure [UInt8.ofNat (x / 16)]
      else
        let y := x * 64 + (← digit? c)
        pure [UInt8.ofNat (y / 1024), UInt8.ofNat (y / 4)]
    else
      let z := (x * 64 + (← digit? c)) * 64 + (← digit? d)
      pure (UInt8.ofNat (z / 65536) :: UInt8.ofNat (z / 256) :: UInt8.ofNat z :: (← decodeGroups rest))
  | _ => none

def decode? (s : Bytes) : Option Bytes := decodeGroups (s.filter fun b => b ≠ 10 ∧ b ≠ 13)

end Base64

end LineCoverage
