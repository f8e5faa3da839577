import LineCoverage.Bytes

/-!
# Decimal numbers

Writing and reading of 64-bit numbers. Reading takes ASCII digits only; a signed number may have
one sign in front.
-/

namespace LineCoverage

namespace Decimal

def isDigit (b : UInt8) : Bool := 48 ≤ b && b ≤ 57

def ofNat (n : Nat) : Bytes := (Nat.toDigits 10 n).map ch

def ofInt : Int → Bytes
  | .ofNat n => ofNat n
  | .negSucc n => ch '-' :: ofNat (n + 1)

def ofUInt64 (n : UInt64) : Bytes := ofNat n.toNat

def ofInt64 (n : Int64) : Bytes := ofInt n.toInt

inductive Fault where
  | malformed
  | outOfRange
  deriving DecidableEq, Repr

/-- The value of digits behind digits that are worth `acc`. The first byte that is no digit, or that
takes the value to `2 ^ 64`, decides what is wrong. -/
def readDigits (acc : Nat) : Bytes → Except Fault Nat
  | [] => .ok acc
  | b :: rest =>
    if !isDigit b then .error .malformed
    else
      let value := 10 * acc + (b.toNat - 48)
      if value < wordLimit then readDigits value rest else .error .outOfRange

def magnitude (s : Bytes) : Except Fault Nat := if s.isEmpty then .error .malformed else readDigits 0 s

def readUnsigned (s : Bytes) : Except Fault UInt64 := (magnitude s).map UInt64.ofNat

def splitSign : Bytes → Bool × Bytes
  | [] => (false, [])
  | b :: rest => if b = ch '-' then (true, rest) else if b = ch '+' then (false, rest) else (false, b :: rest)

def readSigned (s : Bytes) : Except Fault Int64 := do
  let (negative, digits) := splitSign s
  let n ← magnitude digits
  let v : Int := if negative then -n else n
  if -(signedLimit : Int) ≤ v ∧ v < signedLimit then pure (Int64.ofInt v) else .error .outOfRange

def groupThousands (digits : Bytes) : Bytes :=
  let rec go : Bytes → Bytes
    | a :: b :: c :: d :: rest => a :: b :: c :: ch ',' :: go (d :: rest)
    | short => short
  (go digits.reverse).reverse

def grouped (n : Int64) : Bytes :=
  if n.toInt < 0 then ch '-' :: groupThousands (ofNat n.toInt.natAbs)
  else groupThousands (ofNat n.toInt.natAbs)

end Decimal

end LineCoverage
