import LineCoverage.Text.NumberError
import LineCoverage.Text.Percent

/-!
# Fractional numbers

Numbers with a fraction and an exponent, decimal or hexadecimal, as they are read into double
precision. Underscores may stand between digits.
-/

namespace LineCoverage

namespace FloatText

open Percent (Fraction)

inductive Value where
  | finite (negative : Bool) (magnitude : Fraction)
  | infinite (negative : Bool)
  | notANumber

def lower (b : UInt8) : UInt8 := if ch 'A' ≤ b && b ≤ ch 'Z' then b + 32 else b

inductive Seen where
  | nothing
  | digit
  | underscore
  | other
  deriving DecidableEq

def isHexDigit (b : UInt8) : Bool := Decimal.isDigit b || (ch 'a' ≤ lower b && lower b ≤ ch 'f')

def underscoresFit (isDigit : UInt8 → Bool) : Seen → Bytes → Bool
  | seen, [] => seen ≠ .underscore
  | seen, b :: rest =>
    if isDigit b then underscoresFit isDigit .digit rest
    else if b = ch '_' then seen = .digit && underscoresFit isDigit .underscore rest
    else seen ≠ .underscore && underscoresFit isDigit .other rest

def underscoresOk (s : Bytes) : Bool :=
  match s with
  | z :: mark :: rest =>
    if z = ch '0' && lower mark = ch 'x' then underscoresFit isHexDigit .digit rest
    else if z = ch '0' && (lower mark = ch 'b' || lower mark = ch 'o') then
      underscoresFit Decimal.isDigit .digit rest
    else underscoresFit Decimal.isDigit .nothing s
  | _ => underscoresFit Decimal.isDigit .nothing s

def digitValue (b : UInt8) : Nat :=
  if Decimal.isDigit b then b.toNat - 48 else (lower b).toNat - 87

/-- The digits of a number in front of its exponent: their value, how many there are, and how many
stand behind the point. -/
structure Mantissa where
  value : Nat := 0
  digits : Nat := 0
  places : Nat := 0
  pointed : Bool := false

def readMantissa (base : Nat) (isDigit : UInt8 → Bool) : Mantissa → Bytes → Mantissa × Bytes
  | m, [] => (m, [])
  | m, b :: rest =>
    if b = ch '_' then readMantissa base isDigit m rest
    else if b = ch '.' && !m.pointed then readMantissa base isDigit { m with pointed := true } rest
    else if isDigit b then
      let places := if m.pointed then m.places + 1 else m.places
      readMantissa base isDigit
        { m with value := m.value * base + digitValue b, digits := m.digits + 1, places } rest
    else (m, b :: rest)

/-- An exponent stops growing here; a larger one changes nothing. -/
def exponentLimit : Nat := 10000

def readExponent (s : Bytes) : Option Int :=
  let (negative, digits) := Decimal.splitSign s
  match digits with
  | d :: _ =>
    if Decimal.isDigit d && digits.all fun b => Decimal.isDigit b || b = ch '_' then
      let e := (digits.filter Decimal.isDigit).foldl
        (fun e b => if e < exponentLimit then e * 10 + digitValue b else e) 0
      some (if negative then -(e : Int) else e)
    else none
  | [] => none

def readTail (mark : Char) (needed : Bool) (s : Bytes) : Option Int :=
  match s with
  | [] => if needed then none else some 0
  | b :: rest => if lower b = ch mark then readExponent rest else none

def fraction (base unit : Nat) (m : Mantissa) (exponent : Int) : Fraction :=
  if 0 ≤ exponent then ⟨m.value * Nat.pow unit exponent.toNat, Nat.pow base m.places⟩
  else ⟨m.value, Nat.pow base m.places * Nat.pow unit (-exponent).toNat⟩

def overflowBound : Nat := Nat.pow 2 1024

/-- A finite value in double precision, if it fits. Far too small ones are zero. -/
def finiteValue (negative : Bool) (base unit : Nat) (m : Mantissa) (exponent : Int) :
    Except Decimal.Fault Value :=
  if m.value = 0 then .ok (.finite negative ⟨0, 1⟩)
  else if 5000 < exponent - 4 * m.places then .error .outOfRange
  else if exponent + 4 * m.digits < -5000 then .ok (.finite negative ⟨0, 1⟩)
  else
    let x := (fraction base unit m exponent).round
    if x.num < overflowBound * x.den then .ok (.finite negative x) else .error .outOfRange

def readMagnitude (negative : Bool) (s : Bytes) : Except Decimal.Fault Value :=
  let isHex := match s with
    | z :: mark :: _ :: _ => z = ch '0' && lower mark = ch 'x'
    | _ => false
  let base := if isHex then 16 else 10
  let (m, tail) := readMantissa base (if isHex then isHexDigit else Decimal.isDigit) {} (if isHex then s.drop 2 else s)
  match readTail (if isHex then 'p' else 'e') isHex tail with
  | some exponent =>
    if m.digits = 0 || (s.contains (ch '_') && !underscoresOk s) then .error .malformed
    else finiteValue negative base (if isHex then 2 else 10) m exponent
  | none => .error .malformed

/-- Reads a number. Infinity has a long and a short name, in any case. -/
def read (s : Bytes) : Except Decimal.Fault Value :=
  let (negative, body) := Decimal.splitSign s
  let name := body.map lower
  if name = utf8 "inf" || name = utf8 "infinity" then .ok (.infinite negative)
  else if s.map lower = utf8 "nan" then .ok .notANumber
  else readMagnitude negative body

/-- The whole part as a signed 64-bit number. What has none there is the least number. -/
def Value.toInt64 : Value → Int64
  | .finite negative x =>
    let whole : Int := x.num / x.den
    let whole := if negative then -whole else whole
    if -(signedLimit : Int) ≤ whole ∧ whole < signedLimit then Int64.ofInt whole else Int64.minValue
  | _ => Int64.minValue

def readWhole (s : Bytes) : Except NumberError Int64 :=
  match read s with
  | .ok v => .ok v.toInt64
  | .error fault => .error ⟨.fractional, s, fault⟩

end FloatText

end LineCoverage
