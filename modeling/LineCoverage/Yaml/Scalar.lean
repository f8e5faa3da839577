import LineCoverage.Text.Base64
import LineCoverage.Text.FloatText
import LineCoverage.Text.Timestamp

/-!
# YAML scalars

What a scalar means. A quoted scalar is text. A plain one may be null, a truth value or a number, and a
tag says what it has to be.
-/

namespace LineCoverage

namespace Yaml

open Percent (Fraction)

inductive Scalar where
  | null
  | bool (b : Bool)
  | int (n : Int)
  | float (v : FloatText.Value)
  | time
  | text (t : Bytes)

namespace Scalar

/-! ## Plain scalars -/

/-- The spellings of a word: small, with a capital, in capitals. -/
def spellings (small capital capitals : String) : List Bytes := [utf8 small, utf8 capital, utf8 capitals]

def named? (s : Bytes) : Option Scalar :=
  if s = [] || s = utf8 "~" || (spellings "null" "Null" "NULL").contains s then some .null
  else if (spellings "true" "True" "TRUE").contains s then some (.bool true)
  else if (spellings "false" "False" "FALSE").contains s then some (.bool false)
  else if (spellings ".nan" ".NaN" ".NAN").contains s then some (.float .notANumber)
  else
    let (negative, body) := Decimal.splitSign s
    if (spellings ".inf" ".Inf" ".INF").contains body then some (.float (.infinite negative)) else none

def digits? (base : Nat) (s : Bytes) : Option Nat :=
  s.foldlM (fun n b =>
    if FloatText.isHexDigit b && FloatText.digitValue b < base then some (n * base + FloatText.digitValue b)
    else none) 0

/-- A whole number without its sign. A leading zero or a mark tells the base. -/
def magnitude? (s : Bytes) : Option Nat :=
  match s with
  | [] => none
  | z :: rest =>
    if z ≠ ch '0' then digits? 10 s
    else
      match rest with
      | mark :: d :: more =>
        if FloatText.lower mark = ch 'x' then digits? 16 (d :: more)
        else if FloatText.lower mark = ch 'o' then digits? 8 (d :: more)
        else if FloatText.lower mark = ch 'b' then digits? 2 (d :: more)
        else digits? 8 rest
      | _ => digits? 8 rest

/-- A number with a sign has to be a signed 64-bit number, one without an unsigned one. -/
def bounded? (signed negative : Bool) (n : Nat) : Option Int :=
  if negative then if n ≤ signedLimit then some (-(n : Int)) else none
  else if n < (if signed then signedLimit else wordLimit) then some n
  else none

def signed? (magnitude : Bytes → Option Nat) (s : Bytes) : Option Int :=
  let (negative, body) := Decimal.splitSign s
  (magnitude body).bind (bounded? (body ≠ s) negative)

def someDigits? (base : Nat) (s : Bytes) : Option Nat := if s.isEmpty then none else digits? base s

def int? (s : Bytes) : Option Int :=
  match signed? magnitude? s with
  | some n => some n
  | none =>
    match s with
    | z :: mark :: rest =>
      if z = ch '0' && mark = ch 'b' then signed? (someDigits? 2) rest
      else if z = ch '0' && mark = ch 'o' then signed? (someDigits? 8) rest
      else none
    | _ => none

def isFraction (s : Bytes) : Bool :=
  let whole := s.takeWhile Decimal.isDigit
  let rest := s.dropWhile Decimal.isDigit
  let (places, tail) := match rest with
    | b :: after =>
      if b = ch '.' then (some (after.takeWhile Decimal.isDigit), after.dropWhile Decimal.isDigit)
      else (none, rest)
    | [] => (none, rest)
  let tailFits := match tail with
    | [] => true
    | e :: exponent =>
      let digits := (Decimal.splitSign exponent).2
      FloatText.lower e = ch 'e' && !digits.isEmpty && digits.all Decimal.isDigit
  (!whole.isEmpty || places.any (!·.isEmpty)) && tailFits

def float? (s : Bytes) : Option Scalar :=
  match FloatText.read s with
  | .ok v => some (.float v)
  | .error _ => none

def number? (s : Bytes) : Option Scalar :=
  let s := s.filter (· ≠ ch '_')
  match int? s with
  | some n => some (.int n)
  | none => if isFraction (Decimal.splitSign s).2 then float? s else none

def ofPlain (s : Bytes) : Scalar :=
  let other? := match s with
    | [] => none
    | b :: _ =>
      if b = ch '.' then float? s
      else if Decimal.isDigit b || b = ch '+' || b = ch '-' then number? s
      else none
  ((named? s).or other?).getD (.text s)

/-! ## Tags -/

inductive Kind where
  | null
  | bool
  | int
  | float
  | time
  | text
  deriving DecidableEq

def kind : Scalar → Kind
  | .null => .null
  | .bool _ => .bool
  | .int _ => .int
  | .float _ => .float
  | .time => .time
  | .text _ => .text

/-- A scalar that has to be of a kind. A whole number serves as a fraction. -/
def require (s : Scalar) (k : Kind) : Option Scalar :=
  if s.kind = k then some s
  else
    match s, k with
    | .int n, .float =>
      if -(signedLimit : Int) ≤ n ∧ n < signedLimit then
        some (.float (.finite (n < 0) (Fraction.round ⟨n.natAbs, 1⟩)))
      else none
    | _, _ => none

/-- A scalar under its tag. Tags outside the standard leave the text as it is. -/
def resolve (tag : Option Bytes) (s : Bytes) (isPlain : Bool) : Option Scalar :=
  match tag with
  | none => some (if isPlain then ofPlain s else .text s)
  | some t =>
    if t = utf8 "!!binary" then (Base64.decode? s).map .text
    else if t = utf8 "!!null" then (ofPlain s).require .null
    else if t = utf8 "!!bool" then (ofPlain s).require .bool
    else if t = utf8 "!!int" then (ofPlain s).require .int
    else if t = utf8 "!!float" then (ofPlain s).require .float
    else if t = utf8 "!!timestamp" then if Timestamp.isTimestamp s then some .time else none
    else some (.text s)

end Scalar

end Yaml

end LineCoverage
