import LineCoverage.Text.Decimal
import LineCoverage.Text.Utf8

/-!
# Tokens of a trace document

A trace document is JSON text. A machine takes it byte by byte and gives out its tokens: brackets,
separators, names, natural numbers and `null`. Numbers wrap modulo 2 ^ 64 where the wrapped value
is not below the value before the last digit; otherwise they are refused.
-/

namespace LineCoverage

namespace Trace

inductive Token where
  | openObject
  | closeObject
  | openList
  | closeList
  | comma
  | colon
  | null
  | name (text : Bytes)
  | number (value : UInt64)
  deriving DecidableEq, Repr

/-- Where the machine stands between two bytes. Texts are kept back to front. -/
inductive Scan where
  | between
  | digits (value : UInt64) (closed : Bool)
  | literal (left : Bytes)
  /-- In a name without a backslash so far: control bytes are refused. -/
  | plain (text : Bytes)
  /-- In a name behind its first backslash: every byte is taken. -/
  | loose (text : Bytes)
  | backslash (text : Bytes)
  /-- In the four digits of a character number; `first` is the surrogate before it. -/
  | code (text : Bytes) (first : Option Nat) (left : Nat) (value : Nat)
  | half (text : Bytes) (first : Nat)
  | halfBackslash (text : Bytes) (first : Nat)
  | over
  deriving DecidableEq, Repr

def isBlank (b : UInt8) : Bool := b = 32 || b = 9 || b = 10 || b = 13

/-- From this value on, another digit may wrap. -/
def safeValue : UInt64 := 0xFFFFFFFFFFFFFFFF / 10 - 1

def pushDigit (value : UInt64) (digit : UInt8) : Option UInt64 :=
  let next := value * 10 + (digit - 48).toUInt64
  if safeValue < value ∧ next < value then none else some next

def pushCode (text : Bytes) (code : Nat) : Bytes := (Utf8.encode code).reverse ++ text

def isSurrogate (code : Nat) : Bool := 0xD800 ≤ code && code ≤ 0xDFFF

def pair? (first second : Nat) : Option Nat :=
  if 0xD800 ≤ first ∧ first < 0xDC00 ∧ 0xDC00 ≤ second ∧ second < 0xE000 then
    some ((first - 0xD800) * 0x400 + (second - 0xDC00) + 0x10000)
  else none

def hexValue? (b : UInt8) : Option Nat :=
  if 48 ≤ b ∧ b ≤ 57 then some (b.toNat - 48)
  else if 97 ≤ b ∧ b ≤ 102 then some (b.toNat - 87)
  else if 65 ≤ b ∧ b ≤ 70 then some (b.toNat - 55)
  else none

def escape? (b : UInt8) : Option UInt8 :=
  if b = ch '"' ∨ b = ch '\\' ∨ b = ch '/' then some b
  else if b = ch 'b' then some 8
  else if b = ch 'f' then some 12
  else if b = ch 'n' then some 10
  else if b = ch 'r' then some 13
  else if b = ch 't' then some 9
  else none

def punctuation? (b : UInt8) : Option Token :=
  if b = ch '[' then some .openList
  else if b = ch ']' then some .closeList
  else if b = ch ',' then some .comma
  else if b = ch ':' then some .colon
  else if b = 0x7B then some .openObject
  else if b = 0x7D then some .closeObject
  else none

def scanEscape (text : Bytes) (b : UInt8) : Option Scan :=
  if b = ch 'u' then some (.code text none 4 0)
  else (escape? b).map fun c => .loose (c :: text)

def scanCode (text : Bytes) (first : Option Nat) (value : Nat) : Scan :=
  match first with
  | none => if isSurrogate value then .half text value else .loose (pushCode text value)
  | some first =>
    match pair? first value with
    | some code => .loose (pushCode text code)
    | none => .loose (pushCode (pushCode text first) value)

def scanBetween (b : UInt8) : Option (Scan × Option Token) :=
  if isBlank b then some (.between, none)
  else if b = 0 then some (.over, none)
  else if b = ch '"' then some (.plain [], none)
  else if b = ch 'n' then some (.literal (utf8 "ull"), none)
  else if Decimal.isDigit b then some (.digits (b - 48).toUInt64 (b = 48), none)
  else (punctuation? b).map fun t => (.between, some t)

def scanLoose (text : Bytes) (b : UInt8) : Scan × Option Token :=
  if b = ch '"' then (.between, some (.name text.reverse))
  else if b = ch '\\' then (.backslash text, none)
  else (.loose (b :: text), none)

/-- Takes one byte: the new state and the tokens it completes. `none` is a refusal. -/
def scanByte (s : Scan) (b : UInt8) : Option (Scan × List Token) :=
  match s with
  | .between => (scanBetween b).map fun (s, t) => (s, t.toList)
  | .digits value closed =>
    if Decimal.isDigit b ∧ !closed then (pushDigit value b).map fun v => (.digits v false, [])
    else (scanBetween b).map fun (s, t) => (s, .number value :: t.toList)
  | .literal [] => none
  | .literal (c :: left) =>
    if b = c then
      if left = [] then some (.between, [.null]) else some (.literal left, [])
    else none
  | .plain text =>
    if b = ch '"' then some (.between, [.name text.reverse])
    else if b = ch '\\' then some (.backslash text, [])
    else if b < 32 then none
    else some (.plain (b :: text), [])
  | .loose text => let (s, t) := scanLoose text b; some (s, t.toList)
  | .backslash text => (scanEscape text b).map (·, [])
  | .code text first left value =>
    (hexValue? b).map fun d =>
      (if left ≤ 1 then scanCode text first (value * 16 + d)
       else .code text first (left - 1) (value * 16 + d), [])
  | .half text first =>
    if b = ch '\\' then some (.halfBackslash text first, [])
    else let (s, t) := scanLoose (pushCode text first) b; some (s, t.toList)
  | .halfBackslash text first =>
    if b = ch 'u' then some (.code text (some first) 4 0, [])
    else (scanEscape (pushCode text first) b).map (·, [])
  | .over => some (.over, [])

end Trace

end LineCoverage
