import LineCoverage.Script.Word
import LineCoverage.Text.FloatText

/-!
# Arithmetic in scripts

Expressions over signed 64-bit numbers, which wrap around. Names stand for the numbers that variables
hold, and an assignment changes them.
-/

namespace LineCoverage

namespace Script

namespace Arithmetic

inductive Operator where
  | either
  | both
  | or
  | xor
  | and
  | equal
  | unequal
  | less
  | atMost
  | greater
  | atLeast
  | shiftLeft
  | shiftRight
  | add
  | subtract
  | multiply
  | divide
  | remainder
  deriving DecidableEq, Repr

inductive Expr where
  | number (n : Int64)
  | name (n : Bytes)
  | negate (e : Expr)
  | plus (e : Expr)
  | not (e : Expr)
  | complement (e : Expr)
  | binary (op : Operator) (a b : Expr)
  | choose (test a b : Expr)
  | assign (name : Bytes) (op : Option Operator) (e : Expr)

/-- The operators from those that bind least to those that bind most, each with its sign. Longer signs
come first. -/
def levels : List (List (String × Operator)) :=
  [[("||", .either)], [("&&", .both)], [("|", .or)], [("^", .xor)], [("&", .and)],
    [("==", .equal), ("!=", .unequal)],
    [("<=", .atMost), (">=", .atLeast), ("<", .less), (">", .greater)],
    [("<<", .shiftLeft), (">>", .shiftRight)], [("+", .add), ("-", .subtract)],
    [("*", .multiply), ("/", .divide), ("%", .remainder)]]

def signs : List String :=
  ["<<=", ">>=", "||", "&&", "==", "!=", "<=", ">=", "<<", ">>", "+=", "-=", "*=", "/=", "%=", "&=", "|=", "^=",
    "|", "^", "&", "<", ">", "+", "-", "*", "/", "%", "!", "~", "?", ":", "(", ")", "="]

inductive Token where
  | number (n : Int64)
  | name (n : Bytes)
  | sign (s : String)
  deriving DecidableEq

def isGap (b : UInt8) : Bool := isBlank b || b = newline

def valueOf (base : Nat) (digits : Bytes) : Int64 :=
  let n := digits.foldl (fun n b => n * base + FloatText.digitValue b) 0
  Int64.ofInt (if n < signedLimit then n else signedLimit - 1)

def number (s : Bytes) : Int64 × Bytes :=
  let isOctal (b : UInt8) : Bool := ch '0' ≤ b && b ≤ ch '7'
  let plain (base : Nat) (p : UInt8 → Bool) (s : Bytes) : Int64 × Bytes :=
    (valueOf base (s.takeWhile p), s.dropWhile p)
  match s with
  | z :: x :: d :: rest =>
    if z = ch '0' && FloatText.lower x = ch 'x' && FloatText.isHexDigit d then plain 16 FloatText.isHexDigit (d :: rest)
    else if z = ch '0' then plain 8 isOctal s
    else plain 10 isDigit s
  | z :: _ => if z = ch '0' then plain 8 isOctal s else plain 10 isDigit s
  | [] => (0, [])

def tokens : (fuel : Nat) → Bytes → Option (List (Token × Bytes))
  | 0, _ => some []
  | fuel + 1, s =>
    match s.dropWhile isGap with
    | [] => some []
    | b :: rest =>
      let s := b :: rest
      if isDigit b then
        let (n, after) := number s
        (tokens fuel after).map ((.number n, s) :: ·)
      else if isNameStart b then
        (tokens fuel (s.dropWhile isNameByte)).map ((.name (s.takeWhile isNameByte), s) :: ·)
      else
        match signs.find? fun x => Bytes.startsWith s (utf8 x) with
        | some x => (tokens fuel (s.drop x.length)).map ((.sign x, s) :: ·)
        | none => none

abbrev Tokens := List (Token × Bytes)

def assignment? (s : String) : Option (Option Operator) :=
  match s with
  | "=" => some none
  | "+=" => some (some .add)
  | "-=" => some (some .subtract)
  | "*=" => some (some .multiply)
  | "/=" => some (some .divide)
  | "%=" => some (some .remainder)
  | "<<=" => some (some .shiftLeft)
  | ">>=" => some (some .shiftRight)
  | "&=" => some (some .and)
  | "|=" => some (some .or)
  | "^=" => some (some .xor)
  | _ => none

inductive Fault where
  | expectingPrimary
  | expectingClose
  | expectingColon
  | expectingEnd
  | divisionByZero
  | illegalNumber (text : Bytes)

mutual

/-- An operand: a number, a name, or something in parentheses, with signs in front. -/
def primary : (fuel : Nat) → Tokens → Except Fault (Expr × Tokens)
  | 0, _ => .error .expectingPrimary
  | fuel + 1, ts =>
    match ts with
    | (.number n, _) :: rest => .ok (.number n, rest)
    | (.name n, _) :: rest => .ok (.name n, rest)
    | (.sign "(", _) :: rest => do
      let (e, rest) ← expression fuel rest
      match rest with
      | (.sign ")", _) :: rest => pure (e, rest)
      | _ => .error .expectingClose
    | (.sign "-", _) :: rest => (primary fuel rest).map fun (e, rest) => (.negate e, rest)
    | (.sign "+", _) :: rest => (primary fuel rest).map fun (e, rest) => (.plus e, rest)
    | (.sign "!", _) :: rest => (primary fuel rest).map fun (e, rest) => (.not e, rest)
    | (.sign "~", _) :: rest => (primary fuel rest).map fun (e, rest) => (.complement e, rest)
    | _ => .error .expectingPrimary

def binary : (fuel : Nat) → List (List (String × Operator)) → Tokens → Except Fault (Expr × Tokens)
  | 0, _, _ => .error .expectingPrimary
  | fuel + 1, [], ts => primary fuel ts
  | fuel + 1, level :: tighter, ts => do
    let (a, rest) ← binary fuel tighter ts
    binaryFrom fuel level tighter a rest

def binaryFrom : (fuel : Nat) → List (String × Operator) → List (List (String × Operator)) → Expr → Tokens →
    Except Fault (Expr × Tokens)
  | 0, _, _, a, ts => .ok (a, ts)
  | fuel + 1, level, tighter, a, ts =>
    match ts with
    | (.sign s, _) :: rest =>
      match level.lookup s with
      | some op => do
        let (b, rest) ← binary fuel tighter rest
        binaryFrom fuel level tighter (.binary op a b) rest
      | none => .ok (a, ts)
    | _ => .ok (a, ts)

def expression : (fuel : Nat) → Tokens → Except Fault (Expr × Tokens)
  | 0, _ => .error .expectingPrimary
  | fuel + 1, ts => do
    let named := match ts with
      | (.name n, _) :: (.sign s, _) :: rest => (assignment? s).map (n, ·, rest)
      | _ => none
    match named with
    | some (n, op, rest) =>
      let (e, rest) ← expression fuel rest
      pure (.assign n op e, rest)
    | none =>
      let (test, rest) ← binary fuel levels ts
      match rest with
      | (.sign "?", _) :: rest =>
        let (a, rest) ← expression fuel rest
        match rest with
        | (.sign ":", _) :: rest =>
          let (b, rest) ← expression fuel rest
          pure (.choose test a b, rest)
        | _ => .error .expectingColon
      | _ => pure (test, rest)

end

def parse (s : Bytes) : Except Fault Expr :=
  match tokens (s.length + 1) s with
  | none => .error .expectingEnd
  | some [] => .ok (.number 0)
  | some ts => do
    let (e, rest) ← expression (16 * ts.length + 16) ts
    if rest.isEmpty then pure e else .error .expectingEnd

def apply (op : Operator) (a b : Int64) : Except Fault Int64 :=
  let truth (t : Bool) : Except Fault Int64 := .ok (if t then 1 else 0)
  match op with
  | .either => truth (a ≠ 0 || b ≠ 0)
  | .both => truth (a ≠ 0 && b ≠ 0)
  | .or => .ok (a ||| b)
  | .xor => .ok (a ^^^ b)
  | .and => .ok (a &&& b)
  | .equal => truth (a = b)
  | .unequal => truth (a ≠ b)
  | .less => truth (a < b)
  | .atMost => truth (a ≤ b)
  | .greater => truth (b < a)
  | .atLeast => truth (b ≤ a)
  | .shiftLeft => .ok (a <<< b)
  | .shiftRight => .ok (a >>> b)
  | .add => .ok (a + b)
  | .subtract => .ok (a - b)
  | .multiply => .ok (a * b)
  | .divide => if b = 0 then .error .divisionByZero else .ok (a / b)
  | .remainder => if b = 0 then .error .divisionByZero else .ok (a % b)

/-- The number that a variable holds; one without a value holds zero. -/
def valueOfText (t : Bytes) : Except Fault Int64 :=
  let body := (t.dropWhile isGap)
  let (negative, digits) := Decimal.splitSign body
  if body.isEmpty then .ok 0
  else if !(digits.head?.any isDigit) then .error (.illegalNumber t)
  else
    let (n, rest) := number digits
    if (rest.dropWhile isGap).isEmpty then .ok (if negative then -n else n) else .error (.illegalNumber t)

/-- The variables of an evaluation: what they hold, and which of them were changed. -/
structure Scope where
  lookup : Bytes → Bytes
  changed : List (Bytes × Bytes) := []

def Scope.get (s : Scope) (name : Bytes) : Bytes := (s.changed.lookup name).getD (s.lookup name)

/-- The value of an expression. What is not needed for it is not evaluated. -/
def eval (e : Expr) (s : Scope) : Except Fault (Int64 × Scope) :=
  match e with
  | .number n => .ok (n, s)
  | .name n => (valueOfText (s.get n)).map (·, s)
  | .negate e => (eval e s).map fun (v, s) => (-v, s)
  | .plus e => eval e s
  | .not e => (eval e s).map fun (v, s) => (if v = 0 then 1 else 0, s)
  | .complement e => (eval e s).map fun (v, s) => (~~~v, s)
  | .binary .both a b => do
    let (x, s) ← eval a s
    if x = 0 then pure (0, s)
    else
      let (y, s) ← eval b s
      pure (if y = 0 then 0 else 1, s)
  | .binary .either a b => do
    let (x, s) ← eval a s
    if x ≠ 0 then pure (1, s)
    else
      let (y, s) ← eval b s
      pure (if y = 0 then 0 else 1, s)
  | .binary op a b => do
    let (x, s) ← eval a s
    let (y, s) ← eval b s
    pure (← apply op x y, s)
  | .choose test a b => do
    let (x, s) ← eval test s
    if x = 0 then eval b s else eval a s
  | .assign n op e => do
    let (y, s) ← eval e s
    let v ← match op with
      | none => pure y
      | some op => apply op (← valueOfText (s.get n)) y
    pure (v, { s with changed := (n, Decimal.ofInt64 v) :: s.changed })

def Fault.message (f : Fault) (text : Bytes) : Bytes :=
  let wrong (what : String) : Bytes :=
    utf8 "arithmetic expression: " ++ utf8 what ++ utf8 ": \"" ++ text ++ utf8 "\""
  match f with
  | .expectingPrimary => wrong "expecting primary"
  | .expectingClose => wrong "expecting ')'"
  | .expectingColon => wrong "expecting ':'"
  | .expectingEnd => wrong "expecting EOF"
  | .divisionByZero => wrong "division by zero"
  | .illegalNumber t => utf8 "Illegal number: " ++ t

end Arithmetic

end Script

end LineCoverage
