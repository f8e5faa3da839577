import LineCoverage.Script.Tool.Files
import LineCoverage.Script.Arithmetic

/-!
# Conditions

The tests on texts, numbers and files that scripts decide by.
-/

namespace LineCoverage

namespace Script

namespace Condition

inductive Operator where
  | unary
  | binary
  | not
  | both
  | either
  | opening
  | closing
  deriving DecidableEq

def unaryNames : List Bytes :=
  ["-b", "-c", "-d", "-e", "-f", "-g", "-G", "-h", "-k", "-L", "-n", "-O", "-p", "-r", "-s", "-S", "-t", "-u", "-w",
    "-x", "-z"].map utf8

def binaryNames : List Bytes :=
  ["=", "!=", "<", ">", "-eq", "-ne", "-gt", "-ge", "-lt", "-le", "-nt", "-ot", "-ef"].map utf8

def operator? (w : Bytes) : Option Operator :=
  if unaryNames.contains w then some .unary
  else if binaryNames.contains w then some .binary
  else if w = utf8 "!" then some .not
  else if w = utf8 "-a" then some .both
  else if w = utf8 "-o" then some .either
  else if w = utf8 "(" then some .opening
  else if w = utf8 ")" then some .closing
  else none

def isOperand (rest : List Bytes) : Bool :=
  match rest with
  | [] => true
  | [_] => false
  | w :: _ => operator? w = some .binary

def lex : List Bytes → Option Operator
  | [] => none
  | w :: rest =>
    match operator? w with
    | some .unary => if isOperand rest then none else some .unary
    | some .opening => if rest.isEmpty then none else some .opening
    | other => other

def unary (d : Disk) (op arg : Bytes) : Bool :=
  let found := (Files.node? d true arg).toOption
  let node := found.map (·.2)
  let isDevice := found.any fun (place, node) => place.head? = some (utf8 "dev") && node ≠ .directory
  let own := (Files.node? d false arg).toOption.map (·.2)
  if op = utf8 "-n" then !arg.isEmpty
  else if op = utf8 "-z" then arg.isEmpty
  else if op = utf8 "-d" then node = some .directory
  else if op = utf8 "-c" then isDevice
  else if op = utf8 "-f" then !isDevice && node.any fun | .file .. => true | _ => false
  else if op = utf8 "-s" then node.any fun | .file content _ => !content.isEmpty | _ => true
  else if op = utf8 "-x" then node.any fun | .file _ executable => executable | _ => true
  else if op = utf8 "-h" || op = utf8 "-L" then own.any fun | .link _ => true | _ => false
  else if [utf8 "-e", utf8 "-r", utf8 "-w", utf8 "-O", utf8 "-G"].contains op then node.isSome
  else false

def number (t : Bytes) : Except Bytes Int64 :=
  let body := t.dropWhile Arithmetic.isGap
  let (negative, digits) := Decimal.splitSign body
  let run := digits.takeWhile isDigit
  if run.isEmpty || !((digits.drop run.length).dropWhile Arithmetic.isGap).isEmpty then
    .error (utf8 "Illegal number: " ++ t)
  else
    let n := Arithmetic.valueOf 10 run
    .ok (if negative then -n else n)

def binary (d : Disk) (a op b : Bytes) : Except Bytes Bool :=
  let numbers (p : Int64 → Int64 → Bool) : Except Bytes Bool := return p (← number a) (← number b)
  if op = utf8 "=" then .ok (a = b)
  else if op = utf8 "!=" then .ok (a ≠ b)
  else if op = utf8 "<" then .ok (a < b)
  else if op = utf8 ">" then .ok (b < a)
  else if op = utf8 "-eq" then numbers (· = ·)
  else if op = utf8 "-ne" then numbers (· ≠ ·)
  else if op = utf8 "-gt" then numbers (fun x y => y < x)
  else if op = utf8 "-ge" then numbers (fun x y => y ≤ x)
  else if op = utf8 "-lt" then numbers (· < ·)
  else if op = utf8 "-le" then numbers (· ≤ ·)
  else if op = utf8 "-ef" then
    .ok (match Files.node? d true a, Files.node? d true b with
      | .ok (p, _), .ok (q, _) => p = q
      | _, _ => false)
  else if op = utf8 "-nt" then .ok ((Files.node? d true a).toOption.isSome && !(Files.node? d true b).toOption.isSome)
  else .ok (!(Files.node? d true a).toOption.isSome && (Files.node? d true b).toOption.isSome)

mutual

/-- Conditions joined by or, from words whose first is known. Gives the words from the last one of the
condition on. -/
def anyOf (d : Disk) : (fuel : Nat) → Option Operator → List Bytes → Except Bytes (Bool × List Bytes)
  | 0, _, ws => .ok (false, ws)
  | fuel + 1, first, ws => do
    let (a, ws) ← allOf d fuel first ws
    if lex (ws.drop 1) = some .either then
      let (b, ws) ← anyOf d fuel (lex (ws.drop 2)) (ws.drop 2)
      pure (a || b, ws)
    else pure (a, ws)

def allOf (d : Disk) : (fuel : Nat) → Option Operator → List Bytes → Except Bytes (Bool × List Bytes)
  | 0, _, ws => .ok (false, ws)
  | fuel + 1, first, ws => do
    let (a, ws) ← negated d fuel first ws
    if lex (ws.drop 1) = some .both then
      let (b, ws) ← allOf d fuel (lex (ws.drop 2)) (ws.drop 2)
      pure (a && b, ws)
    else pure (a, ws)

def negated (d : Disk) : (fuel : Nat) → Option Operator → List Bytes → Except Bytes (Bool × List Bytes)
  | 0, _, ws => .ok (false, ws)
  | fuel + 1, first, ws => do
    if first = some .not then
      let next := ws.drop 1
      -- Nothing does not hold.
      if next.isEmpty then pure (true, ws)
      else
        let (a, ws) ← negated d fuel (lex next) next
        pure (!a, ws)
    else primary d fuel first ws

def primary (d : Disk) : (fuel : Nat) → Option Operator → List Bytes → Except Bytes (Bool × List Bytes)
  | 0, _, ws => .ok (false, ws)
  | fuel + 1, first, ws =>
    match ws with
    | [] => .ok (false, [])
    | w :: rest =>
      if first = some .opening then
        if lex rest = some .closing then .ok (false, rest)
        else do
          let (a, ws) ← anyOf d fuel (lex rest) rest
          if lex (ws.drop 1) = some .closing then pure (a, ws.drop 1) else .error (utf8 "closing paren expected")
      else if first = some .unary then
        match rest with
        | [] => .error (w ++ utf8 ": argument expected")
        | arg :: _ => .ok (unary d w arg, rest)
      else if lex rest = some .binary then
        match rest with
        | op :: arg :: more => (binary d w op arg).map (·, arg :: more)
        | op :: [] => .error (op ++ utf8 ": argument expected")
        | [] => .ok (!w.isEmpty, ws)
      else .ok (!w.isEmpty, ws)

end

def eval (d : Disk) : (fuel : Nat) → List Bytes → Except Bytes Bool
  | 0, _ => .ok false
  | fuel + 1, ws => do
    let depth := 4 * ws.length + 8
    let whole (first : Option Operator) (ws : List Bytes) : Except Bytes Bool := do
      let (a, rest) ← anyOf d depth first ws
      match rest with
      | w :: _ :: _ => .error (w ++ utf8 ": unexpected operator")
      | _ => pure a
    match ws with
    | [] => pure false
    | [a, op, b] =>
      if operator? op = some .binary then whole none ws
      else if a = utf8 "(" && b = utf8 ")" then whole (lex [op]) [op]
      else if a = utf8 "!" then return !(← eval d fuel [op, b])
      else whole (lex ws) ws
    | [a, b, c, e] =>
      if a = utf8 "(" && e = utf8 ")" then whole (lex [b, c]) [b, c]
      else if a = utf8 "!" then return !(← eval d fuel [b, c, e])
      else whole (lex ws) ws
    | _ => whole (lex ws) ws

end Condition

end Script

end LineCoverage
