import LineCoverage.Text.Case
import LineCoverage.Text.Decimal
import LineCoverage.Text.Glob
import LineCoverage.Text.Letter

/-!
# Templates

Texts with variables in them. A variable stands between `${` and a closing brace, behind its name may
come an operation on its value. Two dollar signs stand for one; a lone one is text. A backslash in front
of a slash or of another backslash is left out.
-/

namespace LineCoverage

namespace Template

inductive Operation where
  | keep
  | length
  | orElse
  | small (whole : Bool)
  | capital (whole : Bool)
  | slice
  | replace (all : Bool)
  | replaceHead
  | replaceTail
  | trimHead (longest : Bool)
  | trimTail (longest : Bool)
  deriving DecidableEq, Repr

inductive Piece where
  | text (t : Bytes)
  | reference (name : Bytes) (op : Operation) (args : List Piece)

inductive Fault where
  | badSubstitution
  | missingBrace
  | badName
  | badParameter
  deriving DecidableEq, Repr

def Fault.message : Fault → String
  | .badSubstitution => "bad substitution"
  | .missingBrace => "missing closing brace"
  | .badName => "unable to parse variable name"
  | .badParameter => "unable to parse substitution within function"

/-! ## Operations -/

/-- The bytes from a position on, as many as the length says. Positions below zero count from the end. A
text that is no number leaves the value as it is. -/
def slice (value : Bytes) (args : List Bytes) : Bytes :=
  let size : Int := value.length
  let from? := args.head?.bind fun a => (Decimal.readSigned a).toOption
  match from? with
  | none => value
  | some start =>
    let start := if start.toInt < 0 then max 0 (size + start.toInt) else start.toInt
    match args.drop 1 with
    | [] => value.drop start.toNat
    | a :: _ =>
      match (Decimal.readSigned a).toOption with
      | none => value
      | some count =>
        if size ≤ start + count.toInt then value.drop start.toNat
        else (value.drop start.toNat).take count.toInt.toNat

def splitAtFirst (part : Bytes) : Bytes → Option (Bytes × Bytes)
  | [] => if part.isEmpty then some ([], []) else none
  | b :: rest =>
    if part.isPrefixOf (b :: rest) then some ([], (b :: rest).drop part.length)
    else (splitAtFirst part rest).map fun (before, after) => (b :: before, after)

def replaceFirst (value part other : Bytes) : Bytes :=
  match splitAtFirst part value with
  | some (before, after) => before ++ other ++ after
  | none => value

/-- Replaces a text everywhere. The empty text stands before every character and at the end. -/
def replaceAll (value part other : Bytes) : Bytes :=
  if part.isEmpty then
    other ++ (Utf8.units value).flatMap fun
      | .char _ bytes => bytes ++ other
      | .stray b => b :: other
  else
    let rec go : (fuel : Nat) → Bytes → Bytes
      | 0, s => s
      | fuel + 1, s =>
        match splitAtFirst part s with
        | some (before, after) => before ++ other ++ go fuel after
        | none => s
    go value.length value

/-- Drops the longest head that fits a pattern, of those with at most `n` bytes, but no empty one. The
value stays as it is if the pattern turns out to be malformed before. -/
def trimLongest (pattern value : Bytes) : Nat → Bytes
  | 0 => value
  | n + 1 =>
    match Glob.matches? pattern (value.take (n + 1)) with
    | .fits () => value.drop (n + 1)
    | .differs => trimLongest pattern value n
    | .malformed => value

/-- Drops the shortest head that fits a pattern, but no empty one. All heads are tried, and the value
stays as it is if one of them shows that the pattern is malformed. -/
def trimShortest (pattern value : Bytes) : Bytes :=
  let heads := (List.range' 1 value.length).map fun n => (n, Glob.matches? pattern (value.take n))
  if heads.any (·.2 = .malformed) then value
  else
    match heads.find? (·.2 = .fits ()) with
    | some (n, _) => value.drop n
    | none => value

def trimHead (longest : Bool) (value pattern : Bytes) : Bytes :=
  if longest then trimLongest pattern value value.length else trimShortest pattern value

def reversed (s : Bytes) : Bytes := (Utf8.codePoints s).reverse.flatMap Utf8.encode

def apply (op : Operation) (value : Bytes) (args : List Bytes) : Bytes :=
  match op, args with
  | .keep, _ => value
  | .length, _ => Decimal.ofNat value.length
  | .orElse, args => if value.isEmpty then args.flatten else value
  | .small true, _ => Case.mapText Case.toSmall value
  | .small false, _ => Case.mapFirst Case.toSmall value
  | .capital true, _ => Case.mapText Case.toCapital value
  | .capital false, _ => Case.mapFirst Case.toCapital value
  | .slice, args => slice value args
  | .replace all, part :: others =>
    if all then replaceAll value part (others.headD []) else replaceFirst value part (others.headD [])
  | .replaceHead, [part, other] => if part.isPrefixOf value then other ++ value.drop part.length else value
  | .replaceTail, [part, other] =>
    if part.isSuffixOf value then value.take (value.length - part.length) ++ other else value
  | .trimHead longest, pattern :: _ => trimHead longest value pattern
  | .trimTail longest, pattern :: _ => reversed (trimHead longest (reversed value) (reversed pattern))
  | _, _ => value

def Piece.expand (env : Bytes → Bytes) : Piece → Bytes
  | .text t => t
  | .reference name op args => apply op (env name) (args.map (expand env))

/-! ## Reading -/

abbrev Reader (α : Type) := Bytes → Except Fault (α × Bytes)

def opens : Bytes → Bool
  | a :: b :: _ => a = ch '$' && b = 0x7B
  | _ => false

def closing : UInt8 := 0x7D

/-- Whether the first of two bytes only says that the second is text: a dollar sign before another, and a
backslash before a slash or another. -/
def escapes (a b : UInt8) : Bool :=
  (a = ch '$' && b = ch '$') || (a = ch '\\' && (b = ch '/' || b = ch '\\'))

def takeText (escaped : Bool) (stop : UInt8 → Bool) : Bytes → Bytes × Bytes
  | [] => ([], [])
  | [b] => if stop b then ([], [b]) else ([b], [])
  | a :: b :: rest =>
    if opens (a :: b :: rest) then ([], a :: b :: rest)
    else if escaped && escapes a b then
      let (text, after) := takeText escaped stop rest
      (b :: text, after)
    else if stop a then ([], a :: b :: rest)
    else
      let (text, after) := takeText escaped stop (b :: rest)
      (a :: text, after)

def takeName (s : Bytes) : Bytes × Bytes :=
  let units := (Utf8.units s).takeWhile fun
    | .char code _ => code = '_'.toNat || Letter.isLetterOrDigit code
    | .stray _ => false
  let size := units.foldl (fun n u => n + u.width) 0
  (s.take size, s.drop size)

def closeWith (fault : Fault) (piece : Piece) : Reader Piece
  | b :: rest => if b = closing then .ok (piece, rest) else .error fault
  | [] => .error fault

/-- The sign of an operation, of one or two bytes: the first, and one of those that may follow it. -/
def takeSign (second : UInt8 → Bool) : Bytes → Bytes × Bytes
  | a :: b :: rest => if second b then ([a, b], rest) else ([a], b :: rest)
  | s => (s, [])

mutual

def readVariable : (fuel : Nat) → Reader Piece
  | 0, _ => .error .badSubstitution
  | fuel + 1, s =>
    match s with
    | [] => .error .badName
    | b :: rest =>
      if b = ch '#' then
        let (name, rest) := takeName rest
        if name.isEmpty then .error .badSubstitution
        else closeWith .badSubstitution (.reference name .length []) rest
      else
        let (name, rest) := takeName s
        if name.isEmpty then .error .badName else readOperation name fuel rest

def readOperation (name : Bytes) : (fuel : Nat) → Reader Piece
  | 0, _ => .error .badSubstitution
  | fuel + 1, s =>
    match s with
    | [] => .error .missingBrace
    | b :: rest =>
      let is (x : UInt8) (c : Char) : Bool := x = ch c
      if is b ':' then
        match rest with
        | [] => .error .badSubstitution
        | c :: args =>
          if is c '=' || is c '-' || is c '?' || is c '+' then readDefault name [] fuel args
          else if (Utf8.firstUnit c args).width = 1 then readSlice name fuel rest
          else .error .badSubstitution
      else if is b '=' then readDefault name [] fuel rest
      else if is b ',' || is b '^' then
        let (sign, rest) := takeSign (fun c => is c ',' || is c '^') s
        let op := if sign = utf8 "," then .small false
          else if sign = utf8 ",," then .small true
          else if sign = utf8 "^" then .capital false
          else if sign = utf8 "^^" then .capital true
          else .keep
        closeWith .badSubstitution (.reference name op []) rest
      else if is b '/' then
        let (sign, rest) := takeSign (fun c => is c '/' || is c '#' || is c '%') s
        let op := if sign = utf8 "/" then .replace false
          else if sign = utf8 "//" then .replace true
          else if sign = utf8 "/#" then .replaceHead
          else .replaceTail
        readReplacement name op fuel rest
      else if is b '#' || is b '%' then
        let (sign, rest) := takeSign (· = b) s
        let longest := sign.length = 2
        let op := if is b '#' then Operation.trimHead longest else .trimTail longest
        match readParameter false (· = closing) fuel rest with
        | .ok (pattern, rest) => closeWith .badSubstitution (.reference name op [pattern]) rest
        | .error fault => .error fault
      else closeWith .missingBrace (.reference name .keep []) s

def readParameter (escaped : Bool) (stop : UInt8 → Bool) : (fuel : Nat) → Reader Piece
  | 0, _ => .error .badSubstitution
  | fuel + 1, s =>
    if opens s then readVariable fuel (s.drop 2)
    else
      let (text, rest) := takeText escaped stop s
      if text.isEmpty then .error .badParameter else .ok (.text text, rest)

def readDefault (name : Bytes) (args : List Piece) : (fuel : Nat) → Reader Piece
  | 0, _ => .error .badSubstitution
  | fuel + 1, s =>
    if s.head? = some closing then .ok (.reference name .orElse args, s.drop 1)
    else
      match readParameter false (· = closing) fuel s with
      | .ok (arg, rest) => readDefault name (args ++ [arg]) fuel rest
      | .error fault => .error fault

def readSlice (name : Bytes) : (fuel : Nat) → Reader Piece
  | 0, _ => .error .badSubstitution
  | fuel + 1, s => do
    let (position, rest) ← readParameter false (fun b => b = ch ':' || b = closing) fuel s
    if rest.head? = some closing then .ok (.reference name .slice [position], rest.drop 1)
    else if rest.head? = some (ch ':') then
      let (count, rest) ← readParameter false (· = closing) fuel (rest.dropWhile (· = ch ':'))
      closeWith .badSubstitution (.reference name .slice [position, count]) rest
    else .error .badSubstitution

def readReplacement (name : Bytes) (op : Operation) : (fuel : Nat) → Reader Piece
  | 0, _ => .error .badSubstitution
  | fuel + 1, s => do
    let (part, rest) ← readParameter true (· = ch '/') fuel s
    if rest.head? ≠ some (ch '/') then .error .badSubstitution
    else
      let rest := rest.dropWhile (· = ch '/')
      if rest.head? = some closing then .ok (.reference name op [part], rest.drop 1)
      else
        let (other, rest) ← readParameter true (· = closing) fuel rest
        closeWith .badSubstitution (.reference name op [part, other]) rest

end

def readPieces : (fuel : Nat) → Bytes → Except Fault (List Piece)
  | 0, _ => .ok []
  | fuel + 1, s =>
    if s.isEmpty then .ok []
    else if opens s then do
      let (piece, rest) ← readVariable (s.length + 2) (s.drop 2)
      pure (piece :: (← readPieces fuel rest))
    else do
      let (text, rest) := takeText true (fun _ => false) s
      pure (.text text :: (← readPieces fuel rest))

/-- A text with its variables replaced by their values. A zero byte ends it. -/
def expand (env : Bytes → Bytes) (s : Bytes) : Except Fault Bytes := do
  let s := s.takeWhile (· ≠ 0)
  let pieces ← readPieces s.length s
  pure (pieces.flatMap (Piece.expand env))

end Template

end LineCoverage
