import LineCoverage.Script.Regex
import LineCoverage.Script.Tool.Files
import LineCoverage.Script.Tool.Lines

/-!
# Programs that match

The installed programs that search lines for regular expressions, and the one that evaluates the words of
an expression.
-/

namespace LineCoverage

namespace Script

namespace Search

/-! ## Lines with matches -/

def grepOptions : OptionSet where
  flags := "EFGPivnchHlLoqswxarRzbUZTy"
  valued := "efmABC"
  long := [("extended-regexp", 'E'), ("fixed-strings", 'F'), ("basic-regexp", 'G'), ("ignore-case", 'i'),
    ("invert-match", 'v'), ("line-number", 'n'), ("count", 'c'), ("no-filename", 'h'), ("with-filename", 'H'),
    ("files-with-matches", 'l'), ("files-without-match", 'L'), ("only-matching", 'o'), ("quiet", 'q'), ("silent", 'q'),
    ("no-messages", 's'), ("word-regexp", 'w'), ("line-regexp", 'x'), ("regexp", 'e'), ("max-count", 'm')]

structure Found where
  e : Effect
  any : Bool := false
  failed : Bool := false

def allMatches (r : Regex) (anyCase : Bool) (t : Array UInt8) : (fuel : Nat) → Nat → List (Nat × Nat)
  | 0, _ => []
  | fuel + 1, start =>
    match r.find? anyCase t start with
    | none => []
    | some m =>
      if m.first < m.last then (m.first, m.last) :: allMatches r anyCase t fuel m.last
      else if m.first < t.size then allMatches r anyCase t fuel (m.first + 1)
      else []

def pattern (o : Choices) (texts : List Bytes) : Except String Regex := do
  let rs ← texts.mapM fun t => if o.has 'F' then pure (Regex.ofText t) else Regex.parse (o.has 'E' || o.has 'P') t
  let joined := match rs with
    | [] => Regex.nothing
    | r :: rest => rest.foldl Regex.either r
  pure (if o.has 'x' then .both .lineStart (.both joined .lineEnd) else joined)

/-- Whether a line is to be shown. With whole words, no byte of a word stands around the match. -/
def isHit (o : Choices) (r : Regex) (line : Bytes) : Bool :=
  let anyCase := o.has 'i' || o.has 'y'
  let t := line.toArray
  let hit := if !o.has 'w' then (r.find? anyCase t 0).isSome
    else
      (List.range (t.size + 1)).any fun i =>
        (i = 0 || !(t[i - 1]?).any Regex.isWordByte) &&
          (Regex.steps anyCase t (4 * t.size + 1000) r { position := i }).any fun s =>
            i < s.position && !(t[s.position]?).any Regex.isWordByte
  hit ≠ o.has 'v'

def searchText (o : Choices) (r : Regex) (name : Option Bytes) (shown : Bytes) (f : Found) (text : Bytes) : Found :=
  let lines := (Lines.split text).map Lines.bare
  let hits := lines.zipIdx.filter fun (line, _) => isHit o r line
  let hits := match (o.value? 'm').bind Lines.count? with
    | some n => hits.take n
    | none => hits
  let f := { f with any := f.any || (if o.has 'L' then hits.isEmpty else !hits.isEmpty) }
  let label := (name.map (· ++ utf8 ":")).getD []
  if o.has 'q' then f
  else if o.has 'L' then if hits.isEmpty then { f with e := f.e.writeLine shown } else f
  else if o.has 'l' then if hits.isEmpty then f else { f with e := f.e.writeLine shown }
  else if o.has 'c' then { f with e := f.e.writeLine (label ++ Decimal.ofNat hits.length) }
  else
    hits.foldl (fun f (line, i) =>
      let number := if o.has 'n' then Decimal.ofNat (i + 1) ++ utf8 ":" else []
      if !o.has 'o' then { f with e := f.e.writeLine (label ++ number ++ line) }
      else if o.has 'v' then f
      else
        (allMatches r (o.has 'i') line.toArray (line.length + 1) 0).foldl (fun f (first, last) =>
          { f with e := f.e.writeLine (label ++ number ++ (line.take last).drop first) }) f) f

def grepUsage : Bytes := utf8 "Usage: grep [OPTION]... PATTERNS [FILE]...\nTry 'grep --help' for more information.\n"

def grepWith (always : String) : Tool := fun c =>
  let e := Effect.start c
  let misused (text : Option Bytes) : Effect :=
    let e := match text with
      | some t => e.complain (utf8 "grep") 2 t
      | none => { e with code := 2 }
    { e with chunks := e.chunks ++ [.complaint grepUsage] }
  let args := if always.isEmpty then c.args else utf8 always :: c.args
  match grepOptions.read (args.length + 1) args with
  | .error text => misused (some text)
  | .ok o =>
    let given := (o.found.filter (·.1 = 'e')).map (·.2)
    match if given.isEmpty then o.operands.head? else some [] with
    | none => misused none
    | some first =>
      let texts := (if given.isEmpty then [first] else given).flatMap (·.splitOn newline)
      let paths := if given.isEmpty then o.operands.drop 1 else o.operands
      match pattern o texts with
      | .error text => e.complain (utf8 "grep") 2 (utf8 text)
      | .ok r =>
        let named := (1 < paths.length || o.has 'H') && !o.has 'h'
        let f := (if paths.isEmpty then [utf8 "-"] else paths).foldl (fun (f : Found) path =>
          if path = utf8 "-" then
            searchText o r (if named then some (utf8 "(standard input)") else none) (utf8 "(standard input)")
              { f with e := { f.e with hasRead := true } } c.input
          else
            match Files.content? f.e.disk path with
            | .ok content => searchText o r (if named then some path else none) path f content
            | .error cause =>
              if o.has 's' then { f with failed := true }
              else { f with e := f.e.complain (utf8 "grep") 0 (path ++ utf8 ": " ++ reason cause), failed := true }) { e }
        { f.e with code := if f.failed && !(o.has 'q' && f.any) then 2 else if f.any then 0 else 1 }

def grep : Tool := grepWith ""

/-! ## Expressions -/

inductive ExprFault where
  | missingOperand
  | missingAfter (w : Bytes)
  | unexpected (w : Bytes)
  | expectingClose (w : Bytes)
  | notWhole
  | divisionByZero
  | badRegex (text : String)

def ExprFault.message : ExprFault → Bytes
  | .missingOperand => utf8 "missing operand"
  | .missingAfter w => utf8 "syntax error: missing argument after " ++ quote w
  | .unexpected w => utf8 "syntax error: unexpected argument " ++ quote w
  | .expectingClose w => utf8 "syntax error: expecting ')' after " ++ quote w
  | .notWhole => utf8 "non-integer argument"
  | .divisionByZero => utf8 "division by zero"
  | .badRegex text => utf8 text

def isNull (t : Bytes) : Bool :=
  let digits := if t.head? = some (ch '-') then t.drop 1 else t
  t.isEmpty || (!digits.isEmpty && digits.all (· = ch '0'))

def whole (t : Bytes) : Except ExprFault Int :=
  let digits := if t.head? = some (ch '-') then t.drop 1 else t
  match Lines.count? digits with
  | some n => .ok (if t.head? = some (ch '-') then -(n : Int) else n)
  | none => .error .notWhole

/-- The value of a text matched from its start: what the first group holds, or how long the match is. -/
def matchValue (text regex : Bytes) : Except ExprFault Bytes :=
  match Regex.parse false regex with
  | .error e => .error (.badRegex e)
  | .ok r =>
    let hasGroup := r.hasGroup
    match Regex.matchAt? r false text.toArray 0 with
    | none => .ok (if hasGroup then [] else utf8 "0")
    | some s =>
      if !hasGroup then .ok (Decimal.ofNat s.position)
      else
        match s.groups.lookup 1 with
        | some (first, last) => .ok ((text.take last).drop first)
        | none => .ok []

def operators : List (List String) :=
  [["|"], ["&"], ["<", "<=", "=", "==", "!=", ">=", ">"], ["+", "-"], ["*", "/", "%"], [":"]]

def truth (b : Bool) : Bytes := if b then utf8 "1" else utf8 "0"

def apply (op a b : Bytes) : Except ExprFault Bytes :=
  let is (s : String) : Bool := op = utf8 s
  let order : Ordering := match whole a, whole b with
    | .ok x, .ok y => compare x y
    | _, _ => compare a b
  let calculate (f : Int → Int → Int) : Except ExprFault Bytes := do pure (Decimal.ofInt (f (← whole a) (← whole b)))
  let divide (f : Int → Int → Int) : Except ExprFault Bytes := do
    let x ← whole a
    let y ← whole b
    if y = 0 then .error .divisionByZero else pure (Decimal.ofInt (f x y))
  if is "|" then .ok (if !isNull a then a else if isNull b then utf8 "0" else b)
  else if is "&" then .ok (if isNull a || isNull b then utf8 "0" else a)
  else if is "<" then .ok (truth (order = .lt))
  else if is "<=" then .ok (truth (order ≠ .gt))
  else if is "=" || is "==" then .ok (truth (order = .eq))
  else if is "!=" then .ok (truth (order ≠ .eq))
  else if is ">=" then .ok (truth (order ≠ .lt))
  else if is ">" then .ok (truth (order = .gt))
  else if is "+" then calculate (· + ·)
  else if is "-" then calculate (· - ·)
  else if is "*" then calculate (· * ·)
  else if is "/" then divide Int.tdiv
  else if is "%" then divide Int.tmod
  else matchValue a b

mutual

def level : (fuel : Nat) → List (List String) → Bytes → List Bytes → Except ExprFault (Bytes × List Bytes)
  | 0, _, _, _ => .error .missingOperand
  | fuel + 1, [], before, ws => operand fuel before ws
  | fuel + 1, ops :: deeper, before, ws => do
    let (a, ws) ← level fuel deeper before ws
    levelFrom fuel ops deeper a ws

def levelFrom : (fuel : Nat) → List String → List (List String) → Bytes → List Bytes → Except ExprFault (Bytes × List Bytes)
  | 0, _, _, a, ws => .ok (a, ws)
  | fuel + 1, ops, deeper, a, ws =>
    match ws with
    | op :: rest =>
      if ops.any fun s => utf8 s = op then do
        let (b, rest) ← level fuel deeper op rest
        levelFrom fuel ops deeper (← apply op a b) rest
      else .ok (a, ws)
    | [] => .ok (a, [])

def operand : (fuel : Nat) → Bytes → List Bytes → Except ExprFault (Bytes × List Bytes)
  | 0, _, _ => .error .missingOperand
  | fuel + 1, before, ws => do
    let next (before : Bytes) (ws : List Bytes) : Except ExprFault (Bytes × List Bytes) := operand fuel before ws
    match ws with
    | [] => .error (if before.isEmpty then .missingOperand else .missingAfter before)
    | w :: rest =>
      if w = utf8 "(" then
        let (a, after) ← level fuel operators w rest
        match after with
        | close :: after => if close = utf8 ")" then pure (a, after) else .error (.expectingClose a)
        | [] => .error (.expectingClose a)
      else if w = utf8 ")" then .error (.unexpected w)
      else if w = utf8 "+" && !rest.isEmpty then pure (rest.headD [], rest.drop 1)
      else if w = utf8 "length" && !rest.isEmpty then
        let (a, rest) ← next w rest
        pure (Decimal.ofNat a.length, rest)
      else if w = utf8 "match" && !rest.isEmpty then
        let (a, rest) ← next w rest
        let (b, rest) ← next a rest
        pure (← matchValue a b, rest)
      else if w = utf8 "index" && !rest.isEmpty then
        let (a, rest) ← next w rest
        let (b, rest) ← next a rest
        let i := (a.findIdx? b.contains).map (· + 1)
        pure (Decimal.ofNat (i.getD 0), rest)
      else if w = utf8 "substr" && !rest.isEmpty then
        let (a, rest) ← next w rest
        let (p, rest) ← next a rest
        let (n, rest) ← next p rest
        match whole p, whole n with
        | .ok p, .ok n => pure (if p ≤ 0 || n ≤ 0 then [] else (a.drop (p.toNat - 1)).take n.toNat, rest)
        | _, _ => pure ([], rest)
      else pure (w, rest)

end

def expr : Tool := fun c =>
  let e := Effect.start c
  let args := if c.args.head? = some (utf8 "--") then c.args.drop 1 else c.args
  if args.isEmpty then e.misused c.name 2 ExprFault.missingOperand.message
  else
    match level (16 * args.length + 16) operators [] args with
    | .error fault => e.complain c.name 2 fault.message
    | .ok (value, []) => { e.writeLine value with code := if isNull value then 1 else 0 }
    | .ok (_, w :: _) => e.complain c.name 2 (ExprFault.unexpected w).message

end Search

end Script

end LineCoverage
