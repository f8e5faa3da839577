import LineCoverage.Script.Regex
import LineCoverage.Script.Tool.Files
import LineCoverage.Script.Tool.Lines

/-!
# The line editor

The installed program that edits lines on their way from its input to its output, as a list of commands
says.
-/

namespace LineCoverage

namespace Script

namespace Edit

/-! ## Commands -/

inductive Address where
  | line (n : Nat)
  | last
  | regex (r : Regex) (anyCase : Bool)
  | every (first step : Nat)

inductive Piece where
  | text (t : Bytes)
  | group (n : Nat)

inductive Action where
  | substitute (r : Regex) (anyCase : Bool) (by_ : List Piece) (everywhere : Bool) (nth : Nat) (prints : Bool)
  | translate (pairs : List (UInt8 × UInt8))
  | delete
  | deleteLine
  | print
  | printLine
  | quit (silent : Bool) (code : Nat)
  | number
  | add (t : Bytes)
  | insert (t : Bytes)
  | change (t : Bytes)
  | next
  | join
  | get
  | getMore
  | hold
  | holdMore
  | exchange
  | nothing
  | opens (size : Nat)

structure EditCommand where
  first : Option Address := none
  second : Option Address := none
  negated : Bool := false
  action : Action

/-! ## Reading commands -/

structure Wrong where
  position : Nat
  text : String

structure Source where
  rest : Bytes
  size : Nat

abbrev Parse := StateT Source (Except Wrong)

def wrong {α : Type} (text : String) : Parse α := do
  let s ← MonadState.get
  throw ⟨s.size - s.rest.length, text⟩

def peek : Parse (Option UInt8) := return (← MonadState.get).rest.head?

def drop (n : Nat) : Parse Unit := modify fun s => { s with rest := s.rest.drop n }

def takeWhile (p : UInt8 → Bool) : Parse Bytes := do
  let t := (← MonadState.get).rest.takeWhile p
  drop t.length
  return t

def value (t : Bytes) : Nat := t.foldl (fun n b => n * 10 + (b.toNat - 48)) 0

/-- The text up to a delimiter. A delimiter behind a backslash belongs to it. -/
def delimited (mark : UInt8) (complaint : String) : (fuel : Nat) → Parse Bytes
  | 0 => wrong complaint
  | fuel + 1 => do
    match ← peek with
    | none => wrong complaint
    | some b =>
      drop 1
      if b = mark then return []
      else if b = ch '\\' then
        match ← peek with
        | none => wrong complaint
        | some c =>
          drop 1
          let kept := if c = mark then [c] else if c = ch 'n' && mark ≠ ch 'n' then [b, c] else [b, c]
          return kept ++ (← delimited mark complaint fuel)
      else if b = ch '[' && complaint ≠ "" && mark ≠ ch ']' then
        return b :: (← delimited mark complaint fuel)
      else return b :: (← delimited mark complaint fuel)

def regexOf (extended : Bool) (t : Bytes) : Parse Regex :=
  match Regex.parse extended t with
  | .ok r => pure r
  | .error e => wrong e

def address (extended : Bool) : Parse (Option Address) := do
  match ← peek with
  | none => return none
  | some b =>
    if isDigit b then
      let n ← takeWhile isDigit
      if (← peek) = some (ch '~') then
        drop 1
        let step ← takeWhile isDigit
        return some (.every (value n) (value step))
      else return some (.line (value n))
    else if b = ch '$' then
      drop 1
      return some .last
    else if b = ch '/' || b = ch '\\' then
      drop 1
      let mark ← if b = ch '/' then pure b
        else do
          let m := (← peek).getD (ch '/')
          drop 1
          pure m
      let t ← delimited mark "unterminated address regex" ((← MonadState.get).rest.length + 1)
      let r ← regexOf extended t
      let anyCase := (← peek) = some (ch 'I')
      if anyCase then drop 1
      return some (.regex r anyCase)
    else return none

def pieces : Bytes → List Piece
  | [] => []
  | b :: rest =>
    if b = ch '&' then .group 0 :: pieces rest
    else if b = ch '\\' then
      match rest with
      | [] => [.text [b]]
      | c :: after =>
        if isDigit c then .group (c.toNat - 48) :: pieces after
        else if c = ch 'n' then .text [newline] :: pieces after
        else if c = ch 't' then .text [0x09] :: pieces after
        else .text [c] :: pieces after
    else .text [b] :: pieces rest

def addedText : Parse Bytes := do
  let _ ← takeWhile isBlank
  if (← peek) = some (ch '\\') then
    drop 1
    let _ ← takeWhile isBlank
    if (← peek) = some newline then drop 1
  else pure ()
  let t ← takeWhile (· ≠ newline)
  if t.isEmpty then wrong "expected \\ after \x60a', \x60c' or \x60i'"
  else return t ++ [newline]

def finish : Parse Unit := do
  let _ ← takeWhile isBlank
  match ← peek with
  | none => return ()
  | some b =>
    if b = ch ';' || b = newline then drop 1
    else if b = 0x7D || b = ch '#' then return ()
    else
      drop 1
      wrong "extra characters after command"

def plain : Bytes → Bytes
  | a :: b :: rest => if a = ch '\\' then (if b = ch 'n' then newline else b) :: plain rest else a :: plain (b :: rest)
  | t => t

def action (extended : Bool) (b : UInt8) : Parse Action := do
  let simple (a : Action) : Parse Action := do
    finish
    return a
  let fuel := (← MonadState.get).rest.length + 1
  if b = ch 's' then
    let mark := (← peek).getD 0
    drop 1
    let complaint := "unterminated \x60s' command"
    let t ← delimited mark complaint fuel
    let with_ ← delimited mark complaint fuel
    let flags ← takeWhile fun c => isDigit c || isOneOf c "gpiI"
    let anyCase := flags.any fun c => isOneOf c "iI"
    let r ← regexOf extended t
    if !(← peek).all fun c => isBlank c || isOneOf c ";#\n\x7d" then
      drop 1
      wrong "unknown option to \x60s'"
    else
      finish
      let nth := value (flags.filter isDigit)
      return .substitute r anyCase (pieces with_) (flags.contains (ch 'g')) (max nth 1) (flags.contains (ch 'p'))
  else if b = ch 'y' then
    let mark := (← peek).getD 0
    drop 1
    let complaint := "unterminated \x60y' command"
    let from_ := plain (← delimited mark complaint fuel)
    let target := plain (← delimited mark complaint fuel)
    if from_.length ≠ target.length then wrong "strings for \x60y' command are different lengths"
    else simple (.translate (from_.zip target))
  else if b = ch 'd' then simple .delete
  else if b = ch 'D' then simple .deleteLine
  else if b = ch 'p' then simple .print
  else if b = ch 'P' then simple .printLine
  else if b = ch 'q' || b = ch 'Q' then
    let _ ← takeWhile isBlank
    let code ← takeWhile isDigit
    simple (.quit (b = ch 'Q') (value code % 256))
  else if b = ch '=' then simple .number
  else if b = ch 'a' then return .add (← addedText)
  else if b = ch 'i' then return .insert (← addedText)
  else if b = ch 'c' then return .change (← addedText)
  else if b = ch 'n' then simple .next
  else if b = ch 'N' then simple .join
  else if b = ch 'g' then simple .get
  else if b = ch 'G' then simple .getMore
  else if b = ch 'h' then simple .hold
  else if b = ch 'H' then simple .holdMore
  else if b = ch 'x' then simple .exchange
  else
    match String.fromUTF8? ⟨#[b]⟩ with
    | some t => wrong ("unknown command: \x60" ++ t ++ "'")
    | none => wrong "unknown command"

def commands (extended : Bool) (depth : Nat) : (fuel : Nat) → Parse (List EditCommand)
  | 0 => pure []
  | fuel + 1 => do
    let _ ← takeWhile fun b => isBlank b || b = newline || b = ch ';'
    let first ← address extended
    let _ ← takeWhile isBlank
    let second ← if first.isSome && (← peek) = some (ch ',') then do
        drop 1
        let _ ← takeWhile isBlank
        match ← address extended with
        | some a => pure (some a)
        | none => wrong "unexpected \x60,'"
      else pure none
    let _ ← takeWhile isBlank
    let negated := (← peek) = some (ch '!')
    if negated then drop 1
    let _ ← takeWhile fun b => isBlank b || b = ch '!'
    match ← peek with
    | none =>
      if first.isSome then wrong "missing command"
      else if depth ≠ 0 then throw ⟨0, "unmatched \x60\x7b'"⟩
      else return []
    | some b =>
      drop 1
      if b = ch '#' then
        let _ ← takeWhile (· ≠ newline)
        commands extended depth fuel
      else if b = 0x7D then
        if depth = 0 then wrong "unexpected \x60\x7d'"
        else
          finish
          return []
      else if b = 0x7B then
        let inner ← commands extended (depth + 1) fuel
        let rest ← commands extended depth fuel
        return ⟨first, second, negated, .opens inner.length⟩ :: inner ++ rest
      else
        let a ← action extended b
        return ⟨first, second, negated, a⟩ :: (← commands extended depth fuel)

def parse (extended : Bool) (t : Bytes) : Except Wrong (List EditCommand) :=
  (commands extended 0 (t.length + 1)).run' ⟨t, t.length⟩

/-! ## Editing -/

structure Editor where
  pattern : Bytes := []
  held : Bytes := []
  line : Nat := 0
  rest : List Bytes
  output : Bytes := []
  added : Bytes := []
  active : List (Nat × Option Nat) := []
  quit : Option Nat := none
  dropped : Bool := false
  openEnd : Bool := false

namespace Editor

def isLast (s : Editor) : Bool := s.rest.isEmpty

def fits (s : Editor) : Address → Bool
  | .line n => s.line = n
  | .last => s.isLast
  | .regex r anyCase => r.occurs anyCase s.pattern
  | .every first step => if step = 0 then s.line = first else first ≤ s.line && (s.line - first) % step = 0

def chosen (s : Editor) (id : Nat) (c : EditCommand) : Bool × Editor :=
  match c.first, c.second with
  | none, _ => (true, s)
  | some a, none => (s.fits a, s)
  | some a, some b =>
    let stop := { s with active := s.active.filter (·.1 ≠ id) }
    match s.active.lookup id with
    | some _ =>
      match b with
      | .line n => if n ≤ s.line then (s.line ≤ n, stop) else (true, s)
      | _ => (true, if s.fits b then stop else s)
    | none =>
      if !s.fits a then (false, s)
      else
        match b with
        | .line n => (true, if n ≤ s.line then s else { s with active := (id, some n) :: s.active })
        | _ => (true, { s with active := (id, none) :: s.active })

def writeLine (s : Editor) (t : Bytes) : Editor :=
  { s with output := s.output ++ (if s.isLast && s.openEnd then t else t ++ [newline]) }

def advance? (s : Editor) : Option Editor :=
  match s.rest with
  | [] => none
  | l :: rest => some { s with pattern := l, rest, line := s.line + 1 }

def replacement (t : Array UInt8) (m : Regex.Match) (ps : List Piece) : Bytes :=
  ps.flatMap fun
    | .text x => x
    | .group 0 => (t.extract m.first m.last).toList
    | .group n =>
      match m.groups.lookup n with
      | some (first, last) => (t.extract first last).toList
      | none => []

/-- Replaces matches from the `nth` on. Gives the text and whether something was replaced. -/
def replace (r : Regex) (anyCase : Bool) (ps : List Piece) (everywhere : Bool) (nth : Nat) (t : Array UInt8) :
    (fuel : Nat) → (start count : Nat) → Option Nat → Bytes × Bool
  | 0, start, _, _ => ((t.extract start t.size).toList, false)
  | fuel + 1, start, count, lastEnd =>
    match r.find? anyCase t start with
    | none => ((t.extract start t.size).toList, false)
    | some m =>
      let before := (t.extract start m.first).toList
      let isEmpty := m.first = m.last
      -- Nothing right behind a match is no match.
      if isEmpty && lastEnd = some m.first then
        if t.size ≤ m.first then (before, false)
        else
          let (more, done) := replace r anyCase ps everywhere nth t fuel (m.first + 1) count none
          (before ++ (t.extract m.first (m.first + 1)).toList ++ more, done)
      else
        let counts := nth ≤ count + 1
        let shown := if counts then replacement t m ps else (t.extract m.first m.last).toList
        if counts && !everywhere then (before ++ shown ++ (t.extract m.last t.size).toList, true)
        else if isEmpty then
          if t.size ≤ m.first then (before ++ shown, counts)
          else
            let (more, done) := replace r anyCase ps everywhere nth t fuel (m.first + 1) (count + 1) none
            (before ++ shown ++ (t.extract m.first (m.first + 1)).toList ++ more, done || counts)
        else
          let (more, done) := replace r anyCase ps everywhere nth t fuel m.last (count + 1) (some m.last)
          (before ++ shown ++ more, done || counts)

end Editor

inductive Flow where
  | onward
  | endCycle
  | skip (n : Nat)

def perform (silent : Bool) (s : Editor) (a : Action) (inRange : Bool) : Flow × Editor :=
  match a with
  | .nothing => (.onward, s)
  | .opens _ => (.onward, s)
  | .substitute r anyCase ps everywhere nth prints =>
    let t := s.pattern.toArray
    let (text, done) := Editor.replace r anyCase ps everywhere nth t (2 * t.size + 4) 0 0 none
    if !done then (.onward, s)
    else
      let s := { s with pattern := text }
      (.onward, if prints then s.writeLine text else s)
  | .translate pairs => (.onward, { s with pattern := s.pattern.map fun b => (pairs.lookup b).getD b })
  | .delete => (.endCycle, { s with dropped := true })
  | .deleteLine => (.endCycle, { s with dropped := true })
  | .print => (.onward, s.writeLine s.pattern)
  | .printLine => (.onward, s.writeLine (s.pattern.takeWhile (· ≠ newline)))
  | .quit quiet code => (.endCycle, { s with quit := some code, dropped := s.dropped || quiet })
  | .number => (.onward, { s with output := s.output ++ line (Decimal.ofNat s.line) })
  | .add t => (.onward, { s with added := s.added ++ t })
  | .insert t => (.onward, { s with output := s.output ++ t })
  | .change t =>
    -- A range is replaced as a whole, behind its last line.
    (.endCycle, { s with dropped := true, output := if inRange then s.output else s.output ++ t })
  | .next =>
    let s' := if silent then s else s.writeLine s.pattern
    let s' := { s' with output := s'.output ++ s'.added, added := [] }
    match s'.advance? with
    | some s => (.onward, s)
    | none => (.endCycle, { (if silent then s else s) with quit := some 0 })
  | .join =>
    match s.advance? with
    | some n => (.onward, { n with pattern := s.pattern ++ newline :: n.pattern })
    | none => (.endCycle, { s with quit := some 0 })
  | .get => (.onward, { s with pattern := s.held })
  | .getMore => (.onward, { s with pattern := s.pattern ++ newline :: s.held })
  | .hold => (.onward, { s with held := s.pattern })
  | .holdMore => (.onward, { s with held := s.held ++ newline :: s.pattern })
  | .exchange => (.onward, { s with pattern := s.held, held := s.pattern })

def performAll (silent : Bool) : List (EditCommand × Nat) → (skipped : Nat) → Editor → Editor
  | [], _, s => s
  | _ :: rest, skipped + 1, s => performAll silent rest skipped s
  | (c, id) :: rest, 0, s =>
    let (chosen, s) := s.chosen id c
    if chosen = c.negated then
      match c.action with
      | .opens n => performAll silent rest n s
      | _ => performAll silent rest 0 s
    else
      let inRange := c.second.isSome && (s.active.lookup id).isSome && !s.isLast
      match perform silent s c.action inRange with
      | (.onward, s) => performAll silent rest 0 s
      | (.skip n, s) => performAll silent rest n s
      | (.endCycle, s) => s

def cycle (silent : Bool) (cs : List (EditCommand × Nat)) : (fuel : Nat) → Editor → Editor
  | 0, s => s
  | fuel + 1, s =>
    match s.advance? with
    | none => s
    | some s =>
      let s := performAll silent cs 0 { s with dropped := false }
      let s := if silent || s.dropped then s else s.writeLine s.pattern
      let s := { s with output := s.output ++ s.added, added := [] }
      if s.quit.isSome then s else cycle silent cs fuel s

def edit (silent : Bool) (cs : List EditCommand) (text : Bytes) : Bytes × Nat :=
  let lines := (Lines.split text).map Lines.bare
  let s := cycle silent cs.zipIdx (lines.length + 1) { rest := lines, openEnd := text.getLast?.any (· ≠ newline) }
  (s.output, s.quit.getD 0)

def sedOptions : OptionSet where
  flags := "nErsuz"
  valued := "ef"
  long := [("quiet", 'n'), ("silent", 'n'), ("expression", 'e'), ("file", 'f'), ("regexp-extended", 'E'), ("separate", 's'),
    ("posix", 'z'), ("in-place", 'u')]

def sed : Tool := fun c =>
  let e := Effect.start c
  -- Editing in place has its suffix in the same word.
  let isInPlace (w : Bytes) : Bool := Bytes.startsWith w (utf8 "-i") || Bytes.startsWith w (utf8 "--in-place")
  let inPlace := c.args.any isInPlace
  let args := c.args.filter fun w => !isInPlace w
  match sedOptions.read (args.length + 1) args with
  | .error text => e.complain c.name 1 text
  | .ok o =>
    let given := (o.found.filter (·.1 = 'e')).map (·.2)
    let script := if given.isEmpty then o.operands.headD [] else Bytes.join [newline] given
    let paths := if given.isEmpty then o.operands.drop 1 else o.operands
    match parse (o.has 'E' || o.has 'r') script with
    | .error w =>
      e.complain c.name 1 (utf8 "-e expression #1, char " ++ Decimal.ofNat w.position ++ utf8 ": " ++ utf8 w.text)
    | .ok cs =>
      let silent := o.has 'n'
      let fail (e : Effect) (path : Bytes) (cause : SystemCause) : Effect :=
        match cause with
        | .isDirectory => e.complain c.name 2 ((if inPlace then utf8 "couldn't edit " else utf8 "read error on ") ++ path ++
            (if inPlace then utf8 ": not a regular file" else utf8 ": Is a directory"))
        | _ => e.complain c.name 2 (utf8 "can't read " ++ path ++ utf8 ": " ++ reason cause)
      if inPlace then
        paths.foldl (fun e path =>
          match e.disk.resolve true path with
          | .ok (.found place (.file content executable)) =>
            let (text, code) := edit silent cs content
            { e with disk := e.disk.put place (.file text executable), code := max e.code code }
          | .ok (.found ..) => fail e path .isDirectory
          | .ok (.free _) => fail e path .noEntry
          | .error cause => fail e path cause) e
      else
        let (e, text) := (if paths.isEmpty then [utf8 "-"] else paths).foldl (fun ((e, text) : Effect × Bytes) path =>
          -- A file that ends without a line end is ended by the next one.
          let join (a b : Bytes) : Bytes := if a.getLast?.any (· ≠ newline) && !b.isEmpty then a ++ newline :: b else a ++ b
          if path = utf8 "-" then ({ e with hasRead := true }, join text c.input)
          else
            match Files.content? e.disk path with
            | .ok content => (e, join text content)
            | .error cause => (fail e path cause, text)) (e, [])
        let (shown, code) := edit silent cs text
        { e.write shown with code := if code ≠ 0 then code else e.code }

end Edit

end Script

end LineCoverage
