import LineCoverage.Script.Word
import LineCoverage.Text.Decimal

/-!
# Reading scripts

A script is read one line of commands at a time, or more where a command goes on over several lines.
What is malformed further down is only found once the commands before it were run.
-/

namespace LineCoverage

namespace Script

structure Announced where
  number : Nat
  mark : Bytes
  stripTabs : Bool
  verbatim : Bool

structure Reader where
  rest : Bytes
  line : Nat := 1
  announced : List Announced := []
  documents : List (Nat × Word) := []
  next : Nat := 0

structure Malformed where
  line : Nat
  text : Bytes

abbrev Read := StateT Reader (Except Malformed)

namespace Reader

def fault {α : Type} (text : Bytes) : Read α := do throw ⟨(← get).line, text⟩

def joinLines (r : Reader) : Reader :=
  let rec go (line : Nat) : Bytes → Nat × Bytes
    | a :: b :: rest => if a = ch '\\' && b = newline then go (line + 1) rest else (line, a :: b :: rest)
    | s => (line, s)
  let (line, rest) := go r.line r.rest
  { r with line, rest }

def peek : Read (Option UInt8) := do
  modify joinLines
  return (← get).rest.head?

def drop (n : Nat) : Read Unit := modify fun r => { r with rest := r.rest.drop n }

def advance : Read Unit := modify fun r =>
  { r with line := if r.rest.head? = some newline then r.line + 1 else r.line, rest := r.rest.drop 1 }

def accept (b : UInt8) : Read Bool := do
  if (← peek) = some b then
    advance
    return true
  else return false

def takeWhile (p : UInt8 → Bool) : (fuel : Nat) → Read Bytes
  | 0 => pure []
  | fuel + 1 => do
    match ← peek with
    | some b =>
      if p b then
        drop 1
        return b :: (← takeWhile p fuel)
      else return []
    | none => return []

/-! ## Tokens -/

inductive Token where
  | word (w : Word)
  | redirect (stream : Option Nat) (sign : Bytes)
  | lineEnd
  | scriptEnd
  | sign (text : Bytes)

def keywords : List Bytes :=
  ["!", "case", "do", "done", "elif", "else", "esac", "fi", "for", "if", "in", "then", "until", "while",
    "\x7b", "\x7d"].map utf8

def Token.keyword? : Token → Option Bytes
  | .word w => (plainText? w).filter keywords.contains
  | _ => none

def Token.is (t : Token) (text : String) : Bool :=
  match t with
  | .sign s => s = utf8 text
  | .word w => plainText? w = some (utf8 text)
  | _ => false

def inQuotes (t : Bytes) : Bytes := ch '"' :: t ++ [ch '"']

/-- How a token is named in a complaint. Keywords are only told from words where they can stand. -/
def Token.name (t : Token) (keywords : Bool) : Bytes :=
  match t with
  | .word _ =>
    match t.keyword? with
    | some k => if keywords then inQuotes k else utf8 "word"
    | none => utf8 "word"
  | .redirect .. => utf8 "redirection"
  | .lineEnd => utf8 "newline"
  | .scriptEnd => utf8 "end of file"
  | .sign s => inQuotes s

def unexpected {α : Type} (t : Token) (keywords : Bool) (expected : Option String) : Read α :=
  fault (utf8 "Syntax error: " ++ t.name keywords ++ utf8 " unexpected" ++
    match expected with
    | some e => utf8 " (expecting " ++ utf8 e ++ utf8 ")"
    | none => [])

inductive Ending where
  | word
  | quote
  | brace (quoted : Bool)
  | number (depth : Nat)
  | document
  deriving DecidableEq

def Ending.isQuoted : Ending → Bool
  | .word => false
  | .brace quoted => quoted
  | _ => true

def Ending.escapes (e : Ending) (b : UInt8) : Bool :=
  !e.isQuoted || isOneOf b "\\\x60$" || (b = ch '"' && e ≠ .document) ||
    (b = 0x7D && match e with | .brace _ => true | _ => false)

def Ending.complaint? : Ending → Option Bytes
  | .word => none
  | .document => none
  | .quote => some (utf8 "Syntax error: Unterminated quoted string")
  | .brace true => some (utf8 "Syntax error: Unterminated quoted string")
  | .brace false => some (utf8 "Syntax error: Missing '\x7d'")
  | .number _ => some (utf8 "Syntax error: Missing '))'")

def endsWord (b : UInt8) : Bool := isBlank b || isOneOf b "\n;&|<>()"

def singleQuoted : (fuel : Nat) → Read Bytes
  | 0 => pure []
  | fuel + 1 => do
    match (← get).rest.head? with
    | none => fault (utf8 "Syntax error: Unterminated quoted string")
    | some b =>
      advance
      if b = ch '\'' then return [] else return b :: (← singleQuoted fuel)

def backQuoted (quoted : Bool) : (fuel : Nat) → Read Bytes
  | 0 => pure []
  | fuel + 1 => do
    match ← peek with
    | none => fault (utf8 "Syntax error: EOF in backquote substitution")
    | some b =>
      advance
      if b = ch '\x60' then return []
      else if b = ch '\\' then
        match ← peek with
        | some c =>
          advance
          let kept := if isOneOf c "\\\x60$" || (quoted && c = ch '"') then [c] else [b, c]
          return kept ++ (← backQuoted quoted fuel)
        | none => fault (utf8 "Syntax error: EOF in backquote substitution")
      else return b :: (← backQuoted quoted fuel)

/-- The form of a parameter without a word: what stands behind its name. -/
def formSign : Read (Option (Bool × UInt8)) := do
  match ← peek with
  | some b =>
    if b = ch ':' then
      drop 1
      return (← peek).map (true, ·)
    else return some (false, b)
  | none => return none

def fallback? (b : UInt8) : Option Fallback :=
  if b = ch '-' then some .stand
  else if b = ch '=' then some .assign
  else if b = ch '?' then some .fail
  else if b = ch '+' then some .instead
  else none

/-- The name of a parameter between braces, and whether its length is meant. There is none where the
substitution is malformed. -/
def bracedName (fuel : Nat) : Read (Option (Bytes × Bool)) := do
  let some b ← peek | return none
  if isNameStart b then return some (← takeWhile isNameByte fuel, false)
  else if isDigit b then return some (← takeWhile isDigit fuel, false)
  else if b = ch '#' then
    drop 1
    let some c ← peek | return some ([b], false)
    if isNameStart c then return some (← takeWhile isNameByte fuel, true)
    else if isDigit c then return some (← takeWhile isDigit fuel, true)
    else if c = 0x7D then return some ([b], false)
    else if (← get).rest[1]? = some 0x7D && isSign c then
      drop 1
      return some ([c], true)
    else return some ([b], false)
  else if isSign b then
    drop 1
    return some ([b], false)
  else return none

def documentText (mark : Bytes) (stripTabs : Bool) : (fuel : Nat) → Read Bytes
  | 0 => pure []
  | fuel + 1 => do
    let r ← get
    if r.rest.isEmpty then return []
    else
      let line := r.rest.takeWhile (· ≠ newline)
      let ended := line.length < r.rest.length
      let text := if stripTabs then line.dropWhile (· = 0x09) else line
      set { r with rest := r.rest.drop (line.length + 1), line := if ended then r.line + 1 else r.line }
      if text = mark then return []
      else return text ++ (if ended then [newline] else []) ++ (← documentText mark stripTabs fuel)

def Token.endsList : Token → Bool
  | .scriptEnd => true
  | .sign s => s = utf8 ")" || s = utf8 ";;"
  | t =>
    t.keyword?.any (["do", "done", "elif", "else", "esac", "fi", "then", "\x7d"].map utf8).contains

inductive ListKind where
  | line
  | body
  | optional
  deriving DecidableEq

def assignment? : Word → Option (Bytes × Word)
  | .text t :: rest =>
    let name := t.takeWhile (· ≠ ch '=')
    if name.length < t.length && isName name then
      let value := t.drop (name.length + 1)
      some (name, if value.isEmpty then rest else .text value :: rest)
    else none
  | _ => none

def specialNames : List Bytes :=
  [".", ":", "break", "continue", "eval", "exec", "exit", "export", "readonly", "return", "set", "shift", "times",
    "trap", "unset"].map utf8

mutual

/-- The parts of a word up to its ending, which is taken away unless it is white space or a sign. -/
def parts (ending : Ending) : (fuel : Nat) → Read Word
  | 0 => pure []
  | fuel + 1 => do
    match ← peek with
    | none =>
      match ending.complaint? with
      | some text => fault text
      | none => return []
    | some b =>
      if b = ch '\\' then
        drop 1
        match (← get).rest.head? with
        | none => return [.literal [b]]
        | some c =>
          advance
          let kept := if ending.escapes c then [c] else [b, c]
          return .literal kept :: (← parts ending fuel)
      else if b = ch '$' then
        drop 1
        let p ← dollar ending.isQuoted fuel
        return p :: (← parts ending fuel)
      else if b = ch '\x60' then
        drop 1
        let p ← backQuote ending.isQuoted fuel
        return p :: (← parts ending fuel)
      else
        match ending with
        | .word =>
          if endsWord b then return []
          else quotedOrText ending b fuel
        | .quote =>
          advance
          if b = ch '"' then return [] else return .text [b] :: (← parts ending fuel)
        | .brace quoted =>
          if b = 0x7D then
            drop 1
            return []
          else if quoted then
            advance
            if b = ch '"' then parts ending fuel else return .text [b] :: (← parts ending fuel)
          else quotedOrText ending b fuel
        | .number depth =>
          advance
          if b = ch '(' then return .text [b] :: (← parts (.number (depth + 1)) fuel)
          else if b = ch ')' then
            if depth = 0 then
              if ← accept (ch ')') then return [] else return .text [b] :: (← parts ending fuel)
            else return .text [b] :: (← parts (.number (depth - 1)) fuel)
          else return .text [b] :: (← parts ending fuel)
        | .document =>
          advance
          return .text [b] :: (← parts ending fuel)

def quotedOrText (ending : Ending) (b : UInt8) : (fuel : Nat) → Read Word
  | 0 => pure []
  | fuel + 1 => do
    advance
    if b = ch '\'' then
      let t ← singleQuoted ((← get).rest.length + 1)
      return .literal t :: (← parts ending fuel)
    else if b = ch '"' then
      let w ← parts .quote fuel
      return .quoted (joinTexts w) :: (← parts ending fuel)
    else return .text [b] :: (← parts ending fuel)

def dollar (quoted : Bool) : (fuel : Nat) → Read Part
  | 0 => pure (.text [ch '$'])
  | fuel + 1 => do
    match ← peek with
    | none => return .text [ch '$']
    | some b =>
      if b = ch '(' then
        drop 1
        if ← accept (ch '(') then return .number (joinTexts (← parts (.number 0) fuel))
        else
          let body ← commands .optional none fuel
          let t ← token fuel
          if t.is ")" then return .output body else unexpected t true (some "\")\"")
      else if b = 0x7B then
        drop 1
        braced quoted fuel
      else if isNameStart b then return .parameter (← takeWhile isNameByte fuel) .plain
      else if isDigit b || isSign b then
        drop 1
        return .parameter [b] .plain
      else return .text [ch '$']

def braced (quoted : Bool) : (fuel : Nat) → Read Part
  | 0 => pure (.text [])
  | fuel + 1 => do
    let word (quoted : Bool) : Read Word := return joinTexts (← parts (.brace quoted) fuel)
    match ← bracedName fuel with
    | none =>
      let _ ← word quoted
      return .parameter [] .malformed
    | some (name, true) =>
      if ← accept 0x7D then return .parameter name .length
      else
        let _ ← word quoted
        return .parameter name .malformed
    | some (name, false) =>
      if ← accept 0x7D then return .parameter name .plain
      else
        match ← formSign with
        | none =>
          let _ ← word quoted
          return .parameter name .malformed
        | some (colon, b) =>
          match fallback? b with
          | some kind =>
            drop 1
            return .parameter name (.fallback kind colon (← word quoted))
          | none =>
            if !colon && (b = ch '#' || b = ch '%') then
              drop 1
              let longest ← accept b
              return .parameter name (.trim (b = ch '%') longest (← word false))
            else
              let _ ← word quoted
              return .parameter name .malformed

def backQuote (quoted : Bool) : (fuel : Nat) → Read Part
  | 0 => pure (.text [])
  | fuel + 1 => do
    let text ← backQuoted quoted ((← get).rest.length + 1)
    let r ← get
    set { r with rest := text, line := 1, announced := [] }
    let body ← commands .optional none fuel
    let t ← token fuel
    match t with
    | .scriptEnd =>
      modify fun inner => { inner with rest := r.rest, line := r.line, announced := r.announced }
      return .output body
    | _ => unexpected t true none

def readDocuments (announced : List Announced) : (fuel : Nat) → Read Unit
  | 0 => pure ()
  | fuel + 1 => do
    match announced with
    | [] => return ()
    | a :: rest =>
      let first := (← get).line
      let text ← documentText a.mark a.stripTabs ((← get).rest.length + 1)
      let r ← get
      let w ← if a.verbatim then pure [.literal text]
        else
          set { r with rest := text, line := first }
          let w ← parts .document fuel
          modify fun inner => { inner with rest := r.rest, line := r.line }
          pure (joinTexts w)
      modify fun r => { r with documents := (a.number, w) :: r.documents }
      readDocuments rest fuel

def token : (fuel : Nat) → Read Token
  | 0 => pure .scriptEnd
  | fuel + 1 => do
    let two (first second : Char) : Read Token := do
      drop 1
      if ← accept (ch second) then return .sign [ch first, ch second] else return .sign [ch first]
    match ← peek with
    | none => return .scriptEnd
    | some b =>
      if isBlank b then
        drop 1
        token fuel
      else if b = ch '#' then
        modify fun r => { r with rest := r.rest.dropWhile (· ≠ newline) }
        token fuel
      else if b = newline then
        advance
        let announced := (← get).announced
        modify fun r => { r with announced := [] }
        readDocuments announced fuel
        return .lineEnd
      else if b = ch '&' then two '&' '&'
      else if b = ch '|' then two '|' '|'
      else if b = ch ';' then two ';' ';'
      else if b = ch '(' || b = ch ')' then
        drop 1
        return .sign [b]
      else if b = ch '<' || b = ch '>' then redirectSign none
      else if isDigit b && ((← get).rest[1]?.any fun c => c = ch '<' || c = ch '>') then
        drop 1
        redirectSign (some (b.toNat - 48))
      else return .word (joinTexts (← parts .word fuel))

def redirectSign (stream : Option Nat) : Read Token := do
  let some b ← peek | return .scriptEnd
  drop 1
  let some c ← peek | return .redirect stream [b]
  let longer := if b = ch '>' then isOneOf c ">|&" else isOneOf c "<&>"
  if !longer then return .redirect stream [b]
  else
    drop 1
    if b = ch '<' && c = ch '<' then
      if ← accept (ch '-') then return .redirect stream (utf8 "<<-") else return .redirect stream (utf8 "<<")
    else return .redirect stream [b, c]

def skipLineEnds : (fuel : Nat) → Read Unit
  | 0 => pure ()
  | fuel + 1 => do
    let before ← get
    match ← token fuel with
    | .lineEnd => skipLineEnds fuel
    | _ => set before

def tokenOnLine : (fuel : Nat) → Read Token
  | 0 => pure .scriptEnd
  | fuel + 1 => do
    skipLineEnds fuel
    token fuel

def documentMark : (fuel : Nat) → Read (Bytes × Bool)
  | 0 => pure ([], false)
  | fuel + 1 => do
    match ← peek with
    | none => return ([], false)
    | some b =>
      if endsWord b then return ([], false)
      else
        advance
        let (first, quoted) ←
          if b = ch '\'' then pure (← singleQuoted ((← get).rest.length + 1), true)
          else if b = ch '"' then
            let w ← parts .quote fuel
            pure (w.flatMap (fun | .text t => t | .literal t => t | _ => []), true)
          else if b = ch '\\' then
            let next := (← get).rest.take 1
            advance
            pure (next, true)
          else pure ([b], false)
        let (rest, alsoQuoted) ← documentMark fuel
        return (first ++ rest, quoted || alsoQuoted)

def redirect (stream : Option Nat) (sign : Bytes) : (fuel : Nat) → Read Redirect
  | 0 => pure (.document 0 0)
  | fuel + 1 => do
    let stream := stream.getD (if sign.head? = some (ch '<') then 0 else 1)
    if sign = utf8 "<<" || sign = utf8 "<<-" then
      let before ← get
      match ← token fuel with
      | .word _ =>
        set before
        let _ ← takeWhile isBlank fuel
        let (mark, verbatim) ← documentMark fuel
        let r ← get
        let a : Announced := ⟨r.next, mark, sign = utf8 "<<-", verbatim⟩
        set { r with announced := r.announced ++ [a], next := r.next + 1 }
        return .document stream a.number
      | t => unexpected t false none
    else
      match ← token fuel with
      | .word w =>
        if sign = utf8 ">&" || sign = utf8 "<&" then return .stream stream w
        else
          let mode : OpenMode :=
            if sign = utf8 "<" then .input
            else if sign = utf8 ">>" then .append
            else if sign = utf8 "<>" then .both
            else if sign = utf8 ">|" then .overwrite
            else .output
          return .file stream mode w
      | t => unexpected t false none

def redirects : (fuel : Nat) → Read (List Redirect)
  | 0 => pure []
  | fuel + 1 => do
    let before ← get
    match ← token fuel with
    | .redirect stream sign =>
      let first ← redirect stream sign fuel
      return first :: (← redirects fuel)
    | _ =>
      set before
      return []

def commands (kind : ListKind) (first : Option Command) : (fuel : Nat) → Read (Option Command)
  | 0 => pure first
  | fuel + 1 => do
    if kind ≠ .line then skipLineEnds fuel
    let before ← get
    match ← token fuel with
    | .lineEnd => return first
    | .scriptEnd => return first
    | t =>
      set before
      if t.endsList && (kind = .optional || (kind = .body && first.isSome)) then return first
      else
        let c ← chain fuel
        let add (c : Command) : Option Command := some ((first.map (.sequence · c)).getD c)
        let behind ← get
        match ← token fuel with
        | .scriptEnd => return add c
        | .lineEnd =>
          if kind = .line then return add c
          else commands kind (add c) fuel
        | t =>
          if t.is "&" then commands kind (add (.background c)) fuel
          else if t.is ";" then commands kind (add c) fuel
          else if kind = .line then unexpected t true none
          else
            set behind
            return add c

def chain : (fuel : Nat) → Read Command
  | 0 => pure (.pipeline [])
  | fuel + 1 => do chainFrom (← pipeline fuel) fuel

def chainFrom (first : Command) : (fuel : Nat) → Read Command
  | 0 => pure first
  | fuel + 1 => do
    let before ← get
    let t ← token fuel
    if t.is "&&" then
      skipLineEnds fuel
      chainFrom (.both first (← pipeline fuel)) fuel
    else if t.is "||" then
      skipLineEnds fuel
      chainFrom (.either first (← pipeline fuel)) fuel
    else
      set before
      return first

def pipeline : (fuel : Nat) → Read Command
  | 0 => pure (.pipeline [])
  | fuel + 1 => do
    let before ← get
    if (← token fuel).is "!" then return .negated (← stages fuel)
    else
      set before
      stages fuel

def stages : (fuel : Nat) → Read Command
  | 0 => pure (.pipeline [])
  | fuel + 1 => do
    let first ← command fuel
    match ← moreStages fuel with
    | [] => return first
    | more => return .pipeline (first :: more)

def moreStages : (fuel : Nat) → Read (List Command)
  | 0 => pure []
  | fuel + 1 => do
    let before ← get
    if (← token fuel).is "|" then
      skipLineEnds fuel
      let c ← command fuel
      return c :: (← moreStages fuel)
    else
      set before
      return []

def body : (fuel : Nat) → Read Command
  | 0 => pure (.pipeline [])
  | fuel + 1 => return (← commands .body none fuel).getD (.pipeline [])

def expect (text : String) : (fuel : Nat) → Read Unit
  | 0 => pure ()
  | fuel + 1 => do
    let t ← tokenOnLine fuel
    if t.is text then return () else unexpected t true (some ("\"" ++ text ++ "\""))

def command : (fuel : Nat) → Read Command
  | 0 => pure (.pipeline [])
  | fuel + 1 => do
    let before ← get
    let t ← token fuel
    let finish (line : Nat) (c : Command) : Read Command := do
      match ← redirects fuel with
      | [] => return c
      | rs => return .redirected line c rs
    if t.is "if" then
      let c ← branch fuel
      finish before.line c
    else if t.is "while" || t.is "until" then
      let test ← body fuel
      expect "do" fuel
      let c := Command.loop (t.is "until") test (← body fuel)
      expect "done" fuel
      finish before.line c
    else if t.is "for" then
      let c ← each before.line fuel
      finish before.line c
    else if t.is "case" then
      let c ← select before.line fuel
      finish before.line c
    else if t.is "(" then
      let c := Command.subshell (← body fuel)
      expect ")" fuel
      finish before.line c
    else if t.is "\x7b" then
      let c ← body fuel
      expect "\x7d" fuel
      finish before.line c
    else
      match t with
      | .word _ =>
        if t.keyword?.isSome then unexpected t true none
        else
          let line := (← get).line
          set before
          simple line [] [] [] fuel
      | .redirect .. =>
        let line := (← get).line
        set before
        simple line [] [] [] fuel
      | t => unexpected t true none

def branch : (fuel : Nat) → Read Command
  | 0 => pure (.pipeline [])
  | fuel + 1 => do
    let test ← body fuel
    expect "then" fuel
    let chosen ← body fuel
    let t ← tokenOnLine fuel
    if t.is "elif" then return .branch test chosen (some (← branch fuel))
    else if t.is "else" then
      let other ← body fuel
      expect "fi" fuel
      return .branch test chosen (some other)
    else if t.is "fi" then return .branch test chosen none
    else unexpected t true (some "\"fi\"")

def wordList : (fuel : Nat) → Read (List Word)
  | 0 => pure []
  | fuel + 1 => do
    match ← token fuel with
    | .word w => return w :: (← wordList fuel)
    | .lineEnd => return []
    | t => if t.is ";" then return [] else unexpected t false none

def each (line : Nat) : (fuel : Nat) → Read Command
  | 0 => pure (.pipeline [])
  | fuel + 1 => do
    let name ← match ← token fuel with
      | .word w =>
        match (plainText? w).filter isName with
        | some name => pure name
        | none => fault (utf8 "Syntax error: Bad for loop variable")
      | _ => fault (utf8 "Syntax error: Bad for loop variable")
    skipLineEnds fuel
    let before ← get
    let t ← token fuel
    let words ←
      if t.is "in" then wordList fuel
      else
        if !t.is ";" then set before
        pure [[Part.quoted [.parameter (utf8 "@") .plain]]]
    expect "do" fuel
    let b ← body fuel
    expect "done" fuel
    return .each line name words b

def select (line : Nat) : (fuel : Nat) → Read Command
  | 0 => pure (.pipeline [])
  | fuel + 1 => do
    match ← token fuel with
    | .word subject =>
      expect "in" fuel
      return .select line subject (← cases fuel)
    | t => unexpected t false (some "word")

def cases : (fuel : Nat) → Read (List (List Word × Option Command))
  | 0 => pure []
  | fuel + 1 => do
    let t ← tokenOnLine fuel
    if t.is "esac" then return []
    else
      let t ← if t.is "(" then token fuel else pure t
      let patterns ← casePatterns t fuel
      let b ← commands .optional none fuel
      let t ← tokenOnLine fuel
      if t.is "esac" then return [(patterns, b)]
      else if t.is ";;" then return (patterns, b) :: (← cases fuel)
      else unexpected t true (some "\";;\"")

def casePatterns (t : Token) : (fuel : Nat) → Read (List Word)
  | 0 => pure []
  | fuel + 1 => do
    let w := match t with
      | .word w => w
      | _ => []
    let next ← token fuel
    if next.is "|" then
      let t ← token fuel
      return w :: (← casePatterns t fuel)
    else if next.is ")" then return [w]
    else unexpected next false (some "\")\"")

def simple (line : Nat) (assignments : List (Bytes × Word)) (words : List Word) (rs : List Redirect) :
    (fuel : Nat) → Read Command
  | 0 => pure (.simple line assignments words rs)
  | fuel + 1 => do
    let before ← get
    match ← token fuel with
    | .word w =>
      match if words.isEmpty then assignment? w else none with
      | some a => simple line (assignments ++ [a]) words rs fuel
      | none => simple line assignments (words ++ [w]) rs fuel
    | .redirect stream sign =>
      let r ← redirect stream sign fuel
      simple line assignments words (rs ++ [r]) fuel
    | t =>
      match t.is "(", words, assignments, rs with
      | true, [w], [], [] =>
        let close ← token fuel
        if !close.is ")" then unexpected close false (some "\")\"")
        else
          match (plainText? w).filter fun n => isName n && !specialNames.contains n with
          | none => fault (utf8 "Syntax error: Bad function name")
          | some name =>
            skipLineEnds fuel
            return .define name (← command fuel)
      | _, _, _, _ =>
        set before
        return .simple line assignments words rs

end

def next? : Read (Option (Option Command)) := do
  let r ← get
  let fuel := 32 * r.rest.length + 64
  let before ← get
  match ← token fuel with
  | .scriptEnd => return none
  | _ =>
    set before
    return some (← commands .line none fuel)

end Reader

end Script

end LineCoverage
