import LineCoverage.Yaml.Token.Scalar

/-!
# Reading tokens

Tokens are read one after the other and queue up until they are taken. A key without a sign of its own
is only known once its colon turns up; the tokens for it are then put in front of it.
-/

namespace LineCoverage

namespace Yaml

namespace Scanner

/-! ## White space -/

/-- Goes to the next token. Where a key may begin in a block, a tab is no white space. Where the known
text began with a byte order mark, the first character of each line is taken for one. -/
def toToken : (fuel : Nat) → Scanner → Option Scanner
  | 0, s => some s
  | fuel + 1, s => do
    let s ← s.want 1
    let s := if s.column = 0 && s.isMarked then s.skip else s
    let tabs := s.inFlow || !s.keyAllowed
    let s ← s.skipAll fun c => c = 0x20 || (tabs && c = 0x09)
    let s ← if s.here = '#'.toNat then skipComments s.left 0 s else some s
    if isBreak s.here then
      let s := (← s.want 2).skipBreak
      toToken fuel (if s.inFlow then s else { s with keyAllowed := true })
    else some s

/-! ## Indentation and keys -/

def maxDepth : Nat := 10000

/-- Begins a block at a column that is deeper than the current one; its token goes in front of the
token with the given number, or behind all others. -/
def indentTo (s : Scanner) (column : Nat) (number : Option Nat) (t : Token) : Option Scanner :=
  if !s.inFlow && s.indent < column then
    let s := { s with outerIndents := s.indent :: s.outerIndents, indent := column }
    if maxDepth < s.outerIndents.length then none
    else
      match number with
      | some n => some (s.insert n t)
      | none => some (s.push t)
  else some s

def unindentTo (column : Int) : (fuel : Nat) → Scanner → Scanner
  | 0, s => s
  | fuel + 1, s =>
    if !s.inFlow && column < s.indent then
      match s.outerIndents with
      | outer :: rest => unindentTo column fuel ({ s with indent := outer, outerIndents := rest }.push .blockEnd)
      | [] => s
    else s

def isNear (s : Scanner) (k : PossibleKey) : Bool := s.line ≤ k.line && s.pos ≤ k.pos + 1024

def currentKey (s : Scanner) : Option PossibleKey := s.keys.back?

def setKey (s : Scanner) (k : PossibleKey) : Scanner := { s with keys := s.keys.pop.push k }

def forgetToken (s : Scanner) (token : Nat) : Scanner := { s with levels := s.levels.erase token }

/-- Gives up the possible key of this level. It fails if a key was required. -/
def dropKey (s : Scanner) : Option Scanner :=
  match s.currentKey with
  | some k =>
    if !k.isOpen then some s
    else if k.required then none
    else some ((s.setKey { k with isOpen := false }).forgetToken k.token)
  | none => some s

def keyHere (s : Scanner) : PossibleKey where
  isOpen := true
  required := !s.inFlow && s.indent = s.column
  token := s.taken + s.queue.length
  pos := s.pos
  line := s.line
  column := s.column

def noteKey (s : Scanner) : Option Scanner :=
  if s.keyAllowed then
    let k := s.keyHere
    s.dropKey.map fun s => { s.setKey k with levels := s.levels.insert k.token (s.keys.size - 1) }
  else some s

def allowKey (s : Scanner) (allowed : Bool) : Scanner := { s with keyAllowed := allowed }

def deepen (s : Scanner) : Option Scanner :=
  if maxDepth < s.keys.size then none
  else some { s with keys := s.keys.push { s.keyHere with isOpen := false, required := false } }

def leave (s : Scanner) : Scanner :=
  match s.currentKey with
  | some k => if s.inFlow then { s.forgetToken k.token with keys := s.keys.pop } else s
  | none => s

/-! ## Tokens -/

def closeAll (s : Scanner) : Option Scanner :=
  (unindentTo (-1) (s.outerIndents.length + 1) s).dropKey.map (·.allowKey false)

def fetchEnd (s : Scanner) : Option Scanner :=
  let s := if s.column = 0 then s else { s with column := 0, line := s.line + 1 }
  s.closeAll.map (·.push .streamEnd)

def fetchDocumentSign (s : Scanner) (t : Token) : Option Scanner := s.closeAll.map fun s => (s.skipMany 3).push t

def readVersionNumber (s : Scanner) : Option (Nat × Scanner) := do
  let stop ← s.skipAll isDigit
  let count := stop.pos - s.pos
  if count = 0 || 2 < count then none
  else some ((s.codes.extract s.pos stop.pos).foldl (fun n c => n * 10 + (c - 0x30)) 0, stop)

def isTagCharacter (c : Nat) : Bool := isWord c || isOneOf c ";/?:@&=+$.!~*'()[],%"

def readTagByte (s : Scanner) : Option (UInt8 × Scanner) := do
  let s ← s.want 3
  if s.here ≠ '%'.toNat then none else pure (UInt8.ofNat (← s.hexNumber? 1 2), s.skipMany 3)

def readTagTail : (count : Nat) → Scanner → Option (Bytes × Scanner)
  | 0, s => some ([], s)
  | count + 1, s => do
    let (b, s) ← s.readTagByte
    if !Utf8.isTail b then none
    else
      let (rest, s) ← readTagTail count s
      pure (b :: rest, s)

def readTagEscape (s : Scanner) : Option (Bytes × Scanner) := do
  let (lead, s) ← s.readTagByte
  let (tail, s) ← readTagTail ((← widthOf? lead) - 1) s
  pure (lead :: tail, s)

def readTagText : (fuel : Nat) → Bytes → Scanner → Option (Bytes × Scanner)
  | 0, text, s => some (text, s)
  | fuel + 1, text, s => do
    let s ← s.want 1
    if s.here = '%'.toNat then
      let (escaped, s) ← s.readTagEscape
      readTagText fuel (text ++ escaped) s
    else if isTagCharacter s.here then readTagText fuel (text ++ Utf8.encode s.here) s.skip
    else some (text, s)

/-- Reads a handle: an exclamation mark, and perhaps a name and another one. -/
def readHandle (s : Scanner) : Option (Bytes × Scanner) := do
  let s ← s.want 1
  if s.here ≠ '!'.toNat then none
  else
    let stop ← s.skip.skipAll isWord
    let stop := if stop.here = '!'.toNat then stop.skip else stop
    pure (s.textBetween s.pos stop.pos, stop)

def isClosed (handle : Bytes) : Bool := 1 < handle.length && handle.getLast? = some (ch '!')

def readVersion (s : Scanner) : Option (Token × Scanner) := do
  let (major, s) ← (← s.skipAll isBlank).readVersionNumber
  if s.here ≠ '.'.toNat then none
  else
    let (minor, s) ← s.skip.readVersionNumber
    pure (.version major minor, s)

def readTagHandle (s : Scanner) : Option (Token × Scanner) := do
  let (handle, s) ← (← s.skipAll isBlank).readHandle
  if handle ≠ utf8 "!" && !isClosed handle then none
  else
    let s ← s.want 1
    if !isBlank s.here then none
    else
      let (text, s) ← readTagText s.left [] (← s.skipAll isBlank)
      let s ← s.want 1
      if text.isEmpty || !isSpace s.here then none else pure (.tagHandle handle text, s)

def readDirective (s : Scanner) : Option (Token × Scanner) := do
  let stop ← s.skipAll isWord
  let name := s.textBetween s.pos stop.pos
  if name.isEmpty || !isSpace stop.here then none
  else
    let (t, s) ←
      if name = utf8 "YAML" then stop.readVersion
      else if name = utf8 "TAG" then stop.readTagHandle
      else none
    let s ← s.skipAll isBlank
    let s ← if s.here = '#'.toNat then s.skipToBreak else some s
    if isBreakOrEnd s.here then pure (t, ← s.skipAnyBreak) else none

def fetchDirective (s : Scanner) : Option Scanner := do
  let (t, s) ← (← s.closeAll).skip.readDirective
  pure (s.push t)

def fetchFlowStart (s : Scanner) (t : Token) : Option Scanner := do
  let s ← (← s.noteKey).deepen
  pure ((s.allowKey true).skip.push t)

def fetchFlowEnd (s : Scanner) (t : Token) : Option Scanner := do
  pure (((← s.dropKey).leave.allowKey false).skip.push t)

def fetchFlowEntry (s : Scanner) : Option Scanner := do
  pure (((← s.dropKey).allowKey true).skip.push .flowEntry)

def fetchBlockEntry (s : Scanner) : Option Scanner := do
  if !s.inFlow && !s.keyAllowed then none
  else
    let s ← s.indentTo s.column none .sequenceStart
    pure (((← s.dropKey).allowKey true).skip.push .blockEntry)

def fetchKey (s : Scanner) : Option Scanner := do
  if !s.inFlow && !s.keyAllowed then none
  else
    let s ← s.indentTo s.column none .mappingStart
    let s ← s.dropKey
    pure ((s.allowKey !s.inFlow).skip.push .key)

def closeKey (s : Scanner) (k : PossibleKey) : Option Scanner := do
  let s ← (s.insert k.token .key).indentTo k.column (some k.token) .mappingStart
  pure (((s.setKey { k with isOpen := false }).forgetToken k.token).allowKey false)

def openValue (s : Scanner) : Option Scanner :=
  if s.inFlow then some (s.allowKey false)
  else if s.keyAllowed then (s.indentTo s.column none .mappingStart).map (·.allowKey true)
  else none

/-- The colon of a value. What stands before it on the line becomes a key if it can. -/
def fetchValue (s : Scanner) : Option Scanner := do
  let s ← match s.currentKey with
    | some k =>
      if !k.isOpen then s.openValue
      else if s.isNear k then s.closeKey k
      else if k.required then none
      else (s.setKey { k with isOpen := false }).openValue
    | none => s.openValue
  pure (s.skip.push .value)

def fetchName (s : Scanner) (make : Bytes → Token) : Option Scanner := do
  let s := ((← s.noteKey).allowKey false).skip
  let stop ← s.skipAll isWord
  if stop.pos = s.pos || !(isSpace stop.here || isOneOf stop.here "?:,]\x7d%@\x60") then none
  else pure (stop.push (make (s.textBetween s.pos stop.pos)))

def readVerbatimTag (s : Scanner) : Option (Token × Scanner) := do
  let (text, s) ← readTagText s.left [] (s.skipMany 2)
  if text.isEmpty || s.here ≠ '>'.toNat then none else pure (.tag [] text, s.skip)

def readShortTag (s : Scanner) : Option (Token × Scanner) := do
  let (handle, s) ← s.readHandle
  if isClosed handle then
    let (suffix, s) ← readTagText s.left [] s
    if suffix.isEmpty then none else pure (.tag handle suffix, s)
  else
    let (suffix, s) ← readTagText s.left (handle.drop 1) s
    pure (if suffix.isEmpty then .tag [] handle else .tag (utf8 "!") suffix, s)

def fetchTag (s : Scanner) : Option Scanner := do
  let s ← ((← s.noteKey).allowKey false).want 2
  let (t, s) ← if s.ahead 1 = '<'.toNat then s.readVerbatimTag else s.readShortTag
  let s ← s.want 1
  if isSpace s.here then pure (s.push t) else none

def fetchBlockScalar (s : Scanner) (folded : Bool) : Option Scanner := do
  let s := (← s.dropKey).allowKey true
  let (text, s) ← s.skip.readBlock folded
  pure (s.push (.scalar (textOf text) false))

def fetchQuoted (s : Scanner) (single : Bool) : Option Scanner := do
  let s := ((← s.noteKey).allowKey false).skip
  let (text, s) ← readQuoted single s.left [] s
  pure (s.push (.scalar (textOf text.reverse) false))

def fetchPlain (s : Scanner) : Option Scanner := do
  let s := (← s.noteKey).allowKey false
  let (text, broken, s) ← readPlain (s.indent + 1) s.left {} [] s
  let s := if broken then s.allowKey true else s
  pure (s.push (.scalar (textOf text.reverse) true))

def startsPlain (s : Scanner) : Bool :=
  let c := s.here
  !(isSpace c || isOneOf c "-?:,[]\x7b\x7d#&*!|>'\"%@\x60") ||
    (c = '-'.toNat && !isBlank (s.ahead 1)) ||
    (!s.inFlow && (c = '?'.toNat || c = ':'.toNat) && !isSpace (s.ahead 1))

def fetchContent (s : Scanner) : Option Scanner :=
  let c := s.here
  let is (x : Char) : Bool := c = x.toNat
  let sign := isSpace (s.ahead 1)
  if is '[' then s.fetchFlowStart .flowSequenceStart
  else if c = 0x7B then s.fetchFlowStart .flowMappingStart
  else if is ']' then s.fetchFlowEnd .flowSequenceEnd
  else if c = 0x7D then s.fetchFlowEnd .flowMappingEnd
  else if is ',' then s.fetchFlowEntry
  else if is '-' && sign then s.fetchBlockEntry
  else if is '?' && (s.inFlow || sign) then s.fetchKey
  else if is ':' && (s.inFlow || sign) then s.fetchValue
  else if is '*' then s.fetchName .alias
  else if is '&' then s.fetchName .anchor
  else if is '!' then s.fetchTag
  else if is '|' && !s.inFlow then s.fetchBlockScalar false
  else if is '>' && !s.inFlow then s.fetchBlockScalar true
  else if is '\'' then s.fetchQuoted true
  else if is '"' then s.fetchQuoted false
  else if s.startsPlain then s.fetchPlain
  else none

/-- Reads one more token. A comment may follow it on its line, unless it is the dash of an entry. -/
def fetch (s : Scanner) : Option Scanner := do
  let s ← s.want 1
  let s ← toToken s.left s
  let s ← (unindentTo s.column (s.outerIndents.length + 1) s).want 4
  if s.here = endMark then s.fetchEnd
  else if s.column = 0 && s.here = '%'.toNat then s.fetchDirective
  else if s.atSign '-' then s.fetchDocumentSign .documentStart
  else if s.atSign '.' then s.fetchDocumentSign .documentEnd
  else
    let s ← s.fetchContent
    if s.queue.getLast? = some .blockEntry then pure s else s.skipLineComment

def readAhead : Nat := 2

def closeLevel (s : Scanner) (level : Nat) : Scanner :=
  { s with keys := s.keys.modify level fun k => { k with isOpen := false } }

def fill : (fuel : Nat) → Scanner → Option Scanner
  | 0, s => some s
  | fuel + 1, s =>
    if s.queue.length ≤ readAhead then s.fetch >>= fill fuel
    else
      match s.levels[s.taken]? with
      | none => some s
      | some level =>
        match s.keys[level]? with
        | none => some s
        | some k =>
          if !k.isOpen then some s
          else if s.isNear k then s.fetch >>= fill fuel
          else if k.required then none
          else some (s.closeLevel level)

end Scanner

def peek : Scan Token := do
  let s ← get
  match s.fill (s.left + Scanner.readAhead + 1) with
  | some s =>
    set s
    pure (s.queue.headD .streamEnd)
  | none => failure

def take : Scan Unit := modify fun s => { s with queue := s.queue.drop 1, taken := s.taken + 1 }

end Yaml

end LineCoverage
