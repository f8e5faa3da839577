import LineCoverage.Yaml.Token

/-!
# Reading scalars

Plain, quoted and block scalars. Line breaks inside plain and quoted scalars are folded: a single one
becomes a blank, and of several the first is dropped. While text is read it is kept in reverse.
-/

namespace LineCoverage

namespace Yaml

namespace Scanner

/-- White space inside a scalar: the blanks, or the line breaks that came with them. -/
structure Gap where
  blanks : List Nat := []
  first : List Nat := []
  others : List Nat := []
  broken : Bool := false

def Gap.text (g : Gap) : List Nat :=
  if g.broken then
    if g.first.head? = some 0x0A then if g.others.isEmpty then [0x20] else g.others
    else g.others ++ g.first
  else g.blanks

/-- Reads white space. In a plain scalar of a block a tab must not stand in the indentation. -/
def readGap (indent : Option Int) : (fuel : Nat) → Gap → Scanner → Option (Gap × Scanner)
  | 0, g, s => some (g, s)
  | fuel + 1, g, s =>
    if isBlank s.here then
      if g.broken && s.here = 0x09 && (indent.any fun i => (s.column : Int) < i) then none
      else
        s.skip.want 1 >>= readGap indent fuel (if g.broken then g else { g with blanks := s.here :: g.blanks })
    else if isBreak s.here then do
      let s ← s.want 2
      let g := if g.broken then { g with others := s.breakText ++ g.others }
        else { g with blanks := [], first := s.breakText, broken := true }
      s.skipBreak.want 1 >>= readGap indent fuel g
    else some (g, s)

/-! ## Plain scalars -/

def endsPlain (s : Scanner) : Bool :=
  isSpace s.here || (s.here = ':'.toNat && isSpace (s.ahead 1)) || (s.inFlow && isOneOf s.here ",?[]\x7b\x7d")

def readPlainWord : (fuel : Nat) → List Nat → Scanner → Option (List Nat × Scanner)
  | 0, text, s => some (text, s)
  | fuel + 1, text, s =>
    if s.endsPlain then some (text, s) else s.skip.want 2 >>= readPlainWord fuel (s.here :: text)

/-- Reads a plain scalar, in reverse, behind a gap. Gives also whether it ended behind a line break. -/
def readPlain (indent : Int) : (fuel : Nat) → Gap → List Nat → Scanner → Option (List Nat × Bool × Scanner)
  | 0, _, _, _ => none
  | fuel + 1, gap, text, s => do
    let s ← s.want 4
    if s.atDocumentSign || s.here = '#'.toNat then some (text, gap.broken, s)
    else
      let (word, s) ← readPlainWord s.left [] s
      let text := if word.isEmpty then text else word ++ (gap.text ++ text)
      let gap := if word.isEmpty then gap else {}
      if isBlank s.here || isBreak s.here then
        let (gap, s) ← readGap (some indent) s.left gap s
        if !s.inFlow && (s.column : Int) < indent then some (text, gap.broken, s)
        else readPlain indent fuel gap text s
      else some (text, gap.broken, s)

/-! ## Quoted scalars -/

inductive Escape where
  | char (code : Nat)
  | digits (count : Nat)

def escape? (c : Nat) : Option Escape :=
  match Char.ofNat c with
  | '0' => some (.char 0)
  | 'a' => some (.char 0x07)
  | 'b' => some (.char 0x08)
  | 't' | '\t' => some (.char 0x09)
  | 'n' => some (.char 0x0A)
  | 'v' => some (.char 0x0B)
  | 'f' => some (.char 0x0C)
  | 'r' => some (.char 0x0D)
  | 'e' => some (.char 0x1B)
  | ' ' => some (.char 0x20)
  | '"' => some (.char 0x22)
  | '\'' => some (.char 0x27)
  | '\\' => some (.char 0x5C)
  | 'N' => some (.char 0x85)
  | '_' => some (.char 0xA0)
  | 'L' => some (.char 0x2028)
  | 'P' => some (.char 0x2029)
  | 'x' => some (.digits 2)
  | 'u' => some (.digits 4)
  | 'U' => some (.digits 8)
  | _ => none

def hexValue? (c : Nat) : Option Nat :=
  if isDigit c then some (c - 0x30)
  else if 0x41 ≤ c && c ≤ 0x46 then some (c - 0x37)
  else if 0x61 ≤ c && c ≤ 0x66 then some (c - 0x57)
  else none

def hexNumber? (s : Scanner) (first count : Nat) : Option Nat :=
  (List.range count).foldlM (fun n i => (hexValue? (s.ahead (first + i))).map (n * 16 + ·)) 0

def readEscape (s : Scanner) : Option (Nat × Scanner) := do
  match ← escape? (s.ahead 1) with
  | .char code => pure (code, s.skipMany 2)
  | .digits count =>
    let s ← (s.skipMany 2).want count
    let code ← s.hexNumber? 0 count
    if (0xD800 ≤ code && code ≤ 0xDFFF) || 0x10FFFF < code then none
    else pure (code, s.skipMany count)

/-- Reads the characters of a quoted scalar, in reverse, up to white space or the closing quote. Gives
also whether an escaped line break ended them, which starts a gap. -/
def readQuotedWord (single : Bool) : (fuel : Nat) → List Nat → Scanner → Option (List Nat × Bool × Scanner)
  | 0, text, s => some (text, false, s)
  | fuel + 1, text, s =>
    let goOn (code : Nat) (s : Scanner) : Option (List Nat × Bool × Scanner) :=
      s.want 2 >>= readQuotedWord single fuel (code :: text)
    if isSpace s.here then some (text, false, s)
    else if single && s.here = '\''.toNat then
      if s.ahead 1 = '\''.toNat then goOn s.here (s.skipMany 2) else some (text, false, s)
    else if !single && s.here = '"'.toNat then some (text, false, s)
    else if !single && s.here = '\\'.toNat then
      if isBreak (s.ahead 1) then (s.want 3).map fun s => (text, true, s.skip.skipBreak)
      else s.readEscape >>= fun (code, s) => goOn code s
    else goOn s.here s.skip

def readQuoted (single : Bool) : (fuel : Nat) → List Nat → Scanner → Option (List Nat × Scanner)
  | 0, _, _ => none
  | fuel + 1, text, s => do
    let s ← s.want 4
    if s.atDocumentSign || s.here = endMark then none
    else
      let (word, escapedBreak, s) ← readQuotedWord single s.left [] s
      let text := word ++ text
      let s ← s.want 1
      if s.here = (if single then '\''.toNat else '"'.toNat) then some (text, s.skip)
      else
        let (gap, s) ← readGap none s.left { broken := escapedBreak } s
        readQuoted single fuel (gap.text ++ text) s

/-! ## Block scalars -/

inductive Chomping where
  | strip
  | clip
  | keep
  deriving DecidableEq

def chomping? (c : Nat) : Option Chomping :=
  if c = '+'.toNat then some .keep else if c = '-'.toNat then some .strip else none

def readIndentDigit (s : Scanner) : Option (Nat × Scanner) :=
  if isDigit s.here then if s.here = '0'.toNat then none else some (s.here - 0x30, s.skip) else some (0, s)

/-- The signs behind the sign of a block scalar: chomping and indentation, in any order. -/
def readBlockSigns (s : Scanner) : Option (Chomping × Nat × Scanner) := do
  let s ← s.want 1
  match chomping? s.here with
  | some c =>
    let (n, s) ← (← s.skip.want 1).readIndentDigit
    pure (c, n, s)
  | none =>
    let (n, s) ← s.readIndentDigit
    if n = 0 then pure (.clip, n, s)
    else
      let s ← s.want 1
      match chomping? s.here with
      | some c => pure (c, n, s.skip)
      | none => pure (.clip, n, s)

/-- Goes over the blanks of an indentation. One of zero is not known yet, and then all blanks count. -/
def skipIndentation (indent : Nat) : (fuel : Nat) → Scanner → Option Scanner
  | 0, s => some s
  | fuel + 1, s =>
    if (indent = 0 || s.column < indent) && s.here = 0x20 then s.skip.want 1 >>= skipIndentation indent fuel
    else some s

/-- Reads indentation and empty lines. An indentation of zero is not known yet. Gives the line breaks,
and the width of the widest indentation. -/
def readBlockBreaks (indent : Nat) : (fuel widest : Nat) → List Nat → Scanner → Option (List Nat × Nat × Scanner)
  | 0, widest, breaks, s => some (breaks, widest, s)
  | fuel + 1, widest, breaks, s => do
    let s ← s.want 1
    let s ← skipIndentation indent s.left s
    let widest := max widest s.column
    if (indent = 0 || s.column < indent) && s.here = 0x09 then none
    else if isBreak s.here then
      let s ← s.want 2
      readBlockBreaks indent fuel widest (s.breakText ++ breaks) s.skipBreak
    else some (breaks, widest, s)

def readLine : (fuel : Nat) → List Nat → Scanner → Option (List Nat × Scanner)
  | 0, text, s => some (text, s)
  | fuel + 1, text, s =>
    if isBreakOrEnd s.here then some (text, s) else s.skip.want 1 >>= readLine fuel (s.here :: text)

def lineJoint (folded wasBlank isBlank : Bool) (first others : List Nat) : List Nat :=
  if folded && !wasBlank && !isBlank && first.head? = some 0x0A then
    if others.isEmpty then [0x20] else others
  else others ++ first

/-- Reads the lines of a block scalar, in reverse. Gives also the line breaks at the end. -/
def readBlockLines (folded : Bool) (indent : Nat) :
    (fuel : Nat) → (wasBlank : Bool) → (text first others : List Nat) → Scanner →
      Option (List Nat × List Nat × List Nat × Scanner)
  | 0, _, text, first, others, s => some (text, first, others, s)
  | fuel + 1, wasBlank, text, first, others, s =>
    if s.column = indent && s.here ≠ endMark then do
      let blank := isBlank s.here
      let text := lineJoint folded wasBlank blank first others ++ text
      let (line, s) ← readLine s.left [] s
      let s ← s.want 2
      let first := s.breakText
      let (others, _, s) ← readBlockBreaks indent s.left 0 [] s.skipBreak
      readBlockLines folded indent fuel blank (line ++ text) first others s
    else some (text, first, others, s)

def readBlock (folded : Bool) (s : Scanner) : Option (List Nat × Scanner) := do
  let (chomping, increment, s) ← s.readBlockSigns
  let s ← s.skipAll isBlank
  let s ← if s.here = '#'.toNat then s.skipLineComment >>= skipToBreak else some s
  if !isBreakOrEnd s.here then none
  else
    let s ← s.skipAnyBreak
    let given := if increment = 0 then 0 else s.indent.toNat + increment
    let (breaks, widest, s) ← readBlockBreaks given s.left 0 [] s
    let indent := if given = 0 then max (max widest (s.indent + 1).toNat) 1 else given
    let s ← s.want 1
    let (text, first, others, s) ← readBlockLines folded indent s.left false [] [] breaks s
    let tail := match chomping with
      | .strip => []
      | .clip => first
      | .keep => others ++ first
    pure ((tail ++ text).reverse, s)

end Scanner

end Yaml

end LineCoverage
