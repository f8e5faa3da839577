import LineCoverage.Yaml.Source
import Std.Data.ExtTreeMap

/-!
# YAML tokens

The tokens that a document is made of, and the state of reading them.
-/

namespace LineCoverage

namespace Yaml

inductive Token where
  | streamEnd
  | version (major minor : Nat)
  | tagHandle (handle text : Bytes)
  | documentStart
  | documentEnd
  | sequenceStart
  | mappingStart
  | blockEnd
  | flowSequenceStart
  | flowSequenceEnd
  | flowMappingStart
  | flowMappingEnd
  | blockEntry
  | flowEntry
  | key
  | value
  | alias (name : Bytes)
  | anchor (name : Bytes)
  | tag (handle suffix : Bytes)
  | scalar (text : Bytes) (isPlain : Bool)
  deriving DecidableEq, Repr

/-- A place where a key without a sign of its own may have begun. -/
structure PossibleKey where
  isOpen : Bool
  required : Bool
  token : Nat
  pos : Nat
  line : Nat
  column : Nat

structure Scanner where
  codes : Array Nat
  portions : List Nat
  isWhole : Bool
  known : Nat
  origin : Nat
  pos : Nat
  line : Nat
  column : Nat
  isFresh : Bool
  queue : List Token
  taken : Nat
  indent : Int
  outerIndents : List Int
  keys : Array PossibleKey
  levels : Std.ExtTreeMap Nat Nat
  keyAllowed : Bool

abbrev Scan := StateT Scanner Option

namespace Scanner

def start (source : Source) : Scanner where
  codes := source.codes
  portions := source.portions
  isWhole := source.isWhole
  known := 0
  origin := 0
  pos := 0
  line := 0
  column := 0
  isFresh := false
  queue := []
  taken := 0
  indent := -1
  outerIndents := []
  keys := #[⟨false, false, 0, 0, 0, 0⟩]
  levels := ∅
  keyAllowed := true

def inFlow (s : Scanner) : Bool := 1 < s.keys.size

/-! ## Reading ahead -/

/-- Reads portions until the next `n` characters are known. Behind the end one more character is known
with each reading. -/
def readPortions (n : Nat) : (portions : List Nat) → Scanner → Option Scanner
  | [], s => if s.isWhole then some { s with portions := [], known := s.known + 1 } else none
  | known :: rest, s =>
    if s.pos + n ≤ known then some { s with portions := rest, known := known }
    else readPortions n rest { s with known := known }

/-- Makes sure that the next `n` characters are known. It fails if there is a fault in a portion that
has to be read for them. -/
def want (n : Nat) (s : Scanner) : Option Scanner :=
  if s.pos + n ≤ s.known then some s else readPortions n s.portions { s with origin := s.pos }

def ahead (s : Scanner) (n : Nat) : Nat := (s.codes[s.pos + n]?).getD endMark

def here (s : Scanner) : Nat := s.ahead 0

def left (s : Scanner) : Nat := s.codes.size - s.pos + 1

def isMarked (s : Scanner) : Bool := s.codes[s.origin]? = some byteOrderMark

/-! ## Going on -/

def skip (s : Scanner) : Scanner :=
  { s with pos := s.pos + 1, column := s.column + 1, isFresh := s.isFresh && isBlank s.here }

def skipMany (s : Scanner) (n : Nat) : Scanner := n.repeat skip s

/-- Goes over a line break; a carriage return and a line feed are one. -/
def skipBreak (s : Scanner) : Scanner :=
  let width := if s.here = 0x0D && s.ahead 1 = 0x0A then 2 else if isBreak s.here then 1 else 0
  if width = 0 then s
  else { s with pos := s.pos + width, column := 0, line := s.line + 1, isFresh := true }

def breakText (s : Scanner) : List Nat :=
  if s.here = 0x2028 || s.here = 0x2029 then [s.here] else if isBreak s.here then [0x0A] else []

def skipWhile (p : Nat → Bool) : (fuel : Nat) → Scanner → Option Scanner
  | 0, s => some s
  | fuel + 1, s => if p s.here then s.skip.want 1 >>= skipWhile p fuel else some s

def skipAll (p : Nat → Bool) (s : Scanner) : Option Scanner := do
  let s ← s.want 1
  skipWhile p s.left s

def skipToBreak (s : Scanner) : Option Scanner := skipWhile (!isBreakOrEnd ·) s.left s

def skipAnyBreak (s : Scanner) : Option Scanner :=
  if isBreak s.here then (s.want 2).map skipBreak else some s

def atSign (s : Scanner) (sign : Char) : Bool :=
  s.column = 0 && s.here = sign.toNat && s.ahead 1 = sign.toNat && s.ahead 2 = sign.toNat && isSpace (s.ahead 3)

def atDocumentSign (s : Scanner) : Bool := s.atSign '-' || s.atSign '.'

/-! ## Comments -/

def lookAhead : Nat := 512

/-- The distance to the next comment sign, with only blanks, or blanks and line breaks, before it. It is
looked for from a distance on. -/
def commentAhead? (overBreaks : Bool) : (fuel n : Nat) → Scanner → Option (Option Nat × Scanner)
  | 0, _, s => some (none, s)
  | fuel + 1, n, s => do
    let s ← s.want (n + 1)
    let c := s.ahead n
    if c = '#'.toNat then some (some n, s)
    else if isBlank c || (overBreaks && isNarrowBreak c) then commentAhead? overBreaks fuel (n + 1) s
    else if overBreaks && isWideBreak c && fuel ≠ 0 then (s.want (n + 2)).map (none, ·)
    else some (none, s)

def passComment (target : Nat) : (fuel : Nat) → Scanner → Option Scanner
  | 0, s => some s
  | fuel + 1, s => do
    let s ← s.want 1
    if isBreakOrEnd s.here then
      if target ≤ s.pos then some s else (s.want 2).map skipBreak >>= passComment target fuel
    else passComment target fuel s.skip

/-- Goes over a comment that begins some places ahead and over those that follow it, to the end of the
last one. -/
def skipComments : (fuel n : Nat) → Scanner → Option Scanner
  | 0, _, s => some s
  | fuel + 1, n, s => do
    let s ← passComment (s.pos + n) s.left s
    if isWideBreak s.here then s.want 2
    else
      match ← commentAhead? true (lookAhead - 1) 1 s with
      | (some n, s) => skipComments fuel n s
      | (none, s) => some s

def skipLineComment (s : Scanner) : Option Scanner :=
  if s.isFresh then some s
  else do
    match ← commentAhead? false lookAhead 0 s with
    | (some n, s) => passComment (s.pos + n) s.left s
    | (none, s) => some s

/-! ## Tokens -/

def push (s : Scanner) (t : Token) : Scanner := { s with queue := s.queue ++ [t] }

def insert (s : Scanner) (number : Nat) (t : Token) : Scanner :=
  if number < s.taken then s.push t
  else
    let i := number - s.taken
    { s with queue := s.queue.take i ++ t :: s.queue.drop i }

def textBetween (s : Scanner) (start stop : Nat) : Bytes :=
  (s.codes.extract start stop).toList.flatMap Utf8.encode

end Scanner

def textOf (codes : List Nat) : Bytes := codes.flatMap Utf8.encode

end Yaml

end LineCoverage
