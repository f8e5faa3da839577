import LineCoverage.Script.Pattern
import LineCoverage.Script.Word

/-!
# Regular expressions

Regular expressions as the installed programs read them, in the basic and in the extended form, and the
longest match of one that starts first in a line.
-/

namespace LineCoverage

namespace Script

inductive Regex where
  | nothing
  | byte (b : UInt8)
  | any
  | oneOf (negated : Bool) (ranges : List (UInt8 × UInt8))
  | lineStart
  | lineEnd
  | wordEdge (atStart atEnd : Bool)
  | both (a b : Regex)
  | either (a b : Regex)
  | repeated (a : Regex) (least : Nat) (most : Option Nat)
  | group (n : Nat) (a : Regex)
  | again (n : Nat)
  deriving Repr

namespace Regex

/-! ## Reading -/

structure Source where
  rest : Bytes
  groups : Nat := 0

abbrev Parse := StateT Source (Except String)

def isWordByte (b : UInt8) : Bool := isNameByte b

def wordRanges : List (UInt8 × UInt8) := [(ch '0', ch '9'), (ch 'A', ch 'Z'), (ch '_', ch '_'), (ch 'a', ch 'z')]

def spaceRanges : List (UInt8 × UInt8) := [(0x20, 0x20), (0x09, 0x0D)]

def escape? (b : UInt8) : Option Regex :=
  if b = ch 'w' then some (.oneOf false wordRanges)
  else if b = ch 'W' then some (.oneOf true wordRanges)
  else if b = ch 's' then some (.oneOf false spaceRanges)
  else if b = ch 'S' then some (.oneOf true spaceRanges)
  else if b = ch 'b' then some (.wordEdge true true)
  else if b = ch '<' then some (.wordEdge true false)
  else if b = ch '>' then some (.wordEdge false true)
  else if b = ch 'n' then some (.byte newline)
  else if b = ch 't' then some (.byte 0x09)
  else none

def bracketed : Parse Regex := do
  let s ← get
  let negated := s.rest.head? = some (ch '^')
  let body := if negated then s.rest.drop 1 else s.rest
  match Pattern.ranges? true (body.length + 1) (body.map fun b => ⟨b, false⟩) with
  | none => throw "Unmatched [, [^, [:, [., or [="
  | some (ranges, after) =>
    modify fun s => { s with rest := after.map (·.byte) }
    return .oneOf negated ranges

def bounds (extended : Bool) : Parse (Nat × Option Nat) := do
  let s ← get
  let value (t : Bytes) : Nat := t.foldl (fun n b => n * 10 + (b.toNat - 48)) 0
  let least := s.rest.takeWhile isDigit
  let rest := s.rest.drop least.length
  let (most, rest) := match rest with
    | c :: after =>
      if c = ch ',' then
        let digits := after.takeWhile isDigit
        (if digits.isEmpty then none else some (value digits), after.drop digits.length)
      else (some (value least), rest)
    | [] => (some (value least), [])
  let close := if extended then [0x7D] else [ch '\\', 0x7D]
  if !Bytes.startsWith rest close then throw "Unmatched \\\x7b"
  else
    set { s with rest := rest.drop close.length }
    return (value least, most)

mutual

def alternatives (extended : Bool) (depth : Nat) : (fuel : Nat) → Parse Regex
  | 0 => pure .nothing
  | fuel + 1 => do
    let first ← sequence extended depth true fuel
    let bar := if extended then [ch '|'] else [ch '\\', ch '|']
    if Bytes.startsWith (← get).rest bar then
      modify fun s => { s with rest := s.rest.drop bar.length }
      return .either first (← alternatives extended depth fuel)
    else return first

def sequence (extended : Bool) (depth : Nat) (isFirst : Bool) : (fuel : Nat) → Parse Regex
  | 0 => pure .nothing
  | fuel + 1 => do
    let s ← get
    let ends := s.rest.isEmpty ||
      (if extended then s.rest.head? = some (ch '|') || (s.rest.head? = some (ch ')') && depth ≠ 0)
       else Bytes.startsWith s.rest (utf8 "\\|") || Bytes.startsWith s.rest (utf8 "\\)"))
    if ends then
      if !extended && depth = 0 && Bytes.startsWith s.rest (utf8 "\\)") then throw "Unmatched ) or \\)"
      else return .nothing
    else
      let a ← atom extended depth isFirst fuel
      let isAnchor := match a with
        | .lineStart => true
        | _ => false
      let a ← if isAnchor && !extended then pure a else suffixes extended a fuel
      return .both a (← sequence extended depth (isAnchor && !extended) fuel)

def atom (extended : Bool) (depth : Nat) (isFirst : Bool) : (fuel : Nat) → Parse Regex
  | 0 => pure .nothing
  | fuel + 1 => do
    let s ← get
    match s.rest with
    | [] => return .nothing
    | b :: after =>
      set { s with rest := after }
      let endsHere (t : Bytes) : Bool :=
        t.isEmpty || (if extended then true else Bytes.startsWith t (utf8 "\\)") || Bytes.startsWith t (utf8 "\\|"))
      let opened : Parse Regex := do
        let n := (← get).groups + 1
        modify fun s => { s with groups := n }
        let inner ← alternatives extended (depth + 1) fuel
        let close := if extended then [ch ')'] else [ch '\\', ch ')']
        if Bytes.startsWith (← get).rest close then
          modify fun s => { s with rest := s.rest.drop close.length }
          return .group n inner
        else throw "Unmatched ( or \\("
      if b = ch '.' then return .any
      else if b = ch '[' then bracketed
      else if b = ch '^' && (extended || isFirst) then return .lineStart
      else if b = ch '$' && endsHere after then return .lineEnd
      else if extended && b = ch '(' then opened
      else if b = ch '\\' then
        match after with
        | [] => throw "Trailing backslash"
        | c :: later =>
          modify fun s => { s with rest := later }
          if !extended && c = ch '(' then opened
          else if isDigit c && c ≠ ch '0' then return .again (c.toNat - 48)
          else return (escape? c).getD (.byte c)
      else return .byte b

def suffixes (extended : Bool) (a : Regex) : (fuel : Nat) → Parse Regex
  | 0 => pure a
  | fuel + 1 => do
    let s ← get
    let again (n : Nat) (least : Nat) (most : Option Nat) : Parse Regex := do
      set { s with rest := s.rest.drop n }
      suffixes extended (.repeated a least most) fuel
    if s.rest.head? = some (ch '*') then again 1 0 none
    else if extended then
      if s.rest.head? = some (ch '+') then again 1 1 none
      else if s.rest.head? = some (ch '?') then again 1 0 (some 1)
      else if s.rest.head? = some 0x7B && (s.rest.drop 1).head?.any (fun b => isDigit b || b = ch ',') then
        set { s with rest := s.rest.drop 1 }
        let (least, most) ← bounds true
        suffixes extended (.repeated a least most) fuel
      else return a
    else if Bytes.startsWith s.rest (utf8 "\\+") then again 2 1 none
    else if Bytes.startsWith s.rest (utf8 "\\?") then again 2 0 (some 1)
    else if Bytes.startsWith s.rest [ch '\\', 0x7B] then
      set { s with rest := s.rest.drop 2 }
      let (least, most) ← bounds false
      suffixes extended (.repeated a least most) fuel
    else return a

end

def parse (extended : Bool) (s : Bytes) : Except String Regex := do
  let (r, left) ← (alternatives extended 0 (8 * s.length + 8)).run { rest := s }
  if left.rest.isEmpty then pure r else throw "Unmatched ) or \\)"

def ofText (s : Bytes) : Regex := s.foldr (fun b r => .both (.byte b) r) .nothing

def hasGroup : Regex → Bool
  | .group .. => true
  | .both a b => a.hasGroup || b.hasGroup
  | .either a b => a.hasGroup || b.hasGroup
  | .repeated a _ _ => a.hasGroup
  | _ => false

/-! ## Matching -/

structure State where
  position : Nat
  groups : List (Nat × Nat × Nat) := []

def lowerByte (b : UInt8) : UInt8 := if ch 'A' ≤ b && b ≤ ch 'Z' then b + 32 else b

def upperByte (b : UInt8) : UInt8 := if ch 'a' ≤ b && b ≤ ch 'z' then b - 32 else b

/-- Whether two bytes are the same, or differ in case only where that does not count. -/
def same (anyCase : Bool) (a b : UInt8) : Bool := a = b || (anyCase && lowerByte a = lowerByte b)

def inSet (anyCase negated : Bool) (ranges : List (UInt8 × UInt8)) (b : UInt8) : Bool :=
  let has (b : UInt8) : Bool := ranges.any fun (low, high) => low ≤ b && b ≤ high
  (has b || (anyCase && (has (lowerByte b) || has (upperByte b)))) ≠ negated

def steps (anyCase : Bool) (t : Array UInt8) : (fuel : Nat) → Regex → State → List State
  | 0, _, _ => []
  | fuel + 1, r, s =>
    let isWord (i : Nat) : Bool := (t[i]?).any isWordByte
    let before := s.position ≠ 0 && isWord (s.position - 1)
    let one (p : UInt8 → Bool) : List State :=
      if (t[s.position]?).any p then [{ s with position := s.position + 1 }] else []
    match r with
    | .nothing => [s]
    | .byte b => one (same anyCase b)
    | .any => one fun b => b ≠ newline
    | .oneOf negated ranges => one (inSet anyCase negated ranges)
    | .lineStart => if s.position = 0 then [s] else []
    | .lineEnd => if s.position = t.size then [s] else []
    | .wordEdge atStart atEnd =>
      let after := isWord s.position
      if (atStart && !before && after) || (atEnd && before && !after) then [s] else []
    | .both a b => (steps anyCase t fuel a s).flatMap (steps anyCase t fuel b)
    | .either a b => steps anyCase t fuel a s ++ steps anyCase t fuel b s
    | .group n a =>
      (steps anyCase t fuel a s).map fun x =>
        { x with groups := (n, s.position, x.position) :: x.groups.filter (·.1 ≠ n) }
    | .again n =>
      match s.groups.lookup n with
      | none => []
      | some (first, last) =>
        let text := t.extract first last
        if (t.extract s.position (s.position + text.size)).toList.zip text.toList |>.all (fun (a, b) => same anyCase a b) then
          if s.position + text.size ≤ t.size then [{ s with position := s.position + text.size }] else []
        else []
    | .repeated a least most =>
      if most = some 0 then [s]
      else
        -- A round that takes nothing is not repeated.
        let once := (steps anyCase t fuel a s).filter fun x => s.position < x.position || 0 < least
        let more := once.flatMap (steps anyCase t fuel (.repeated a (least - 1) (most.map (· - 1))))
        if least = 0 then more ++ [s] else more

def longest : List State → Option State
  | [] => none
  | s :: rest =>
    match longest rest with
    | some other => if s.position < other.position then some other else some s
    | none => some s

def matchAt? (r : Regex) (anyCase : Bool) (t : Array UInt8) (start : Nat) : Option State :=
  longest (steps anyCase t (4 * t.size + 1000) r { position := start })

/-- A match: where it starts, where it ends, and what the groups hold. -/
structure Match where
  first : Nat
  last : Nat
  groups : List (Nat × Nat × Nat)

def find? (r : Regex) (anyCase : Bool) (t : Array UInt8) (start : Nat) : Option Match :=
  let starts := (List.range (t.size + 1 - start)).map (· + start)
  starts.firstM fun i => (matchAt? r anyCase t i).map fun s => ⟨i, s.position, s.groups⟩

def occurs (r : Regex) (anyCase : Bool) (line : Bytes) : Bool := (find? r anyCase line.toArray 0).isSome

end Regex

end Script

end LineCoverage
