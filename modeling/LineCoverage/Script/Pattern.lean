import LineCoverage.Bytes

/-!
# Patterns of scripts

A pattern is matched against a whole text: a star stands for any text, a question mark for any byte, and
brackets for one byte of a set. A byte that was quoted stands for itself.
-/

namespace LineCoverage

namespace Script

structure Mark where
  byte : UInt8
  quoted : Bool
  deriving DecidableEq, Repr

namespace Pattern

inductive Atom where
  | byte (b : UInt8)
  | any
  | many
  | oneOf (negated : Bool) (ranges : List (UInt8 × UInt8))
  deriving DecidableEq, Repr

def classRanges? (name : Bytes) : Option (List (UInt8 × UInt8)) :=
  let digit := (ch '0', ch '9')
  let upper := (ch 'A', ch 'Z')
  let lower := (ch 'a', ch 'z')
  if name = utf8 "alnum" then some [digit, upper, lower]
  else if name = utf8 "alpha" then some [upper, lower]
  else if name = utf8 "blank" then some [(0x20, 0x20), (0x09, 0x09)]
  else if name = utf8 "cntrl" then some [(0, 0x1F), (0x7F, 0x7F)]
  else if name = utf8 "digit" then some [digit]
  else if name = utf8 "graph" then some [(0x21, 0x7E)]
  else if name = utf8 "lower" then some [lower]
  else if name = utf8 "print" then some [(0x20, 0x7E)]
  else if name = utf8 "punct" then some [(0x21, 0x2F), (0x3A, 0x40), (0x5B, 0x60), (0x7B, 0x7E)]
  else if name = utf8 "space" then some [(0x20, 0x20), (0x09, 0x0D)]
  else if name = utf8 "upper" then some [upper]
  else if name = utf8 "xdigit" then some [digit, (ch 'A', ch 'F'), (ch 'a', ch 'f')]
  else none

def namedClass? (s : List Mark) : Option (List (UInt8 × UInt8) × List Mark) :=
  match s with
  | colon :: rest =>
    if colon.byte ≠ ch ':' then none
    else
      let name := rest.takeWhile (·.byte ≠ ch ':')
      match rest.drop name.length with
      | _ :: close :: after =>
        if close.byte = ch ']' then (classRanges? (name.map (·.byte))).map (·, after) else none
      | _ => none
  | [] => none

/-- The ranges of a set up to its closing bracket, and what follows it. The first byte of a set is never
the closing one. -/
def ranges? (isFirst : Bool) : (fuel : Nat) → List Mark → Option (List (UInt8 × UInt8) × List Mark)
  | 0, _ => none
  | _, [] => none
  | fuel + 1, m :: rest =>
    if m.byte = ch ']' && !m.quoted && !isFirst then some ([], rest)
    else
      match if m.byte = ch '[' && !m.quoted then namedClass? rest else none with
      | some (found, after) => (ranges? false fuel after).map fun (more, rest) => (found ++ more, rest)
      | none =>
        match rest with
        | dash :: high :: after =>
          if dash.byte = ch '-' && !dash.quoted && !(high.byte = ch ']' && !high.quoted) then
            (ranges? false fuel after).map fun (more, rest) => ((m.byte, high.byte) :: more, rest)
          else (ranges? false fuel rest).map fun (more, rest) => ((m.byte, m.byte) :: more, rest)
        | _ => (ranges? false fuel rest).map fun (more, rest) => ((m.byte, m.byte) :: more, rest)

def set? (s : List Mark) : Option (Atom × List Mark) :=
  match s with
  | m :: rest =>
    if m.byte = ch '!' && !m.quoted then
      (ranges? true (s.length + 1) rest).map fun (rs, rest) => (.oneOf true rs, rest)
    else (ranges? true (s.length + 1) s).map fun (rs, rest) => (.oneOf false rs, rest)
  | [] => none

/-- The pattern that marked bytes make. A bracket without its partner stands for itself. -/
def compile : (fuel : Nat) → List Mark → List Atom
  | 0, _ => []
  | _, [] => []
  | fuel + 1, m :: rest =>
    if m.quoted then .byte m.byte :: compile fuel rest
    else if m.byte = ch '*' then .many :: compile fuel rest
    else if m.byte = ch '?' then .any :: compile fuel rest
    else if m.byte = ch '[' then
      match set? rest with
      | some (a, after) => a :: compile fuel after
      | none => .byte m.byte :: compile fuel rest
    else .byte m.byte :: compile fuel rest

def ofMarks (s : List Mark) : List Atom := compile (s.length + 1) s

def Atom.admits : Atom → UInt8 → Bool
  | .byte x, b => x = b
  | .any, _ => true
  | .many, _ => true
  | .oneOf negated ranges, b => (ranges.any fun (low, high) => low ≤ b && b ≤ high) ≠ negated

def fits (pattern : List Atom) (s : Bytes) : Bool :=
  match pattern, s with
  | [], s => s.isEmpty
  | .many :: rest, [] => fits rest []
  | .many :: rest, b :: after => fits rest (b :: after) || fits (.many :: rest) after
  | _ :: _, [] => false
  | a :: rest, b :: after => a.admits b && fits rest after
termination_by (s.length, pattern.length)

def isOpen (pattern : List Atom) : Bool :=
  pattern.any fun
    | .byte _ => false
    | _ => true

def trim (pattern : List Atom) (atEnd longest : Bool) (s : Bytes) : Bytes :=
  let lengths := List.range (s.length + 1)
  if atEnd then
    -- The rest is the longer, the shorter the match.
    let order := if longest then lengths else lengths.reverse
    match order.find? fun n => fits pattern (s.drop n) with
    | some n => s.take n
    | none => s
  else
    let order := if longest then lengths.reverse else lengths
    match order.find? fun n => fits pattern (s.take n) with
    | some n => s.drop n
    | none => s

end Pattern

end Script

end LineCoverage
