import LineCoverage.Text.Utf8

/-!
# Wildcards

A pattern is matched against a whole text. `*` stands for any bytes, `?` for one character, brackets for
one character of a class, and a backslash takes the byte behind it as it is. A pattern is only looked at
as far as the text calls for it, so that one with a fault can still be found not to match.
-/

namespace LineCoverage

namespace Glob

/-- What matching a pattern, or a part of it, against the front of a text comes to. -/
inductive Outcome (α : Type) where
  | fits (a : α)
  | differs
  | malformed
  deriving DecidableEq, Repr

def frontChar (s : Bytes) : Nat × Nat := (Utf8.decode? s).getD (0xFFFD, 1)

/-- One character of a class, behind an optional backslash. There has to be something behind it. -/
def classChar? (s : Bytes) : Option (Nat × Bytes) :=
  if s.head? = some (ch '-') || s.head? = some (ch ']') then none
  else
    let body := if s.head? = some (ch '\\') then s.drop 1 else s
    match Utf8.decode? body with
    | some (code, width) => if body.length ≤ width then none else some (code, body.drop width)
    | none => none

/-- Whether a character is in the class that goes on here, with the pattern behind the class. `seen` is
the number of ranges so far and `found` whether one of them holds the character. -/
def inClass (code : Nat) : (fuel seen : Nat) → (found : Bool) → Bytes → Option (Bool × Bytes)
  | 0, _, _, _ => none
  | fuel + 1, seen, found, s =>
    if 0 < seen && s.head? = some (ch ']') then some (found, s.drop 1)
    else do
      let (low, after) ← classChar? s
      let (high, after) ← if after.head? = some (ch '-') then classChar? (after.drop 1) else some (low, after)
      inClass code fuel (seen + 1) (found || (low ≤ code && code ≤ high)) after

/-- Matches a part without stars against the front of a text; what is left of the text. -/
def matchPart : (fuel : Nat) → (part s : Bytes) → Outcome Bytes
  | _, [], s => .fits s
  | 0, _, _ => .differs
  | _, _ :: _, [] => .differs
  | fuel + 1, p :: part, b :: s =>
    let (code, width) := frontChar (b :: s)
    let rest := (b :: s).drop width
    if p = ch '[' then
      let negated := part.head? = some (ch '^')
      let body := if negated then part.drop 1 else part
      match inClass code (body.length + 1) 0 false body with
      | none => .malformed
      | some (found, part) => if found = negated then .differs else matchPart fuel part rest
    else if p = ch '?' then matchPart fuel part rest
    else if p = ch '\\' then
      match part with
      | [] => .malformed
      | q :: part => if q = b then matchPart fuel part s else .differs
    else if p = b then matchPart fuel part s
    else .differs

/-- The end of the part without stars at the front of a pattern. A star in brackets is none. -/
def partEnd (bracketed : Bool) : Bytes → Nat
  | [] => 0
  | [b] => if b = ch '*' && !bracketed then 0 else 1
  | b :: c :: rest =>
    if b = ch '\\' then 2 + partEnd bracketed rest
    else if b = ch '[' then 1 + partEnd true (c :: rest)
    else if b = ch ']' then 1 + partEnd false (c :: rest)
    else if b = ch '*' && !bracketed then 0
    else 1 + partEnd bracketed (c :: rest)

/-- Matches a part behind a star at the first place where it fits; the last part of a pattern has to
use up the text. -/
def matchBehindStar (part : Bytes) (last : Bool) : Bytes → Outcome Bytes
  | [] => .differs
  | _ :: s =>
    match matchPart part.length part s with
    | .fits rest => if last && !rest.isEmpty then matchBehindStar part last s else .fits rest
    | .malformed => .malformed
    | .differs => matchBehindStar part last s

def matchWhole : (fuel : Nat) → (pattern s : Bytes) → Outcome Unit
  | _, [], s => if s.isEmpty then .fits () else .differs
  | 0, _, _ => .differs
  | fuel + 1, pattern, s =>
    let body := pattern.dropWhile (· = ch '*')
    let star := body.length < pattern.length
    let size := partEnd false body
    let part := body.take size
    let others := body.drop size
    if star && part.isEmpty then .fits ()
    else
      let behind := if star then matchBehindStar part others.isEmpty s else .differs
      let found : Outcome Bytes := match matchPart part.length part s with
        | .fits rest => if rest.isEmpty || !others.isEmpty then .fits rest else behind
        | .differs => behind
        | .malformed => .malformed
      match found with
      | .fits rest => matchWhole fuel others rest
      | .differs => .differs
      | .malformed => .malformed

def matches? (pattern s : Bytes) : Outcome Unit := matchWhole pattern.length pattern s

end Glob

end LineCoverage
