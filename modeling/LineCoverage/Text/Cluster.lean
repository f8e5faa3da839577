import LineCoverage.Text.Cluster.BreakClass

/-!
# Clusters

A cluster is a run of characters that a reader sees as one. A text is cut into clusters where no rule
keeps two characters together.
-/

namespace LineCoverage

namespace Cluster

/-- What stands before a place in a text: the class of the last character, whether a pictograph and a
joiner lead up to it, and whether an odd number of regional indicators does. -/
structure Before where
  last : BreakClass
  afterPicture : Bool
  joined : Bool
  oddRegional : Bool

def Before.start (c : BreakClass) : Before := ⟨c, c = .picture, false, c = .regional⟩

def Before.next (b : Before) (c : BreakClass) : Before :=
  ⟨c, c = .picture || (c = .extend && b.afterPicture), c = .joiner && b.afterPicture,
    c = .regional && !b.oddRegional⟩

def BreakClass.isControl : BreakClass → Bool
  | .control | .carriageReturn | .lineFeed => true
  | _ => false

def Before.joins (b : Before) (c : BreakClass) : Bool :=
  if b.last = .carriageReturn && c = .lineFeed then true
  else if b.last.isControl || c.isControl then false
  else
    match b.last, c with
    | _, .extend | _, .joiner | _, .spacing => true
    | .prepended, _ => true
    | .leading, .leading | .leading, .vowel | .leading, .leadingVowel | .leading, .leadingVowelTrailing => true
    | .leadingVowel, .vowel | .leadingVowel, .trailing | .vowel, .vowel | .vowel, .trailing => true
    | .leadingVowelTrailing, .trailing | .trailing, .trailing => true
    | _, .picture => b.joined
    | .regional, .regional => b.oddRegional
    | _, _ => false

def splitFrom (b : Before) (held : List Nat) : List Nat → List (List Nat)
  | [] => [held.reverse]
  | code :: rest =>
    let c := BreakClass.ofCode code
    if b.joins c then splitFrom (b.next c) (code :: held) rest
    else held.reverse :: splitFrom (.start c) [code] rest

def split : List Nat → List (List Nat)
  | [] => []
  | code :: rest => splitFrom (.start (.ofCode code)) [code] rest

end Cluster

end LineCoverage
