import LineCoverage.Text.Utf8

/-!
# The text of a document

The classes of characters that matter to the structure of a document, and a text as it is read: in
portions, so that a fault far behind the first document is never seen.
-/

namespace LineCoverage

namespace Yaml

/-! ## Characters -/

def endMark : Nat := 0

def isBlank (c : Nat) : Bool := c = 0x20 || c = 0x09

def isNarrowBreak (c : Nat) : Bool := c = 0x0A || c = 0x0D

def isWideBreak (c : Nat) : Bool := c = 0x85 || c = 0x2028 || c = 0x2029

def isBreak (c : Nat) : Bool := isNarrowBreak c || isWideBreak c

def isBreakOrEnd (c : Nat) : Bool := isBreak c || c = endMark

def isSpace (c : Nat) : Bool := isBlank c || isBreakOrEnd c

def isDigit (c : Nat) : Bool := 0x30 ≤ c && c ≤ 0x39

def isLetter (c : Nat) : Bool := (0x41 ≤ c && c ≤ 0x5A) || (0x61 ≤ c && c ≤ 0x7A)

def isWord (c : Nat) : Bool := isDigit c || isLetter c || c = 0x5F || c = 0x2D

def isOneOf (c : Nat) (text : String) : Bool := text.toList.any fun x => x.toNat = c

def isAllowed (c : Nat) : Bool :=
  c = 0x09 || c = 0x0A || c = 0x0D || (0x20 ≤ c && c ≤ 0x7E) || c = 0x85 ||
    (0xA0 ≤ c && c ≤ 0xD7FF) || (0xE000 ≤ c && c ≤ 0xFFFD) || (0x10000 ≤ c && c ≤ 0x10FFFF)

def byteOrderMark : Nat := 0xFEFF

/-! ## Encodings -/

inductive Piece where
  | char (code width : Nat)
  | fault (width : Nat)
  | cut
  deriving DecidableEq, Repr

def widthOf? (lead : UInt8) : Option Nat :=
  if lead < 0x80 then some 1
  else if 0xC0 ≤ lead && lead < 0xE0 then some 2
  else if 0xE0 ≤ lead && lead < 0xF0 then some 3
  else if 0xF0 ≤ lead && lead < 0xF8 then some 4
  else none

def utf8Piece (lead : UInt8) (rest : Bytes) : Piece :=
  match widthOf? lead with
  | none => .fault 1
  | some width =>
    if (rest.take (width - 1)).length + 1 < width then .cut
    else
      match Utf8.decode? (lead :: rest) with
      | some (code, _) => if isAllowed code then .char code width else .fault width
      | none => .fault width

def utf16Piece (bigEndian : Bool) (lead : UInt8) (rest : Bytes) : Piece :=
  let unit (a b : UInt8) : Nat := if bigEndian then a.toNat * 256 + b.toNat else b.toNat * 256 + a.toNat
  match rest with
  | [] => .cut
  | b :: more =>
    let u := unit lead b
    if 0xDC00 ≤ u && u ≤ 0xDFFF then .fault 2
    else if 0xD800 ≤ u && u ≤ 0xDBFF then
      match more with
      | c :: d :: _ =>
        let v := unit c d
        if 0xDC00 ≤ v && v ≤ 0xDFFF then .char (0x10000 + (u - 0xD800) * 0x400 + (v - 0xDC00)) 4 else .fault 4
      | _ => .cut
    else if isAllowed u then .char u 2
    else .fault 2

def pieces (first : UInt8 → Bytes → Piece) (text : Bytes) : List Piece :=
  match text with
  | [] => []
  | b :: rest =>
    match first b rest with
    | .char code width => .char code width :: pieces first (rest.drop (width - 1))
    | other => [other]
termination_by text.length
decreasing_by
  simp only [List.length_drop, List.length_cons]
  omega

/-- The pieces of a text and the width of the mark in front of them. A byte order mark tells the
encoding and is dropped. -/
def decode (text : Bytes) : Nat × List Piece :=
  match text with
  | 0xFF :: 0xFE :: rest => (2, pieces (utf16Piece false) rest)
  | 0xFE :: 0xFF :: rest => (2, pieces (utf16Piece true) rest)
  | 0xEF :: 0xBB :: 0xBF :: rest => (3, pieces utf8Piece rest)
  | _ => (0, pieces utf8Piece text)

/-! ## Portions -/

structure Source where
  codes : Array Nat
  portions : List Nat
  isWhole : Bool

/-- How many bytes a portion takes. A character that does not fit goes to the next one. -/
def portionSize : Nat := 512

/-- How many characters are known behind each portion, and whether the text can be read to its end.
A portion with a fault in it does not count. -/
def portionsOf : (room known : Nat) → List Piece → List Nat × Bool
  | _, known, [] => ([known], true)
  | room, known, .char _ width :: rest =>
    if width ≤ room then portionsOf (room - width) (known + 1) rest
    else
      let (more, whole) := portionsOf (portionSize - width) (known + 1) rest
      (known :: more, whole)
  | room, known, .fault width :: _ => (if width ≤ room then [] else [known], false)
  | _, known, .cut :: _ => ([known], false)

def Source.ofBytes (text : Bytes) : Source :=
  let (mark, all) := decode text
  let (portions, whole) := portionsOf (portionSize - mark) 0 all
  { codes := (all.filterMap fun | .char code _ => some code | _ => none).toArray
    portions := portions
    isWhole := whole }

end Yaml

end LineCoverage
