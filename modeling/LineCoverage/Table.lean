import LineCoverage.Text.Space
import LineCoverage.Text.Width

/-!
# Tables

A table has a header, rows and perhaps a footer. Long cells are wrapped at blanks, so that the lines
of a cell are as even as they can be. Numbers go to the right, other cells to the left, and header and
footer stand in the middle and in capitals.
-/

namespace LineCoverage

structure Table where
  header : List Bytes
  rows : List (List Bytes)
  footer : List Bytes

namespace Table

def blank : UInt8 := ch ' '

def wrapWidth : Nat := 30

/-! ## Wrapping -/

def penalty : Nat := 100000

def worstCost : Nat := 0x80000000 - 1

structure Wrapping where
  cost : Nat
  lines : List (List Bytes)

/-- What it costs to end a line of the given width before the last one. -/
def lineCost (limit width : Nat) : Nat :=
  let d := ((limit : Int) - width).natAbs
  d * d + if limit < width then penalty else 0

/-- The best of the wrappings that put at least the words of `line`, in reverse and `width` wide, on
the first line. `rests` has the best wrapping behind each further break; the first best one counts. -/
def bestBreak (limit : Nat) (best : Wrapping) (line : List Bytes) (width : Nat) :
    List (Bytes × Wrapping) → Wrapping
  | [] => best
  | (word, rest) :: more =>
    let cost := lineCost limit width + rest.cost
    let best := if cost < best.cost then ⟨cost, line.reverse :: rest.lines⟩ else best
    bestBreak limit best (word :: line) (width + 1 + Width.ofText word) more

def lineWidth (words : List Bytes) : Nat := words.foldl (fun n w => n + Width.ofText w) (words.length - 1)

def wrappings (limit : Nat) : List Bytes → List (Bytes × Wrapping)
  | [] => []
  | word :: rest =>
    let behind := wrappings limit rest
    let best :=
      if lineWidth (word :: rest) ≤ limit then ⟨0, [word :: rest]⟩
      else bestBreak limit ⟨worstCost, []⟩ [word] (Width.ofText word) behind
    (word, best) :: behind

/-- Wraps words into lines of at most `limit` columns, or of the widest word if that is wider. -/
def wrap (text : Bytes) (limit : Nat) : List Bytes :=
  let words := text.splitOn blank
  let limit := (words.map Width.ofText).foldl max limit
  match wrappings limit words with
  | (_, best) :: _ => best.lines.map (Bytes.join [blank])
  | [] => []

structure Cell where
  width : Nat
  lines : List Bytes

/-- The layout of a cell. Its own lines are joined before it is wrapped, but the widest of them counts
for its width. -/
def Cell.ofText (text : Bytes) : Cell :=
  let parts := text.splitOn newline
  let width := min ((parts.map Width.shown).foldl max 0) wrapWidth
  let lines := wrap (Bytes.join [blank] parts) width
  ⟨(lines.map Width.shown).foldl max width, lines⟩

/-! ## Alignment -/

def blanks (n : Nat) : Bytes := List.replicate n blank

def padLeft (width : Nat) (s : Bytes) : Bytes := blanks (width - Width.shown s) ++ s

def padRight (width : Nat) (s : Bytes) : Bytes := s ++ blanks (width - Width.shown s)

def center (width : Nat) (s : Bytes) : Bytes :=
  let gap := width - Width.shown s
  blanks (gap / 2) ++ s ++ blanks (gap - gap / 2)

/-- Whether the digits are grouped: up to three, then threes behind commas. -/
def isGrouped (s : Bytes) : Bool :=
  match s.splitOn (ch ',') with
  | first :: more =>
    1 ≤ first.length && first.length ≤ 3 && first.all Decimal.isDigit &&
      more.all fun group => group.length = 3 && group.all Decimal.isDigit
  | [] => false

def isDigits (s : Bytes) : Bool := !s.isEmpty && s.all Decimal.isDigit

def isNumber (s : Bytes) : Bool :=
  let s := match s with
    | b :: rest => if b = ch '-' then rest else s
    | [] => s
  let (whole, places) := match Bytes.cut (ch '.') s with
    | some (whole, places) => (whole, some places)
    | none => (s, none)
  (isGrouped whole || isDigits whole) && (places.map isDigits).getD true

def align (width : Nat) (s : Bytes) : Bytes :=
  if isNumber (Space.trim s) then padLeft width s else padRight width s

def upper (b : UInt8) : UInt8 := if ch 'a' ≤ b && b ≤ ch 'z' then b - 32 else b

def keepsPoint (b : Option UInt8) : Bool :=
  match b with
  | some b => Decimal.isDigit b || b = blank
  | none => true

def spaced (before : Option UInt8) : Bytes → Bytes
  | [] => []
  | b :: rest =>
    let out :=
      if b = ch '_' then blank
      else if b = ch '.' ∧ !(keepsPoint before && keepsPoint rest.head?) then blank
      else b
    out :: spaced (some out) rest

def title (s : Bytes) : Bytes :=
  let t := Space.trim (spaced none s)
  if t.isEmpty ∧ !s.isEmpty then [blank] else t.map upper

/-! ## Layout -/

/-- The lines of a row: cell by cell, with `fill` where a cell has no more lines. -/
def rowLines (widths : List Nat) (place : Nat → Bytes → Bytes) (fill : Bytes) (cells : List Cell) : List Bytes :=
  let height := (cells.map (·.lines.length)).foldl max 0
  (List.range height).map fun i =>
    let columns := cells.zip widths
    ch '|' :: columns.flatMap fun (cell, width) =>
      blank :: place width ((cell.lines[i]?).getD fill) ++ [blank, ch '|']

def rule (widths : List Nat) : Bytes :=
  ch '+' :: widths.flatMap fun w => List.replicate (w + 2) (ch '-') ++ [ch '+']

def lines (t : Table) : List Bytes :=
  let header := t.header.map Cell.ofText
  let rows := t.rows.map (·.map Cell.ofText)
  let footer := t.footer.map Cell.ofText
  let widths := (header :: rows ++ [footer]).foldl
    (fun widths cells => widths.zipWith max (cells.map (·.width) ++ List.replicate (widths.length - cells.length) 0))
    (List.replicate t.header.length 0)
  let titles := rowLines widths (fun w s => center w (title s)) []
  let rule := rule widths
  rule :: titles header ++ rule :: rows.flatMap (rowLines widths align (blanks 2)) ++ rule ::
    (if footer.isEmpty then [] else titles footer ++ [rule])

def render (t : Table) : Bytes := t.lines.flatMap (· ++ [newline])

end Table

end LineCoverage
