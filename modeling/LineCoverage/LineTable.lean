import LineCoverage.Binary.Dwarf.Units
import LineCoverage.Coverage

/-!
# Line tables

The line table of a binary tells which source line each address belongs to. It is collected from the
line programs of all compilation units and kept in ascending order of addresses.
-/

namespace LineCoverage

open Binary

/-- An address where code of a source line begins. -/
structure Row where
  address : UInt64
  file : Bytes
  line : Int64
  deriving DecidableEq, Repr

structure LineTable where
  rows : List Row
  deriving DecidableEq, Repr

inductive DebugFault where
  | missing
  | sections
  | unit
  | lineHeader
  | lineEntry
  deriving DecidableEq, Repr

/-- The mark that stands for the wording of the debug information's own reader. -/
def malformedDebugMark : Bytes := utf8 "<dwarf>"

def DebugFault.message : DebugFault → Bytes
  | .missing => utf8 "no debug information"
  | .sections => utf8 "load dwarf: " ++ malformedDebugMark
  | .unit => utf8 "read compilation unit: " ++ malformedDebugMark
  | .lineHeader => utf8 "create line reader: " ++ malformedDebugMark
  | .lineEntry => utf8 "read line entry: " ++ malformedDebugMark

namespace LineTable

/-- The path of a source file in a unit that was compiled in `dir`. -/
def sourcePath (dir name : Bytes) : Bytes :=
  Path.clean (if Path.isAbsolute name || dir = [] then name else Path.join dir name)

/-- The row of an entry. Ends of sequences, unknown files and lines below 1 have none. -/
def rowOf (dir : Bytes) (e : Dwarf.LineEntry) : Option Row :=
  match e.file with
  | some name => if e.endsSequence ∨ e.line ≤ 0 then none else some ⟨e.address, sourcePath dir name, e.line⟩
  | none => none

def unitRows (u : Dwarf.UnitLines) : Except DebugFault (List Row) :=
  match u.program with
  | .absent => .ok []
  | .malformed => .error .lineHeader
  | .entries list complete => if complete then .ok (list.filterMap (rowOf u.directory)) else .error .lineEntry

def rowsOf : List Dwarf.UnitLines → Except DebugFault (List Row)
  | [] => .ok []
  | u :: rest => return (← unitRows u) ++ (← rowsOf rest)

/-- The table of the units: their rows by address; rows of one address keep their order. -/
def ofUnits (stream : Dwarf.UnitStream) : Except DebugFault LineTable := do
  let rows ← rowsOf stream.units
  if stream.complete then pure ⟨rows.mergeSort fun a b => a.address ≤ b.address⟩
  else .error .unit

def ofElf (f : Elf) : Except DebugFault LineTable :=
  if (f.sectionNamed? (utf8 ".debug_info")).isNone ∨ (f.sectionNamed? (utf8 ".debug_line")).isNone then
    .error .missing
  else
    match Dwarf.DebugData.ofElf? f with
    | none => .error .sections
    | some d => ofUnits d.unitStream

def files (t : LineTable) : List Bytes :=
  (t.rows.map (·.file)).eraseDups.mergeSort fun a b => (compare a b).isLE

/-- The line counts that the counts of addresses amount to: every line of the table, with the sum of
the counts of its addresses. -/
def coverage (t : LineTable) (counts : AddressCount) : FileLines :=
  t.rows.foldl (fun cov r => FileLines.add cov r.file r.line (AddressCount.count counts r.address)) ∅

end LineTable

end LineCoverage
