import LineCoverage.RangeSet
import Std.Data.ExtTreeMap

/-!
# Coverage

How often the addresses of a module, and the lines of a source file, were executed. Counts wrap
modulo 2 ^ 64.
-/

namespace LineCoverage

/-- One block of code that a trace has seen. Where it says it ends is kept, but only `start` and `size`
tell what it covers. -/
structure Block where
  start : UInt64
  stop : UInt64
  size : UInt64
  deriving DecidableEq, Repr

abbrev AddressCount := Std.ExtTreeMap UInt64 UInt64

/-- The address counts of each module. -/
abbrev ModuleCoverage := Std.ExtTreeMap Bytes AddressCount

/-- How often each line of a file was executed. A line with count zero has code that did not run. -/
abbrev LineCount := Std.ExtTreeMap Int64 UInt64

abbrev FileLines := Std.ExtTreeMap Bytes LineCount

def RangeSet.addressCount (s : RangeSet) (count : UInt64) : AddressCount :=
  s.fold (fun counts addr => counts.insert addr count) ∅

def RangeSet.ofBlocks (blocks : List Block) : RangeSet :=
  blocks.foldl (fun s b => s.add b.start b.size) .empty

/-- Every address that some block covers, with count one. -/
def expandBlocks (blocks : List Block) : AddressCount := (RangeSet.ofBlocks blocks).addressCount 1

namespace AddressCount

def count (counts : AddressCount) (addr : UInt64) : UInt64 := counts.getD addr 0

def bump (counts : AddressCount) (addr n : UInt64) : AddressCount :=
  counts.alter addr fun old => some (old.getD 0 + n)

def add (counts more : AddressCount) : AddressCount :=
  more.foldl (fun acc addr n => bump acc addr n) counts

end AddressCount

namespace ModuleCoverage

/-- Adds address counts to those of a module. Counts are values here: there is no missing map among them, and no map
that is shared with another module and changed through it. -/
def merge (cov : ModuleCoverage) (module : Bytes) (counts : AddressCount) : ModuleCoverage :=
  cov.alter module fun
    | none => some counts
    | some old => some (AddressCount.add old counts)

def addresses (cov : ModuleCoverage) : Nat :=
  cov.foldl (fun n _ counts => n + counts.size) 0

/-- Adds the blocks of one run: within a run an address counts once. -/
def addBlocks (cov : ModuleCoverage) (module : Bytes) (blocks : List Block) : ModuleCoverage :=
  cov.merge module (expandBlocks blocks)

end ModuleCoverage

namespace FileLines

/-- Adds `n` to the count of a line. A zero marks the line as one with code. -/
def add (cov : FileLines) (file : Bytes) (line : Int64) (n : UInt64) : FileLines :=
  cov.alter file fun lines =>
    some ((lines.getD ∅).alter line fun old => some (old.getD 0 + n))

def linesOf (cov : FileLines) (file : Bytes) : LineCount := cov.getD file ∅

end FileLines

namespace LineCount

def isCovered (lines : LineCount) : Bool := lines.toList.any fun (_, n) => 0 < n

end LineCount

def FileLines.dropUncovered (cov : FileLines) : FileLines :=
  cov.filter fun _ lines => LineCount.isCovered lines

end LineCoverage
