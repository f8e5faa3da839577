import LineCoverage.Bytes

/-!
# Sets of addresses as ranges

A range set holds the covered addresses as half-open ranges in ascending order. Adding a block
joins all ranges it overlaps or touches, so that every covered address is held once.
-/

namespace LineCoverage

/-- The addresses from `start` up to but not including `stop`. -/
structure Range where
  start : UInt64
  stop : UInt64
  deriving DecidableEq, Repr

structure RangeSet where
  ranges : List Range
  deriving DecidableEq, Repr

namespace RangeSet

def empty : RangeSet := ⟨[]⟩

/-- The greatest address. It closes a block that runs past the address space. -/
def lastAddress : UInt64 := 0xFFFFFFFFFFFFFFFF

/-- Where a block ends. A block that wraps around ends at the last address. -/
def blockStop (start size : UInt64) : UInt64 :=
  if start + size < start then lastAddress else start + size

def firstReaching (ranges : List Range) (start : UInt64) : Nat :=
  ranges.findIdx fun r => start ≤ r.stop

def firstAfter (ranges : List Range) (stop : UInt64) : Nat :=
  ranges.findIdx fun r => stop < r.start

/-- Adds the range, joined with those it overlaps or touches. -/
def insertRange (ranges : List Range) (new : Range) : List Range :=
  let i := firstReaching ranges new.start
  let j := firstAfter ranges new.stop
  match (ranges.take j).drop i with
  | [] => ranges.take i ++ new :: ranges.drop i
  | first :: more =>
    let last := more.getLastD first
    ranges.take i ++ ⟨min new.start first.start, max new.stop last.stop⟩ :: ranges.drop j

/-- Adds the `size` addresses from `start` on. An empty block changes nothing. -/
def add (s : RangeSet) (start size : UInt64) : RangeSet :=
  if size = 0 then s else ⟨insertRange s.ranges ⟨start, blockStop start size⟩⟩

def size (s : RangeSet) : UInt64 :=
  s.ranges.foldl (fun n r => n + (r.stop - r.start)) 0

/-- Whether an address is covered: only the first range that ends behind it can hold it. -/
def contains (s : RangeSet) (addr : UInt64) : Bool :=
  match s.ranges.find? fun r => addr < r.stop with
  | some r => r.start ≤ addr
  | none => false

/-- Folds over the addresses from `addr` up to but not including `stop`, in ascending order. -/
def foldAddresses {α : Type} (f : α → UInt64 → α) (acc : α) (addr stop : UInt64) : α :=
  if h : addr < stop then foldAddresses f (f acc addr) (addr + 1) stop else acc
termination_by stop.toNat - addr.toNat
decreasing_by
  have h' : addr.toNat < stop.toNat := h
  have := stop.toNat_lt
  have h1 : (1 : UInt64).toNat = 1 := rfl
  rw [UInt64.toNat_add, h1, Nat.mod_eq_of_lt (by omega)]
  omega

def fold {α : Type} (f : α → UInt64 → α) (acc : α) (s : RangeSet) : α :=
  s.ranges.foldl (fun acc r => foldAddresses f acc r.start r.stop) acc

end RangeSet

end LineCoverage
