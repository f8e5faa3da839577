import LineCoverage.Compression.Bits

/-!
# Finite state entropy codes

A code is a table of states. A state stands for a symbol, and says how many bits lead to the next
state and what they are added to. Bits are read back to front.
-/

namespace LineCoverage

namespace Compression

namespace Zstd

/-- `count` bits of a byte string from bit `start` on, the low one first; zero behind the end. -/
def bitsAt (data : ByteArray) (start count : Nat) : Nat :=
  let first := start / 8
  let window := (List.range (count / 8 + 2)).foldr (fun i n => n * 256 + (byteAt data (first + i)).toNat) 0
  (window >>> (start % 8)) % Nat.pow 2 count

/-- What a reader of compressed blocks asks of them beyond the format. -/
structure Limits where
  leastTable : Nat
  lookahead : Nat
  oneSymbol : Bool
  weightLog : Nat
  offsetLog : Nat
  maxOffset : Nat
  /-- Whether no distance and no block may be larger than the window. Otherwise the window only bounds
  how far a distance reaches beyond the block. -/
  strictWindow : Bool

def Limits.file : Limits := ⟨4, 0, false, 15, 9, 30, true⟩

def Limits.ofSection : Limits := ⟨0, 16, true, 6, 8, 31, false⟩

structure BackCursor where
  data : ByteArray
  left : Nat

namespace BackCursor

/-- The bits below the highest one of the last byte, which only marks the end. -/
def ofBytes? (data : ByteArray) : Option BackCursor :=
  let last := byteAt data (data.size - 1)
  if last = 0 then none else some ⟨data, 8 * (data.size - 1) + last.toNat.log2⟩

def bits (c : BackCursor) (count : Nat) : Option (Nat × BackCursor) :=
  if count ≤ c.left then some (bitsAt c.data (c.left - count) count, { c with left := c.left - count })
  else none

/-- The next `count` bits without moving; zeros stand for those that are missing. -/
def peek (c : BackCursor) (count : Nat) : Nat :=
  if count ≤ c.left then bitsAt c.data (c.left - count) count
  else bitsAt c.data 0 c.left * Nat.pow 2 (count - c.left)

end BackCursor

structure FseState where
  symbol : Nat
  bits : Nat
  base : Nat
  deriving Inhabited

structure FseTable where
  log : Nat
  states : Array FseState

namespace FseTable

def state (t : FseTable) (s : Nat) : FseState := t.states.getD s ⟨0, 0, 0⟩

def stepPlace (size high : Nat) : Nat → Nat → Nat
  | 0, place => place
  | fuel + 1, place =>
    let place := (place + size / 2 + size / 8 + 3) % size
    if high < place then stepPlace size high fuel place else place

/-- Spreads the symbols over the table: those with a share below one stand at the end. -/
def spread (size : Nat) (shares : List Int) : Array Nat :=
  let cells := Array.replicate size 0
  let (cells, high) := shares.zipIdx.foldl (fun (cells, high) (share, s) =>
    if share = -1 then (cells.setIfInBounds high s, high - 1) else (cells, high)) (cells, size - 1)
  (shares.zipIdx.foldl (fun state (share, s) =>
    (List.range share.toNat).foldl (fun (cells, place) _ =>
      (cells.setIfInBounds place s, stepPlace size high size place)) state) (cells, 0)).1

def ofShares (log : Nat) (shares : List Int) : FseTable :=
  let size := Nat.pow 2 log
  let starts := (shares.map fun share => if share = -1 then 1 else share.toNat).toArray
  let (states, _) := (spread size shares).foldl (fun (states, next) s =>
    let n := next.getD s 1
    let bits := log - n.log2
    (states.push ⟨s, bits, n * Nat.pow 2 bits - size⟩, next.setIfInBounds s (n + 1))) (#[], starts)
  ⟨log, states⟩

def single (symbol : Nat) : FseTable := ⟨0, #[⟨symbol, 0, 0⟩]⟩

/-! ## The shares as they are stored -/

def hasBits (data : ByteArray) (pos count : Nat) : Bool := pos + count ≤ 8 * data.size || count = 0

/-- How many symbols without a share follow: two bits each time, and three means more. -/
def zeroRun (data : ByteArray) (lookahead : Nat) : (fuel pos count : Nat) → Option (Nat × Nat)
  | 0, pos, count => some (pos, count)
  | fuel + 1, pos, count =>
    if !hasBits data pos lookahead then none
    else
      let n := bitsAt data pos 2
      if n = 3 then zeroRun data lookahead fuel (pos + 2) (count + 3) else some (pos + 2, count + n)

def narrow (remaining : Nat) : (bits threshold : Nat) → Nat × Nat
  | 0, threshold => (0, threshold)
  | bits + 1, threshold =>
    if remaining < threshold then narrow remaining bits (threshold / 2) else (bits + 1, threshold)

/-- Reads shares from bit `pos` on until none is left. The shares are kept back to front. -/
def readShares (data : ByteArray) (lookahead maxSymbol : Nat) (fuel pos remaining threshold bits : Nat)
    (afterZero : Bool) (shares : List Int) : Option (Nat × List Int) :=
  match fuel with
  | 0 => none
  | fuel + 1 =>
    if remaining ≤ 1 ∨ maxSymbol < shares.length then
      if remaining = 1 then some (pos, shares.reverse) else none
    else do
      let (pos, zeros) ← if afterZero then zeroRun data lookahead (maxSymbol + 1) pos 0 else some (pos, 0)
      let shares := List.replicate zeros 0 ++ shares
      if maxSymbol < shares.length ∨ !hasBits data pos lookahead then none
      else
        let limit := 2 * threshold - 1 - remaining
        let low := bitsAt data pos (bits - 1)
        let (value, pos) :=
          if low < limit then (low, pos + (bits - 1))
          else
            let full := bitsAt data pos bits
            (if threshold ≤ full then full - limit else full, pos + bits)
        let share : Int := (value : Int) - 1
        let used := share.natAbs
        if remaining ≤ used then none
        else
          let remaining := remaining - used
          let (bits, threshold) := narrow remaining bits threshold
          readShares data lookahead maxSymbol fuel pos remaining threshold bits (share = 0) (share :: shares)

/-- Reads a table's description: the table and the number of bytes it takes. -/
def read? (limits : Limits) (data : ByteArray) (maxLog maxSymbol : Nat) : Option (FseTable × Nat) := do
  let log := bitsAt data 0 4 + 5
  if maxLog < log ∨ data.size < limits.leastTable ∨ !hasBits data 0 limits.lookahead then none
  else
    let size := Nat.pow 2 log
    let (pos, shares) ←
      readShares data limits.lookahead maxSymbol (maxSymbol + 2) 4 (size + 1) size (log + 1) false []
    let bytes := (pos + 7) / 8
    if data.size < bytes ∨ (!limits.oneSymbol ∧ (shares.length ≤ 1 ∨ shares.any (· = (size : Int)))) then none
    else pure (ofShares log shares, bytes)

end FseTable

end Zstd

end Compression

end LineCoverage
