import LineCoverage.Compression.Zstd.Fse

/-!
# Literals of a compressed block

Literals are stored as they are, as one repeated byte, or in a prefix code whose code lengths are
given by weights.
-/

namespace LineCoverage

namespace Compression

namespace Zstd

/-- A prefix code as a table over its longest codes: the symbol and its number of bits. -/
structure LiteralCode where
  log : Nat
  cells : Array (UInt8 × Nat)

namespace LiteralCode

def maxLog : Nat := 11

/-- Weights coded with two states that take turns. `here` is the state whose turn it is. -/
def decodeWeights (t : FseTable) (fuel : Nat) (c : BackCursor) (here other : Nat) (out : List Nat) :
    Option (List Nat) :=
  match fuel with
  | 0 => none
  | fuel + 1 =>
    let s := t.state here
    if c.left = 0 ∧ 0 < s.bits then some (((t.state other).symbol :: s.symbol :: out).reverse)
    else do
      let (b, c) ← c.bits s.bits
      decodeWeights t fuel c other (s.base + b) (s.symbol :: out)

def codedWeights (limits : Limits) (data : ByteArray) (size : Nat) : Option (List Nat) := do
  let described := if limits.lookahead = 0 then data.extract 0 size else data
  let (t, used) ← FseTable.read? limits described limits.weightLog 255
  let c ← BackCursor.ofBytes? (data.extract used size)
  let (a, c) ← c.bits t.log
  let (b, c) ← c.bits t.log
  decodeWeights t 256 c a b []

def plainWeights (data : ByteArray) (count : Nat) : List Nat :=
  (List.range count).map fun i =>
    let b := (byteAt data (i / 2)).toNat
    if i % 2 = 0 then b / 16 else b % 16

/-- The code in which symbol `s` has the given weight. The last weight is left out: it fills the
table. -/
def ofWeights? (weights : List Nat) : Option LiteralCode :=
  let total := weights.foldl (fun n w => n + Nat.pow 2 w / 2) 0
  if total = 0 ∨ weights.any (maxLog < ·) ∨ 255 < weights.length then none
  else
    let log := total.log2 + 1
    let rest := Nat.pow 2 log - total
    if maxLog < log ∨ Nat.pow 2 rest.log2 ≠ rest then none
    else
      let weights := weights ++ [rest.log2 + 1]
      let ones := weights.count 1
      if ones < 2 ∨ ones % 2 = 1 then none
      else
        let cells := (List.range log).flatMap fun k =>
          weights.zipIdx.flatMap fun (w, s) =>
            if w = k + 1 then List.replicate (Nat.pow 2 k) (UInt8.ofNat s, log - k) else []
        some ⟨log, cells.toArray⟩

/-- Reads a code's description: the code and the number of bytes it takes. -/
def read? (limits : Limits) (data : ByteArray) : Option (LiteralCode × Nat) := do
  let size ← littleEndian? data 0 1
  if size < 128 then
    let _ ← slice? data 1 size
    let weights ← codedWeights limits (data.extract 1 data.size) size
    pure (← ofWeights? weights, 1 + size)
  else
    let count := size - 127
    let bytes ← slice? data 1 ((count + 1) / 2)
    pure (← ofWeights? (plainWeights bytes count), 1 + (count + 1) / 2)

def symbols (code : LiteralCode) : (count : Nat) → BackCursor → ByteArray → Option ByteArray
  | 0, c, out => if c.left = 0 then some out else none
  | count + 1, c, out => do
    let (symbol, bits) ← code.cells[c.peek code.log]?
    if c.left < bits then none
    else symbols code count { c with left := c.left - bits } (out.push symbol)

def stream (code : LiteralCode) (data : ByteArray) (count : Nat) (out : ByteArray) : Option ByteArray := do
  symbols code count (← BackCursor.ofBytes? data) out

def fourStreams (code : LiteralCode) (data : ByteArray) (count : Nat) : Option ByteArray := do
  let a ← littleEndian? data 0 2
  let b ← littleEndian? data 2 2
  let c ← littleEndian? data 4 2
  let each := (count + 3) / 4
  if count < 3 * each then none
  else
    let out ← code.stream (← slice? data 6 a) each .empty
    let out ← code.stream (← slice? data (6 + a) b) each out
    let out ← code.stream (← slice? data (6 + a + b) c) each out
    let start := 6 + a + b + c
    if data.size < start then none
    else code.stream (data.extract start data.size) (count - 3 * each) out

end LiteralCode

structure Literals where
  bytes : ByteArray
  code : Option LiteralCode
  stop : Nat

def maxBlock : Nat := 128 * 1024

/-- The fields of the header: its size, the number of literals, the number of bytes they take, and
whether they come in four streams. -/
def literalsHeader (data : ByteArray) : Option (Nat × Nat × Nat × Bool) := do
  let b ← littleEndian? data 0 1
  let format := b / 4 % 4
  if b % 4 < 2 then
    if format % 2 = 0 then pure (1, b / 8, 0, false)
    else if format = 1 then
      let n ← littleEndian? data 0 2
      pure (2, n / 16, 0, false)
    else
      let n ← littleEndian? data 0 3
      pure (3, n / 16, 0, false)
  else
    let (size, width) := if format < 2 then (3, 10) else if format = 2 then (4, 14) else (5, 18)
    let n := (← littleEndian? data 0 size) / 16
    pure (size, n % Nat.pow 2 width, n / Nat.pow 2 width, format ≠ 0)

def readLiterals (limits : Limits) (data : ByteArray) (window : Nat) (previous : Option LiteralCode) :
    Option Literals := do
  let (start, count, size, four) ← literalsHeader data
  if (limits.strictWindow ∧ window < count) ∨ maxBlock < count then none
  else
    match (byteAt data 0).toNat % 4 with
    | 0 => pure ⟨← slice? data start count, previous, start + count⟩
    | 1 =>
      let b ← slice? data start 1
      pure ⟨⟨Array.replicate count (byteAt b 0)⟩, previous, start + 1⟩
    | kind =>
      let coded ← slice? data start size
      let (code, used) ← if kind = 2 then LiteralCode.read? limits coded else previous.map (·, 0)
      let streams := coded.extract used coded.size
      let bytes ← if four then code.fourStreams streams count else code.stream streams count .empty
      pure ⟨bytes, some code, start + size⟩

end Zstd

end Compression

end LineCoverage
