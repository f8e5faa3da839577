import LineCoverage.Compression.Inflate
import LineCoverage.Compression.Zstd.Literals

/-!
# Sequences of a compressed block

A sequence says how many literals to take and then how many bytes to copy from how far back. Its
three numbers are coded with one finite state code each.
-/

namespace LineCoverage

namespace Compression

namespace Zstd

def literalLengths : Array (Nat × Nat) :=
  ((List.range 16).map (·, 0)).toArray ++ #[
  (16, 1), (18, 1), (20, 1), (22, 1), (24, 2), (28, 2), (32, 3), (40, 3), (48, 4), (64, 6), (128, 7),
  (256, 8), (512, 9), (1024, 10), (2048, 11), (4096, 12), (8192, 13), (16384, 14), (32768, 15), (65536, 16)]

def matchLengths : Array (Nat × Nat) :=
  ((List.range 32).map fun i => (i + 3, 0)).toArray ++ #[
  (35, 1), (37, 1), (39, 1), (41, 1), (43, 2), (47, 2), (51, 3), (59, 3), (67, 4), (83, 4), (99, 5),
  (131, 7), (259, 8), (515, 9), (1027, 10), (2051, 11), (4099, 12), (8195, 13), (16387, 14), (32771, 15),
  (65539, 16)]

def offsets : Array (Nat × Nat) := ((List.range 32).map fun i => (Nat.pow 2 i, i)).toArray

def defaultLiteralLengths : FseTable := .ofShares 6 [4, 3, 2, 2, 2, 2, 2, 2, 2, 2, 2, 2, 2, 1, 1, 1, 2, 2,
  2, 2, 2, 2, 2, 2, 2, 3, 2, 1, 1, 1, 1, 1, -1, -1, -1, -1]

def defaultMatchLengths : FseTable := .ofShares 6 [1, 4, 3, 2, 2, 2, 2, 2, 2, 1, 1, 1, 1, 1, 1, 1, 1, 1, 1,
  1, 1, 1, 1, 1, 1, 1, 1, 1, 1, 1, 1, 1, 1, 1, 1, 1, 1, 1, 1, 1, 1, 1, 1, 1, 1, 1, -1, -1, -1, -1, -1, -1, -1]

def defaultOffsets : FseTable := .ofShares 5 [1, 1, 1, 1, 1, 1, 2, 2, 2, 1, 1, 1, 1, 1, 1, 1, 1, 1, 1, 1, 1,
  1, 1, 1, -1, -1, -1, -1, -1]

/-- The tables and offsets that a block leaves to the next one of its frame. -/
structure Carried where
  code : Option LiteralCode
  literalLengths : Option FseTable
  offsets : Option FseTable
  matchLengths : Option FseTable
  recent : Nat × Nat × Nat

def Carried.start : Carried := ⟨none, none, none, none, (1, 4, 8)⟩

def readTable (limits : Limits) (data : ByteArray) (pos mode : Nat) (standard : FseTable)
    (previous : Option FseTable) (maxLog maxSymbol : Nat) : Option (FseTable × Nat) :=
  match mode with
  | 0 => some (standard, pos)
  | 1 => do
    let s ← littleEndian? data pos 1
    if maxSymbol < s then none else pure (.single s, pos + 1)
  | 2 => do
    let (t, used) ← FseTable.read? limits (data.extract pos data.size) maxLog maxSymbol
    pure (t, pos + used)
  | _ => previous.map (·, pos)

/-- The distance of an offset value, and the three recent distances after it. Small values name a
recent distance; without literals they name the next one. Where that is none, `least` stands for it. -/
def resolveOffset (least value literals : Nat) (recent : Nat × Nat × Nat) : Nat × Nat × Nat × Nat :=
  let (a, b, c) := recent
  if 3 < value then (value - 3, value - 3, a, b)
  else
    match value - 1 + (if literals = 0 then 1 else 0) with
    | 0 => (a, a, b, c)
    | 1 => (max b least, max b least, a, c)
    | 2 => (max c least, max c least, a, b)
    | _ => (max (a - 1) least, max (a - 1) least, a, b)

structure Progress where
  cursor : BackCursor
  out : ByteArray
  taken : Nat
  recent : Nat × Nat × Nat

/-- Carries out one sequence given by the three symbols. Copies reach `reach` bytes back from the output. -/
def Progress.sequence (p : Progress) (least : Nat) (literals : ByteArray) (reach : Nat → Nat) (ll of ml : Nat) :
    Option Progress := do
  let (obase, obits) ← offsets[of]?
  let (mbase, mbits) ← Zstd.matchLengths[ml]?
  let (lbase, lbits) ← Zstd.literalLengths[ll]?
  let (oextra, c) ← p.cursor.bits obits
  let (mextra, c) ← c.bits mbits
  let (lextra, c) ← c.bits lbits
  let count := lbase + lextra
  let (distance, recent) := resolveOffset least (obase + oextra) count p.recent
  let bytes ← slice? literals p.taken count
  let out := p.out ++ bytes
  if out.size < distance ∨ reach out.size < distance ∨ distance = 0 then none
  else
    pure ⟨c, Inflate.copyBack out distance (mbase + mextra), p.taken + count, recent⟩

def sequences (least : Nat) (ll of ml : FseTable) (literals : ByteArray) (reach : Nat → Nat) (limit : Nat) :
    (count : Nat) → (l o m : Nat) → Progress → Option Progress
  | 0, _, _, _, p => if p.cursor.left = 0 then some p else none
  | count + 1, l, o, m, p => do
    let p ← p.sequence least literals reach (ll.state l).symbol (of.state o).symbol (ml.state m).symbol
    if limit < p.out.size then none
    else if count = 0 then sequences least ll of ml literals reach limit 0 l o m p
    else
      let (lb, c) ← p.cursor.bits (ll.state l).bits
      let (mb, c) ← c.bits (ml.state m).bits
      let (ob, c) ← c.bits (of.state o).bits
      sequences least ll of ml literals reach limit count ((ll.state l).base + lb) ((of.state o).base + ob)
        ((ml.state m).base + mb) { p with cursor := c }

def sequenceCount (data : ByteArray) (pos : Nat) : Option (Nat × Nat) := do
  let b ← littleEndian? data pos 1
  if b < 128 then pure (b, pos + 1)
  else if b < 255 then
    let c ← littleEndian? data (pos + 1) 1
    pure ((b - 128) * 256 + c, pos + 2)
  else
    let n ← littleEndian? data (pos + 1) 2
    pure (n + 0x7F00, pos + 3)

def compressedBlock (limits : Limits) (data : ByteArray) (window : Nat) (mem : Carried) (out : ByteArray) :
    Option (ByteArray × Carried) := do
  let lits ← readLiterals limits data window mem.code
  let (count, pos) ← sequenceCount data lits.stop
  let limit := out.size + if limits.strictWindow then min window maxBlock else maxBlock
  let before := min out.size window
  let reach (size : Nat) : Nat := if limits.strictWindow then window else before + (size - out.size)
  let least := if limits.strictWindow then 1 else 0
  let mem := { mem with code := lits.code }
  if count = 0 then
    if pos ≠ data.size then none else pure (out ++ lits.bytes, mem)
  else
    let modes ← littleEndian? data pos 1
    if modes % 4 ≠ 0 then none
    else
      let (ll, pos) ← readTable limits data (pos + 1) (modes / 64) defaultLiteralLengths mem.literalLengths 9 35
      let (of, pos) ←
        readTable limits data pos (modes / 16 % 4) defaultOffsets mem.offsets limits.offsetLog limits.maxOffset
      let (ml, pos) ← readTable limits data pos (modes / 4 % 4) defaultMatchLengths mem.matchLengths 9 52
      let c ← BackCursor.ofBytes? (data.extract pos data.size)
      let (l, c) ← c.bits ll.log
      let (o, c) ← c.bits of.log
      let (m, c) ← c.bits ml.log
      let p ← sequences least ll of ml lits.bytes reach limit count l o m ⟨c, out, 0, mem.recent⟩
      let out := p.out ++ lits.bytes.extract p.taken lits.bytes.size
      if limit < out.size then none
      else pure (out, ⟨lits.code, some ll, some of, some ml, p.recent⟩)

end Zstd

end Compression

end LineCoverage
