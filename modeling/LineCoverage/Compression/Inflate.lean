import LineCoverage.Compression.Bits

/-!
# The deflate format

Blocks of literal bytes and of references into the output so far, coded with canonical prefix
codes.
-/

namespace LineCoverage

namespace Compression

/-- A canonical prefix code: how many codes there are of each length from one on, and the symbols in
the order of their codes. -/
structure PrefixCode where
  counts : List Nat
  symbols : Array Nat
  /-- How many bits of a code are looked at. Those behind them pass for zeros. -/
  depth : Nat
  least : Nat

namespace PrefixCode

def maxLength : Nat := 15

def empty : PrefixCode := ⟨[], #[], 0, 0⟩

/-- How many bits of a code are looked at when it is used a second time. -/
def wornDepth : Nat := 9

/-- The code in which symbol `s` has length `lengths[s]`; length zero leaves it out. The lengths have
to use up all codes, but a single symbol of length one is taken too. Where no symbol has a length the
old code is used again. -/
def ofLengths? (old : PrefixCode) (lengths : List Nat) : Option PrefixCode :=
  let counts := (List.range maxLength).map fun k => lengths.count (k + 1)
  let longest := lengths.foldl max 0
  let used := (counts.take longest).foldl (fun code count => 2 * code + count) 0
  let symbols := (List.range maxLength).flatMap fun k =>
    (lengths.zipIdx.filter fun (len, _) => len = k + 1).map (·.2)
  if longest = 0 then some { old with depth := wornDepth, least := 0 }
  else if used = Nat.pow 2 longest ∨ (used = 1 ∧ longest = 1) then
    some ⟨counts, symbols.toArray, maxLength, 0⟩
  else none

/-- Reads a symbol. `depth` bits are still looked at, `code` are the bits read, `first` is the first
code of this length and `index` the number of shorter codes. -/
def decodeFrom (symbols : Array Nat) (c : BitCursor) (depth code first index : Nat) :
    List Nat → Option (Nat × BitCursor)
  | [] => none
  | count :: counts => do
    let (b, c) ← c.bit
    let code := 2 * code + if depth = 0 then 0 else b
    if code < first + count then
      let s ← symbols[index + (code - first)]?
      pure (s, c)
    else decodeFrom symbols c (depth - 1) code (2 * (first + count)) (index + count) counts

def decode (p : PrefixCode) (c : BitCursor) : Option (Nat × BitCursor) :=
  if c.left < p.least then none else decodeFrom p.symbols c p.depth 0 0 0 p.counts

end PrefixCode

namespace Inflate

def lengthTable : Array (Nat × Nat) := #[
  (3, 0), (4, 0), (5, 0), (6, 0), (7, 0), (8, 0), (9, 0), (10, 0), (11, 1), (13, 1), (15, 1), (17, 1),
  (19, 2), (23, 2), (27, 2), (31, 2), (35, 3), (43, 3), (51, 3), (59, 3), (67, 4), (83, 4), (99, 4),
  (115, 4), (131, 5), (163, 5), (195, 5), (227, 5), (258, 0)]

def distanceTable : Array (Nat × Nat) := #[
  (1, 0), (2, 0), (3, 0), (4, 0), (5, 1), (7, 1), (9, 2), (13, 2), (17, 3), (25, 3), (33, 4), (49, 4),
  (65, 5), (97, 5), (129, 6), (193, 6), (257, 7), (385, 7), (513, 8), (769, 8), (1025, 9), (1537, 9),
  (2049, 10), (3073, 10), (4097, 11), (6145, 11), (8193, 12), (12289, 12), (16385, 13), (24577, 13)]

def endMark : Nat := 256

def lengthOrder : List Nat := [16, 17, 18, 0, 8, 7, 9, 6, 10, 5, 11, 4, 12, 3, 13, 2, 14, 1, 15]

/-- Copies `count` bytes that stand `distance` bytes back, one by one: the copy may feed itself. -/
def copyBack (out : ByteArray) (distance : Nat) : Nat → ByteArray
  | 0 => out
  | count + 1 => copyBack (out.push (byteAt out (out.size - distance))) distance count

inductive Piece where
  | literal (b : UInt8)
  | copy (distance count : Nat)
  | endOfBlock

def piece (literals distances : PrefixCode) (c : BitCursor) : Option (Piece × BitCursor) := do
  let (s, c) ← literals.decode c
  if s < 256 then pure (.literal (UInt8.ofNat s), c)
  else if s = endMark then pure (.endOfBlock, c)
  else
    let (base, extra) ← lengthTable[s - 257]?
    let (more, c) ← c.bits extra
    let (d, c) ← distances.decode c
    let (dbase, dextra) ← distanceTable[d]?
    let (dmore, c) ← c.bits dextra
    pure (.copy (dbase + dmore) (base + more), c)

/-- The symbols of a compressed block, up to its end mark: the output, and where the block ends
unless the data is broken. Every symbol takes a bit, so the number of bits is fuel enough. -/
def symbols (literals distances : PrefixCode) (fuel : Nat) (c : BitCursor) (out : ByteArray) :
    ByteArray × Option BitCursor :=
  match fuel with
  | 0 => (out, none)
  | fuel + 1 =>
    match piece literals distances c with
    | none => (out, none)
    | some (.endOfBlock, c) => (out, some c)
    | some (.literal b, c) => symbols literals distances fuel c (out.push b)
    | some (.copy distance count, c) =>
      if out.size < distance then (out, none)
      else symbols literals distances fuel c (copyBack out distance count)

/-- The lengths of the two codes of a block: `left` lengths are still to come. -/
def codeLengths (code : PrefixCode) (fuel left : Nat) (c : BitCursor) (lengths : List Nat) :
    Option (BitCursor × List Nat) :=
  match fuel with
  | 0 => none
  | fuel + 1 =>
    if left = 0 then some (c, lengths.reverse)
    else do
      let (s, c) ← code.decode c
      if s < 16 then codeLengths code fuel (left - 1) c (s :: lengths)
      else
        let (value, base, extra) ←
          if s = 16 then (lengths.head?).map fun last => (last, 3, 2)
          else if s = 17 then some (0, 3, 3)
          else if s = 18 then some (0, 11, 7)
          else none
        let (more, c) ← c.bits extra
        let count := base + more
        if left < count then none
        else codeLengths code fuel (left - count) c (List.replicate count value ++ lengths)

def smallLengths (c : BitCursor) : Nat → Option (List Nat × BitCursor)
  | 0 => some ([], c)
  | n + 1 => do
    let (l, c) ← c.bits 3
    let (rest, c) ← smallLengths c n
    pure (l :: rest, c)

structure Codes where
  literals : PrefixCode
  distances : PrefixCode

namespace Codes

def empty : Codes := ⟨.empty, .empty⟩

def fixed? : Option Codes := do
  let literals ← PrefixCode.ofLengths? .empty (List.replicate 144 8 ++ List.replicate 112 9 ++
    List.replicate 24 7 ++ List.replicate 8 8)
  let distances ← PrefixCode.ofLengths? .empty (List.replicate 32 5)
  pure ⟨literals, distances⟩

end Codes

def dynamicCodes (old : Codes) (c : BitCursor) : Option (Codes × BitCursor) := do
  let (hlit, c) ← c.bits 5
  let (hdist, c) ← c.bits 5
  let (hclen, c) ← c.bits 4
  let literals := hlit + 257
  let distances := hdist + 1
  if 286 < literals ∨ 30 < distances then none
  else
    let (small, c) ← smallLengths c (hclen + 4)
    let lengthAt := lengthOrder.zip small
    let code ← PrefixCode.ofLengths? old.literals ((List.range 19).map fun s => (lengthAt.lookup s).getD 0)
    let (c, lengths) ← codeLengths code (literals + distances + 1) (literals + distances) c []
    let literalCode ← PrefixCode.ofLengths? code (lengths.take literals)
    let distanceCode ← PrefixCode.ofLengths? old.distances (lengths.drop literals)
    pure (⟨{ literalCode with least := lengths.getD endMark 0 }, distanceCode⟩, c)

def storedBlock (c : BitCursor) (out : ByteArray) : ByteArray × Option BitCursor :=
  let start := c.align
  match littleEndian? c.data start 2, littleEndian? c.data (start + 2) 2 with
  | some size, some check =>
    if size + check ≠ 0xFFFF then (out, none)
    else
      let bytes := c.data.extract (start + 4) (start + 4 + size)
      (out ++ bytes, if bytes.size = size then some (c.atByte (start + 4 + size)) else none)
  | _, _ => (out, none)

/-- How far decoding has come: the place behind it, and the codes that were read last. -/
structure Progress where
  cursor : BitCursor
  codes : Codes

def block (kind : Nat) (p : Progress) (out : ByteArray) : ByteArray × Option Progress :=
  let fuel := 8 * p.cursor.data.size + 1
  let decode (codes : Codes) (c : BitCursor) : ByteArray × Option BitCursor :=
    symbols codes.literals codes.distances fuel c out
  let goOn (codes : Codes) (r : ByteArray × Option BitCursor) : ByteArray × Option Progress :=
    (r.1, r.2.map (⟨·, codes⟩))
  match kind with
  | 0 => goOn p.codes (storedBlock p.cursor out)
  | 1 =>
    match Codes.fixed? with
    | some codes => goOn p.codes (decode codes p.cursor)
    | none => (out, none)
  | 2 =>
    match dynamicCodes p.codes p.cursor with
    | some (codes, c) => goOn codes (decode codes c)
    | none => (out, none)
  | _ => (out, none)

/-- The blocks up to the last one. Every block takes bits, so their number is fuel enough. Codes are
used again in a later block if `keep` is set. -/
def blocks (keep : Bool) (fuel : Nat) (p : Progress) (out : ByteArray) : ByteArray × Option Progress :=
  match fuel with
  | 0 => (out, none)
  | fuel + 1 =>
    match p.cursor.bits 3 with
    | none => (out, none)
    | some (header, cursor) =>
      match block (header / 2) ⟨cursor, if keep then p.codes else .empty⟩ out with
      | (out, none) => (out, none)
      | (out, some p) => if header % 2 = 1 then (out, some p) else blocks keep fuel p out

end Inflate

/-- Decodes deflated data from byte `start` on, behind data with the given codes if `keep` is set: the
output, the index of the byte behind, and the codes of this data. Where the data is broken there is no
such index, and the output is what came before. -/
def inflate (keep : Bool) (codes : Inflate.Codes) (data : ByteArray) (start : Nat) :
    ByteArray × Option (Nat × Inflate.Codes) :=
  let (out, p) := Inflate.blocks keep (8 * data.size + 1) ⟨(BitCursor.ofBytes data).atByte start, codes⟩ .empty
  (out, p.map fun p => (p.cursor.align, p.codes))

end Compression

end LineCoverage
