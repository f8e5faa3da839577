import LineCoverage.Bytes

/-!
# Bits of a byte string

A cursor that reads bits front to back, the low bit of each byte first.
-/

namespace LineCoverage

namespace Compression

structure BitCursor where
  data : ByteArray
  pos : Nat

namespace BitCursor

def ofBytes (data : ByteArray) : BitCursor := ⟨data, 0⟩

def bit (c : BitCursor) : Option (Nat × BitCursor) :=
  if h : c.pos / 8 < c.data.size then
    some ((c.data[c.pos / 8].toNat >>> (c.pos % 8)) % 2, { c with pos := c.pos + 1 })
  else none

def left (c : BitCursor) : Nat := 8 * c.data.size - c.pos

def bits (c : BitCursor) : Nat → Option (Nat × BitCursor)
  | 0 => some (0, c)
  | n + 1 => do
    let (b, c) ← c.bit
    let (rest, c) ← c.bits n
    pure (b + 2 * rest, c)

def align (c : BitCursor) : Nat := (c.pos + 7) / 8

def atByte (c : BitCursor) (index : Nat) : BitCursor := { c with pos := 8 * index }

end BitCursor

def byteAt (data : ByteArray) (index : Nat) : UInt8 := data[index]?.getD 0

def slice? (data : ByteArray) (start count : Nat) : Option ByteArray :=
  if start + count ≤ data.size then some (data.extract start (start + count)) else none

def littleEndian? (data : ByteArray) (start width : Nat) : Option Nat := do
  let bytes ← slice? data start width
  pure (bytes.data.foldr (fun b n => n * 256 + b.toNat) 0)

end Compression

end LineCoverage
