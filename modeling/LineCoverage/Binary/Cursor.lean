import LineCoverage.Compression.Bits

/-!
# Reading binary data

A cursor runs over a part of a byte string and reads numbers and texts off its front. Reading fails
where the part ends.
-/

namespace LineCoverage

namespace Binary

open Compression (byteAt)

structure Cursor where
  data : ByteArray
  bigEndian : Bool
  pos : Nat
  stop : Nat

/-- A reading step: a value and the cursor behind it, or a failure. -/
abbrev Read := StateT Cursor Option

namespace Cursor

def ofArray (data : ByteArray) (bigEndian : Bool) (pos : Nat) : Cursor := ⟨data, bigEndian, pos, data.size⟩

def left (c : Cursor) : Nat := c.stop - c.pos

def isAtEnd (c : Cursor) : Bool := c.stop ≤ c.pos

end Cursor

def numberAt (data : ByteArray) (bigEndian : Bool) (pos width : Nat) : Nat :=
  (List.range width).foldl (fun n i =>
    let index := if bigEndian then pos + i else pos + width - 1 - i
    n * 256 + (byteAt data index).toNat) 0

namespace Read

def fail {α : Type} : Read α := fun _ => none

def fixed (width : Nat) : Read Nat := fun c =>
  if width ≤ c.left then
    some (numberAt c.data c.bigEndian c.pos width, { c with pos := c.pos + width })
  else none

def u8 : Read Nat := fixed 1

def u16 : Read Nat := fixed 2

def u32 : Read Nat := fixed 4

def u64 : Read Nat := fixed 8

def offset (is64 : Bool) : Read Nat := if is64 then u64 else u32

def skip (count : Nat) : Read Unit := fun c =>
  if count ≤ c.left then some ((), { c with pos := c.pos + count }) else none

def text : Read Bytes := fun c =>
  let rest := (c.data.extract c.pos c.stop).data
  match rest.findIdx? (· = 0) with
  | some n => some ((rest.extract 0 n).toList, { c with pos := c.pos + n + 1 })
  | none => none

/-- The value and the number of payload bits of a variable-length number, or nothing if it has no
last byte. -/
def groups (data : ByteArray) : (left pos value bits : Nat) → Option (Nat × Nat × Nat)
  | 0, _, _, _ => none
  | left + 1, pos, value, bits =>
    let b := (byteAt data pos).toNat
    let value := value + b % 128 * Nat.pow 2 bits
    if b < 128 then some (value, bits + 7, pos + 1) else groups data left (pos + 1) value (bits + 7)

def unsigned : Read Nat := fun c =>
  (groups c.data c.left c.pos 0 0).map fun (value, _, pos) => (value % wordLimit, { c with pos })

def signed : Read Int64 := fun c =>
  (groups c.data c.left c.pos 0 0).map fun (value, bits, pos) =>
    let low : Nat := value % wordLimit
    let number : Int := if bits ≤ 64 ∧ low / Nat.pow 2 (bits - 1) % 2 = 1 then (low : Int) - Nat.pow 2 bits else (low : Int)
    (Int64.ofInt number, { c with pos })

def address (size : Nat) : Read Nat :=
  if size = 1 ∨ size = 2 ∨ size = 4 ∨ size = 8 then fixed size else fail

/-- The length of a unit and whether its offsets have 64 bits. Lengths are taken modulo 2 ^ 32. -/
def unitLength : Read (Nat × Bool) := do
  let n ← u32
  if n = 0xFFFFFFFF then
    let n ← u64
    pure (n % 0x100000000, true)
  else if 0xFFFFFFF0 ≤ n then fail
  else pure (n, false)

def times {α : Type} (step : Read α) : Nat → Read (List α)
  | 0 => pure []
  | n + 1 => do
    let a ← step
    let rest ← times step n
    pure (a :: rest)

end Read

end Binary

end LineCoverage
