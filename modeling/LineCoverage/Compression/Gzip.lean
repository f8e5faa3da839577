import LineCoverage.Compression.Checksum
import LineCoverage.Compression.Inflate

/-!
# Gzip and zlib streams

Deflated data with a header and a checksum. A gzip stream is a sequence of members whose contents
are joined.
-/

namespace LineCoverage

namespace Compression

namespace Gzip

def textLimit : Nat := 512

inductive NoHeader where
  | ended
  | broken
  deriving DecidableEq, Repr

def skipText (data : ByteArray) (start : Nat) : Except NoHeader Nat :=
  let text := data.extract start (start + textLimit)
  match text.data.findIdx? (· = 0) with
  | some i => .ok (start + i + 1)
  | none => .error (if text.size < textLimit then .ended else .broken)

def orBroken {α : Type} : Option α → Except NoHeader α
  | some a => .ok a
  | none => .error .broken

def skipExtra (data : ByteArray) (pos : Nat) : Except NoHeader Nat := do
  let size ← orBroken (littleEndian? data pos 2)
  let _ ← orBroken (slice? data (pos + 2) size)
  pure (pos + 2 + size)

def skipChecksum (data : ByteArray) (start pos : Nat) : Except NoHeader Nat := do
  let check ← orBroken (littleEndian? data pos 2)
  if (crc32 (data.extract start pos)).toNat % 65536 = check then pure (pos + 2) else .error .broken

def skipIf (flags bit : Nat) (skip : Nat → Except NoHeader Nat) (pos : Nat) : Except NoHeader Nat :=
  if flags / bit % 2 = 1 then skip pos else .ok pos

def header (data : ByteArray) (start : Nat) : Except NoHeader Nat := do
  if start = data.size then .error .ended
  else
    let magic ← orBroken (slice? data start 10)
    if byteAt magic 0 ≠ 0x1F ∨ byteAt magic 1 ≠ 0x8B ∨ byteAt magic 2 ≠ 8 then .error .broken
    else
      let flags := (byteAt magic 3).toNat
      let pos ← skipIf flags 4 (skipExtra data) (start + 10)
      let pos ← skipIf flags 8 (skipText data) pos
      let pos ← skipIf flags 16 (skipText data) pos
      let pos ← skipIf flags 2 (skipChecksum data start) pos
      if flags < 32 then pure pos else .error .broken

def body (data : ByteArray) (codes : Inflate.Codes) (pos : Nat) : Option (ByteArray × Nat × Inflate.Codes) := do
  let (out, stop) := inflate true codes data pos
  let (pos, codes) ← stop
  let crc ← littleEndian? data pos 4
  let size ← littleEndian? data (pos + 4) 4
  if (crc32 out).toNat = crc ∧ out.size % 0x100000000 = size then pure (out, pos + 8, codes) else none

/-- The contents of the members from a body on. Every member takes bytes. -/
def members (data : ByteArray) (fuel : Nat) (codes : Inflate.Codes) (pos : Nat) (out : ByteArray) :
    Option ByteArray :=
  match fuel with
  | 0 => none
  | fuel + 1 => do
    let (content, pos, codes) ← body data codes pos
    let out := out ++ content
    match header data pos with
    | .ok pos => members data fuel codes pos out
    | .error .ended => pure out
    | .error .broken => none

end Gzip

inductive GzipFault where
  | header
  | body
  deriving DecidableEq, Repr

def gunzip (data : ByteArray) : Except GzipFault ByteArray :=
  match Gzip.header data 0 with
  | .error _ => .error .header
  | .ok pos =>
    match Gzip.members data (data.size + 1) .empty pos .empty with
    | none => .error .body
    | some out => .ok out

/-- The first `size` bytes of the content of a zlib stream. The checksum behind the content is not
looked at. -/
def unzlib? (data : ByteArray) (size : Nat) : Option ByteArray := do
  let method ← littleEndian? data 0 1
  let flags ← littleEndian? data 1 1
  if method % 16 ≠ 8 ∨ 7 < method / 16 ∨ (method * 256 + flags) % 31 ≠ 0 ∨ flags / 32 % 2 = 1 then none
  else slice? (inflate false .empty data 2).1 0 size

end Compression

end LineCoverage
