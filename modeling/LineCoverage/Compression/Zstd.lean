import LineCoverage.Compression.Checksum
import LineCoverage.Compression.Zstd.Sequences

/-!
# Zstandard streams

A stream is a sequence of frames whose contents are joined; frames for other uses are skipped.
-/

namespace LineCoverage

namespace Compression

namespace Zstd

def frameMagic : Nat := 0xFD2FB528

def maxWindow : Nat := 0x20000000

def unknownSize : Nat := 0xFFFFFFFFFFFFFFFF

structure FrameHeader where
  /-- The window; a frame that is one segment has none of its own. -/
  window : Option Nat
  content : Option Nat
  checksum : Bool

def fieldSizes (descriptor : Nat) : Nat × Nat :=
  let dictionary := descriptor % 4
  let content := descriptor / 64
  (if dictionary = 3 then 4 else dictionary,
    if content = 0 then descriptor / 32 % 2 else Nat.pow 2 content)

/-- The header of a frame whose magic number ends at `pos`, and the index behind it. Frames that need a
dictionary are not understood. -/
def frameHeader? (data : ByteArray) (pos : Nat) : Option (FrameHeader × Nat) := do
  let descriptor ← littleEndian? data pos 1
  if descriptor / 8 % 2 = 1 then none
  else
    let (dictionarySize, contentSize) := fieldSizes descriptor
    let (window, pos) ←
      if descriptor / 32 % 2 = 1 then pure (none, pos + 1)
      else do
        let w ← littleEndian? data (pos + 1) 1
        let base := Nat.pow 2 (10 + w / 8)
        pure (some (base + base / 8 * (w % 8)), pos + 2)
    let dictionary ← littleEndian? data pos dictionarySize
    let pos := pos + dictionarySize
    let content ← littleEndian? data pos contentSize
    let content := if contentSize = 2 then content + 256 else content
    if dictionary ≠ 0 then none
    else pure (⟨window, if contentSize = 0 then none else some content, descriptor / 4 % 2 = 1⟩, pos + contentSize)

/-- One block behind the output so far. `final` tells whether it is the last one of its frame. -/
structure Block where
  out : ByteArray
  mem : Carried
  stop : Nat
  final : Bool

def block (limits : Limits) (data : ByteArray) (window pos : Nat) (mem : Carried) (out : ByteArray) :
    Option Block := do
  let header ← littleEndian? data pos 3
  let size := header / 8
  let final := header % 2 = 1
  if maxBlock < size ∨ (window < size ∧ (limits.strictWindow ∨ window ≠ 0)) then none
  else
    match header / 2 % 4 with
    | 0 => pure ⟨out ++ (← slice? data (pos + 3) size), mem, pos + 3 + size, final⟩
    | 1 =>
      let b ← slice? data (pos + 3) 1
      pure ⟨out ++ ⟨Array.replicate size (byteAt b 0)⟩, mem, pos + 4, final⟩
    | 2 =>
      if size < 2 then none
      else
        let (out, mem) ← compressedBlock limits (← slice? data (pos + 3) size) window mem out
        pure ⟨out, mem, pos + 3 + size, final⟩
    | _ => none

/-- The blocks of a frame. Each block takes three bytes for its header. -/
def blocks (data : ByteArray) (window : Nat) (fuel pos : Nat) (mem : Carried) (out : ByteArray) :
    Option (ByteArray × Nat) :=
  match fuel with
  | 0 => none
  | fuel + 1 => do
    let b ← block .file data window pos mem out
    if b.final then pure (b.out, b.stop) else blocks data window fuel b.stop b.mem b.out

def checkFrame (data : ByteArray) (h : FrameHeader) (out : ByteArray) (pos : Nat) : Option Nat :=
  if !h.checksum then some pos
  else do
    let check ← littleEndian? data pos 4
    if (XxHash.hash out).toNat % 0x100000000 = check then some (pos + 4) else none

def frame (data : ByteArray) (pos : Nat) : Option (ByteArray × Nat) := do
  let (h, pos) ← frameHeader? data pos
  let window := h.window.getD (max (h.content.getD 0) 1024)
  if maxWindow < window then none
  else
    let (out, pos) ← blocks data window (data.size + 1) pos .start .empty
    if h.content.any fun n => n ≠ unknownSize && n ≠ out.size then none
    else pure (out, ← checkFrame data h out pos)

def skippable? (data : ByteArray) (pos : Nat) : Option Nat := do
  let size ← littleEndian? data (pos + 4) 4
  let _ ← slice? data (pos + 8) size
  pure (pos + 8 + size)

def isSkippable (magic : Nat) : Bool := magic / 16 = 0x184D2A5

/-- The contents of the frames from `pos` on. Each takes at least four bytes. -/
def frames (data : ByteArray) (fuel pos : Nat) (out : ByteArray) : Option ByteArray :=
  match fuel with
  | 0 => none
  | fuel + 1 =>
    if pos = data.size then some out
    else do
      let magic ← littleEndian? data pos 4
      if isSkippable magic then frames data fuel (← skippable? data pos) out
      else if magic = frameMagic then
        let (content, pos) ← frame data (pos + 4)
        frames data fuel pos (out ++ content)
      else none

/-! ## The beginning of a stream -/

def maxSectionWindow : Nat := 0x800000

/-- The blocks of a frame until `wanted` bytes are there: the output, and the index behind the frame if
it ends before. The end of a frame is checked together with its last block. -/
def firstBlocks (data : ByteArray) (h : FrameHeader) (wanted : Nat) (fuel pos : Nat) (mem : Carried)
    (out : ByteArray) : Option (ByteArray × Option Nat) :=
  match fuel with
  | 0 => none
  | fuel + 1 =>
    if wanted ≤ out.size then some (out, none)
    else do
      let window := min (h.window.getD (h.content.getD 0)) maxSectionWindow
      let b ← block .ofSection data window pos mem out
      if h.content.any (· < b.out.size) then none
      else if !b.final then firstBlocks data h wanted fuel b.stop b.mem b.out
      else if h.content.any (· ≠ b.out.size) then none
      else pure (b.out, some (← checkFrame data h b.out b.stop))

def firstFrames (data : ByteArray) (wanted : Nat) (fuel pos : Nat) (out : ByteArray) : Option ByteArray :=
  match fuel with
  | 0 => none
  | fuel + 1 =>
    if wanted ≤ out.size then some out
    else do
      let magic ← littleEndian? data pos 4
      if isSkippable magic then firstFrames data wanted fuel (← skippable? data pos) out
      else if magic = frameMagic then
        let (h, start) ← frameHeader? data (pos + 4)
        match ← firstBlocks data h (wanted - out.size) (data.size + 1) start .start .empty with
        | (content, some pos) => firstFrames data wanted fuel pos (out ++ content)
        | (content, none) => pure (out ++ content)
      else none

end Zstd

def unzstd? (data : ByteArray) : Option ByteArray := Zstd.frames data (data.size + 1) 0 .empty

/-- The first `size` bytes of the content of a zstandard stream. What comes behind the block that
completes them is not looked at. -/
def unzstdFirst? (data : ByteArray) (size : Nat) : Option ByteArray := do
  slice? (← Zstd.firstFrames data size (data.size + 1) 0 .empty) 0 size

end Compression

end LineCoverage
