import LineCoverage.Binary.Cursor
import LineCoverage.Compression.Gzip
import LineCoverage.Compression.Zstd

/-!
# ELF files

The sections of an object file, with their names and data. Sections may be compressed, and the
debug sections of an object that is not linked yet need their relocations applied.
-/

namespace LineCoverage

namespace Binary

open Compression (byteAt slice?)

structure Section where
  name : Bytes
  nameIndex : Nat
  kind : Nat
  flags : Nat
  offset : Nat
  fileSize : Nat
  link : Nat
  info : Nat
  packed : Option (Nat × Nat)

structure Elf where
  data : ByteArray
  is64 : Bool
  bigEndian : Bool
  kind : Nat
  machine : Nat
  sections : Array Section

namespace Elf

def executable : Nat := 2

def symbolTable : Nat := 2

def stringTable : Nat := 3

def relocationsWithAddend : Nat := 4

def noBits : Nat := 8

def relocations : Nat := 9

def allocated : Nat := 2

def compressed : Nat := 0x800

def packedHeader (is64 : Bool) : Nat := if is64 then 24 else 12

/-- A field of a record at `base`: its position and width depend on the class of the file. -/
def field (data : ByteArray) (big is64 : Bool) (base at32 width32 at64 width64 : Nat) : Nat :=
  if is64 then numberAt data big (base + at64) width64 else numberAt data big (base + at32) width32

def readSection (data : ByteArray) (is64 big : Bool) (base : Nat) : Option Section :=
  let word (at32 at64 : Nat) := field data big is64 base at32 4 at64 4
  let wide (at32 at64 : Nat) := field data big is64 base at32 4 at64 8
  let flags := wide 8 8
  let offset := wide 16 24
  let size := wide 20 32
  if signedLimit ≤ offset ∨ signedLimit ≤ size then none
  else
    let plain : Section := ⟨[], word 0 0, word 4 4, flags, offset, size, word 24 40, word 28 44, none⟩
    if flags / compressed % 2 = 0 then some plain
    else if size < packedHeader is64 ∨ data.size < offset + packedHeader is64 then none
    else
      some { plain with packed := some (numberAt data big offset 4, field data big is64 offset 4 4 8 8) }

/-- The content of a packed section: the first `size` bytes of what is packed behind `start`. -/
def unpack (data : ByteArray) (s : Section) (start method size : Nat) : Option ByteArray :=
  let stored := data.extract (s.offset + start) (min (s.offset + s.fileSize) data.size)
  if size = 0 then some .empty
  else if method = 1 then Compression.unzlib? stored size
  else if method = 2 then Compression.unzstdFirst? stored size
  else none

def sectionData (f : Elf) (s : Section) : Option ByteArray :=
  match s.packed with
  | some (method, size) =>
    if s.kind = noBits then if size = 0 then some .empty else none
    else if s.flags / allocated % 2 = 1 then if size = 0 then some .empty else none
    else unpack f.data s (packedHeader f.is64) method size
  | none =>
    if s.kind = noBits then if s.fileSize = 0 then some .empty else none
    else
      let start := f.data.extract s.offset (s.offset + 12)
      if (utf8 ".zdebug").isPrefixOf s.name ∧ 12 ≤ s.fileSize ∧ start.size = 12 ∧
          start.data.toList.take 4 = utf8 "ZLIB" then
        unpack f.data s 12 1 (numberAt start true 4 8)
      else if s.fileSize = 0 then some .empty
      else slice? f.data s.offset s.fileSize

def textAt? (table : ByteArray) (index : Nat) : Option Bytes :=
  if index < table.size then
    let rest := (table.extract index table.size).data
    (rest.findIdx? (· = 0)).map fun n => (rest.extract 0 n).toList
  else none

structure Counts where
  programs : Nat
  sections : Nat
  names : Nat

def manyPrograms : Nat := 0xFFFF

/-- The counts that are meant. Large ones stand in the first section. -/
def Counts.resolve? (c : Counts) (data : ByteArray) (is64 big : Bool) (shoff : Nat) : Option Counts :=
  if shoff = 0 ∨ (c.sections ≠ 0 ∧ c.programs ≠ manyPrograms) then some c
  else if data.size < shoff + (if is64 then 64 else 40) then none
  else
    let size := field data big is64 shoff 20 4 32 8
    let link := field data big is64 shoff 24 4 40 4
    let info := field data big is64 shoff 28 4 44 4
    let many := c.programs = manyPrograms
    if numberAt data big (shoff + 4) 4 ≠ 0 ∨ (many ∧ info < manyPrograms) then none
    else
      let c := if many then { c with programs := info } else c
      if c.sections ≠ 0 then some c
      else if size < 0xFF00 ∨ signedLimit ≤ size then none
      else if c.names = 0xFFFF then if link < 0xFF00 then none else some { c with sections := size, names := link }
      else some { c with sections := size }

def nameSections (f : Elf) (shstrndx : Nat) : Option Elf :=
  if f.sections.size = 0 ∨ shstrndx = 0 then some f
  else do
    let names ← f.sections[shstrndx]?
    if names.kind ≠ stringTable then none
    else
      let table ← f.sectionData names
      let sections ← f.sections.mapM fun s => (textAt? table s.nameIndex).map fun n => { s with name := n }
      pure { f with sections }

def programsOk (data : ByteArray) (is64 big : Bool) (phoff phentsize phnum : Nat) : Bool :=
  phnum = 0 ||
    ((if is64 then 56 else 32) ≤ phentsize && phoff + phnum * phentsize ≤ data.size &&
      (List.range phnum).all fun i =>
        let base := phoff + i * phentsize
        field data big is64 base 4 4 8 8 < signedLimit && field data big is64 base 16 4 32 8 < signedLimit)

def parse? (data : ByteArray) : Option Elf := do
  let ident ← slice? data 0 16
  if ident.data.toList.take 4 ≠ [0x7F, 0x45, 0x4C, 0x46] then none
  else
    let cls := byteAt ident 4
    let order := byteAt ident 5
    if (cls ≠ 1 ∧ cls ≠ 2) ∨ (order ≠ 1 ∧ order ≠ 2) ∨ byteAt ident 6 ≠ 1 then none
    else
      let is64 := cls = 2
      let big := order = 2
      if data.size < (if is64 then 64 else 52) ∨ numberAt data big 20 4 ≠ 1 then none
      else
        let phoff := field data big is64 0 28 4 32 8
        let shoff := field data big is64 0 32 4 40 8
        let phentsize := field data big is64 0 42 2 54 2
        let phnum := field data big is64 0 44 2 56 2
        let shentsize := field data big is64 0 46 2 58 2
        let shnum := field data big is64 0 48 2 60 2
        let shstrndx := field data big is64 0 50 2 62 2
        if signedLimit ≤ shoff ∨ signedLimit ≤ phoff ∨ (shoff = 0 ∧ shnum ≠ 0) ∨ (0 < shnum ∧ shnum ≤ shstrndx) then
          none
        else
          let counts ← Counts.resolve? ⟨phnum, shnum, shstrndx⟩ data is64 big shoff
          let tableEnd := shoff + counts.sections * shentsize
          if !programsOk data is64 big phoff phentsize counts.programs ∨
              (0 < counts.sections ∧ (shentsize < (if is64 then 64 else 40) ∨ data.size < tableEnd)) then none
          else
            let sections ← (List.range counts.sections).mapM fun i => readSection data is64 big (shoff + i * shentsize)
            nameSections ⟨data, is64, big, numberAt data big 16 2, numberAt data big 18 2, sections.toArray⟩ counts.names

def sectionNamed? (f : Elf) (name : Bytes) : Option Section := f.sections.find? (·.name = name)

end Elf

end Binary

end LineCoverage
