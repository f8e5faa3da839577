import LineCoverage.Binary.Elf

/-!
# Relocations

In an object file that is not linked yet, addresses in the debug sections are left to be filled in:
a relocation names the place and the symbol whose value belongs there.
-/

namespace LineCoverage

namespace Binary

structure RelocationFormat where
  /-- Whether a relocation has an addend of its own. Otherwise the value is added to what is there. -/
  hasAddend : Bool
  split : Nat → Nat × Nat
  types : List (Nat × Nat)

namespace RelocationFormat

def wide (types : List (Nat × Nat)) : RelocationFormat :=
  ⟨true, fun info => (info / 0x100000000, info % 0x10000), types⟩

def narrow (hasAddend : Bool) (type : Nat) : RelocationFormat :=
  ⟨hasAddend, fun info => (info / 256, info % 256), [(type, 4)]⟩

def ofFile? (f : Elf) : Option RelocationFormat :=
  if f.is64 then
    match f.machine with
    | 62 => some (wide [(1, 8), (10, 4)])
    | 183 => some (wide [(257, 8), (258, 4)])
    | 21 => some (wide [(38, 8), (1, 4)])
    | 243 => some (wide [(2, 8), (1, 4)])
    | 258 => some (wide [(2, 8), (1, 4)])
    | 22 => some (wide [(22, 8), (4, 4)])
    | 43 => some { wide [(32, 8), (54, 8), (3, 4), (23, 4)] with
        split := fun info => (info / 0x100000000, info % 256) }
    | 8 => some { wide [(18, 8), (2, 4)] with
        split := fun info =>
          if f.bigEndian then (info / 0x100000000, info % 256) else (info % 0x100000000, info / 0x100000000000000) }
    | _ => none
  else
    match f.machine with
    | 3 => some (narrow false 1)
    | 40 => some (narrow false 2)
    | 8 => some (narrow false 2)
    | 20 => some (narrow true 1)
    | _ => none

end RelocationFormat

structure ElfSymbol where
  sectionIndex : Nat
  value : Nat

namespace Elf

def symbols? (f : Elf) : Option (Array ElfSymbol) := do
  let table ← f.sections.find? (·.kind = symbolTable)
  let data ← f.sectionData table
  let size := if f.is64 then 24 else 16
  let names ← f.sections[table.link]?
  let _ ← f.sectionData names
  if data.size = 0 ∨ data.size % size ≠ 0 ∨ table.link = 0 then none
  else
    let symbols := (List.range (data.size / size - 1)).map fun i =>
      let base := (i + 1) * size
      ElfSymbol.mk (field data f.bigEndian f.is64 base 14 2 6 2) (field data f.bigEndian f.is64 base 4 4 8 8)
    pure symbols.toArray

def isPlaced (s : ElfSymbol) : Bool := s.sectionIndex ≠ 0 && s.sectionIndex < 0xFF00

def putNumber (data : ByteArray) (bigEndian : Bool) (pos width value : Nat) : ByteArray :=
  (List.range width).foldl (fun data i =>
    let shift := if bigEndian then width - 1 - i else i
    ⟨data.data.setIfInBounds (pos + i) (UInt8.ofNat (value / Nat.pow 256 shift))⟩) data

def relocate (f : Elf) (format : RelocationFormat) (symbols : Array ElfSymbol) (rels : ByteArray)
    (data : ByteArray) (base : Nat) : ByteArray :=
  let place := field rels f.bigEndian f.is64 base 0 4 0 8
  let (number, type) := format.split (field rels f.bigEndian f.is64 base 4 4 8 8)
  match symbols[number - 1]?, format.types.lookup type with
  | some symbol, some width =>
    if number = 0 ∨ data.size < place + width then data
    else if format.hasAddend then
      let addend := field rels f.bigEndian f.is64 base 8 4 16 8
      let negative := addend ≥ (if f.is64 then signedLimit else 0x80000000)
      if negative ∨ !isPlaced symbol then data
      else putNumber data f.bigEndian place width (symbol.value + addend)
    else
      putNumber data f.bigEndian place width (symbol.value + numberAt data f.bigEndian place width)
  | _, _ => data

def applyRelocations (f : Elf) (data rels : ByteArray) : Option ByteArray := do
  let format ← RelocationFormat.ofFile? f
  let size := if f.is64 then 24 else if format.hasAddend then 12 else 8
  if rels.size % size ≠ 0 then none
  else
    let symbols ← f.symbols?
    pure ((List.range (rels.size / size)).foldl (fun data i =>
      f.relocate format symbols rels data (i * size)) data)

def debugData (f : Elf) (index : Nat) (s : Section) : Option ByteArray := do
  let data ← f.sectionData s
  if f.kind = executable then pure data
  else
    let rels := f.sections.toList.filter fun r =>
      (r.kind = relocationsWithAddend || r.kind = relocations) && r.info = index
    rels.foldlM (fun data r => do f.applyRelocations data (← f.sectionData r)) data

end Elf

end Binary

end LineCoverage
