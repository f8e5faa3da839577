import LineCoverage.Binary.Relocation
import Std.Data.ExtTreeMap

/-!
# Debug information entries

The debug information of a binary is a list of units. A unit is a tree of entries, and an entry has
attributes in a form that its abbreviation declares.
-/

namespace LineCoverage

namespace Binary

open Compression (slice?)

namespace Dwarf

/-- One attribute of an abbreviation: its name, its form, and the value that the form may carry. -/
structure AttributeSpec where
  name : Nat
  form : Nat
  value : Int64

structure Abbreviation where
  tag : Nat
  hasChildren : Bool
  attributes : List AttributeSpec

abbrev AbbreviationTable := Std.ExtTreeMap Nat Abbreviation

structure UnitHeader where
  base : Nat
  start : Nat
  stop : Nat
  is64 : Bool
  version : Nat
  addressSize : Nat
  abbreviations : AbbreviationTable

structure Sections where
  abbrev_ : ByteArray
  info : ByteArray
  str : ByteArray
  line : ByteArray
  lineStr : ByteArray
  strOffsets : ByteArray
  address : Option ByteArray
  rangeLists : ByteArray

def Sections.none : Sections := ⟨.empty, .empty, .empty, .empty, .empty, .empty, .none, .empty⟩

structure DebugData where
  sections : Sections
  bigEndian : Bool
  units : Array UnitHeader

def compileUnit : Nat := 0x11

def partialUnit : Nat := 0x3C

def siblingAttribute : Nat := 0x01

def lineProgramAttribute : Nat := 0x10

def directoryAttribute : Nat := 0x1B

def stringBaseAttribute : Nat := 0x72

def addressBaseAttribute : Nat := 0x73

def rangeBaseAttribute : Nat := 0x74

def implicitForm : Nat := 0x21

def indirectForm : Nat := 0x16

def isKnownForm (form : Nat) : Bool :=
  (1 ≤ form && form ≤ 0x2C && form ≠ 2) || form = 0x1F20 || form = 0x1F21

/-- Tags, names, forms and the numbers of abbreviations have 32 bits; what is stored beyond them is
dropped. -/
def code (n : Nat) : Nat := n % 0x100000000

/-! ## Abbreviations -/

def readAttributes : (fuel : Nat) → Read (List AttributeSpec)
  | 0 => pure []
  | fuel + 1 => do
    let name ← Read.unsigned
    let form ← Read.unsigned
    if name = 0 ∧ form = 0 then pure []
    else
      let name := code name
      let form := code form
      if !isKnownForm form then Read.fail
      else
        let value ← if form = implicitForm then Read.signed else pure 0
        let rest ← readAttributes fuel
        pure (⟨name, form, value⟩ :: rest)

def readAbbreviations : (fuel : Nat) → AbbreviationTable → Read AbbreviationTable
  | 0, table => pure table
  | fuel + 1, table => do
    let id := code (← Read.unsigned)
    if id = 0 then pure table
    else
      let tag := code (← Read.unsigned)
      let children ← Read.u8
      let attributes ← readAttributes ((← get).left + 1)
      readAbbreviations fuel (table.insert id ⟨tag, children ≠ 0, attributes⟩)

def abbreviationsAt (data : ByteArray) (offset : Nat) : Option AbbreviationTable :=
  ((readAbbreviations (data.size + 1) ∅).run ⟨data, false, min offset data.size, data.size⟩).map (·.1)

/-! ## Units -/

def readUnit (abbrevs : ByteArray) (base length : Nat) (is64 : Bool) : Read UnitHeader := do
  let start := (← get).pos
  let version ← Read.u16
  if version < 2 ∨ 5 < version then Read.fail
  else
    let kind ← if 5 ≤ version then Read.u8 else pure 0
    let early ← if 5 ≤ version then Read.u8 else pure 0
    let offset ← Read.offset is64
    match abbreviationsAt abbrevs offset with
    | none => Read.fail
    | some table =>
      let late ← if version < 5 then Read.u8 else pure 0
      if kind = 4 ∨ kind = 5 then
        Read.skip 8
      else if kind = 2 ∨ kind = 6 then
        Read.skip 8
        let _ ← Read.offset is64
      let entries := (← get).pos
      let stop := start + length
      if stop < entries then Read.fail
      else
        Read.skip (stop - entries)
        pure ⟨base, entries, stop, is64, version, early + late, table⟩

/-- The units of the information section; the first one starts at `base`. Lengths of zero in front of
a unit belong to it. -/
def readUnits (abbrevs : ByteArray) : (fuel base : Nat) → Read (List UnitHeader)
  | 0, _ => pure []
  | fuel + 1, base => do
    if (← get).isAtEnd then pure []
    else
      let (length, is64) ← Read.unitLength
      if length = 0 then readUnits abbrevs fuel base
      else
        let u ← readUnit abbrevs base length is64
        let rest ← readUnits abbrevs fuel u.stop
        pure (u :: rest)

def unitsFit : (fuel : Nat) → Read Unit
  | 0 => pure ()
  | fuel + 1 => do
    if (← get).isAtEnd then pure ()
    else
      let (length, _) ← Read.unitLength
      Read.skip length
      unitsFit fuel

def byteOrder? (info : ByteArray) : Option Bool := do
  let _ ← slice? info 0 6
  let is64 := numberAt info false 0 4 = 0xFFFFFFFF
  let pos := if is64 then 12 else 4
  let version ← slice? info pos 2
  match Compression.byteAt version 0, Compression.byteAt version 1 with
  | 0, 0 => none
  | 0, _ => some true
  | _, 0 => some false
  | _, _ => none

def checkTypes (abbrevs : ByteArray) : (fuel : Nat) → Read Unit
  | 0 => pure ()
  | fuel + 1 => do
    if (← get).isAtEnd then pure ()
    else
      let (length, is64) ← Read.unitLength
      let start := (← get).pos
      let version ← Read.u16
      let offset ← Read.offset is64
      if version ≠ 4 ∨ (abbreviationsAt abbrevs offset).isNone then Read.fail
      else
        Read.skip 9
        let type ← Read.offset is64
        let stop := start + length
        let here := (← get).pos
        if 0x100000000 ≤ type ∨ stop < here then Read.fail
        else
          Read.skip (stop - here)
          checkTypes abbrevs fuel

def DebugData.ofSections? (s : Sections) (types : List ByteArray) : Option DebugData := do
  let big ← byteOrder? s.info
  let c := Cursor.ofArray s.info big 0
  let _ ← (unitsFit (s.info.size + 1)).run c
  let (units, _) ← (readUnits s.abbrev_ (s.info.size + 1) 0).run c
  let _ ← types.mapM fun t => (checkTypes s.abbrev_ (t.size + 1)).run (Cursor.ofArray t big 0)
  pure ⟨s, big, units.toArray⟩

def sectionSuffix (name : Bytes) : Bytes :=
  if name.startsWith (utf8 ".debug_") then name.drop 7
  else if name.startsWith (utf8 ".zdebug_") then name.drop 8
  else []

def Sections.put (s : Sections) (suffix : Bytes) (data : ByteArray) : Sections :=
  if suffix = utf8 "abbrev" then { s with abbrev_ := data }
  else if suffix = utf8 "info" then { s with info := data }
  else if suffix = utf8 "str" then { s with str := data }
  else if suffix = utf8 "line" then { s with line := data }
  else if suffix = utf8 "line_str" then { s with lineStr := data }
  else if suffix = utf8 "str_offsets" then { s with strOffsets := data }
  else if suffix = utf8 "addr" then { s with address := some data }
  else if suffix = utf8 "rnglists" then { s with rangeLists := data }
  else s

/-- The debug data of a file. Of sections with the same name the last one counts. -/
def DebugData.ofElf? (f : Elf) : Option DebugData := do
  let named ← (f.sections.toList.zipIdx.filter fun (s, _) => sectionSuffix s.name ≠ []).mapM
    fun (s, i) => do pure (sectionSuffix s.name, ← f.debugData i s)
  let sections := named.foldl (fun acc (suffix, data) => acc.put suffix data) Sections.none
  DebugData.ofSections? sections (named.filterMap fun (suffix, data) =>
    if suffix = utf8 "types" then some data else none)

/-! ## Entries -/

inductive Value where
  | number (n : Int64)
  | text (s : Bytes)
  | reference (offset : Nat)
  | other

structure Entry where
  offset : Nat
  tag : Nat
  hasChildren : Bool
  attributes : List (Nat × Value)

namespace Entry

def null : Entry := ⟨0, 0, false, []⟩

def value? (e : Entry) (name : Nat) : Option Value := e.attributes.lookup name

def number? (e : Entry) (name : Nat) : Option Int64 :=
  match e.value? name with
  | some (.number n) => some n
  | _ => none

/-- The base that a unit gives for indexed values; zero without one. -/
def base (e : Entry) (name : Nat) : Nat := ((e.number? name).getD 0).toUInt64.toNat

def text (e : Entry) (name : Nat) : Bytes :=
  match e.value? name with
  | some (.text s) => s
  | _ => []

def reference (e : Entry) (name : Nat) : Nat :=
  match e.value? name with
  | some (.reference offset) => offset
  | _ => 0

end Entry

def textAt? (data : ByteArray) (offset : Nat) : Option Bytes :=
  if offset ≤ data.size then ((Read.text).run ⟨data, false, offset, data.size⟩).map (·.1) else none

def indexed? (data : ByteArray) (big : Bool) (width base index : Nat) : Option Nat :=
  let pos := (index * width + base) % wordLimit
  if pos + width ≤ data.size then some (numberAt data big pos width) else none

def offsetWidth (is64 : Bool) : Nat := if is64 then 8 else 4

structure Bases where
  strings : Nat := 0
  addresses : Nat := 0
  rangeLists : Nat := 0
  deriving DecidableEq, Repr

def Bases.ofEntry (e : Entry) : Bases :=
  ⟨e.base stringBaseAttribute, e.base addressBaseAttribute, e.base rangeBaseAttribute⟩

/-- The unit whose entries are read, with the data around it and its bases. -/
structure Scope where
  data : DebugData
  unit : UnitHeader
  bases : Bases

namespace Scope

def stringAt? (s : Scope) (index : Nat) : Option Value := do
  let d := s.data
  let offset ← indexed? d.sections.strOffsets d.bigEndian (offsetWidth s.unit.is64) s.bases.strings index
  return .text (← textAt? d.sections.str offset)

def addressAt? (s : Scope) (index : Nat) : Option Value := do
  let table ← s.data.sections.address
  let size := s.unit.addressSize
  let _ ← indexed? table s.data.bigEndian size s.bases.addresses index
  if [1, 2, 4, 8].contains size then some .other else none

def rangeListAt? (s : Scope) (index : Nat) : Option Value := do
  let d := s.data
  let offset ← indexed? d.sections.rangeLists d.bigEndian (offsetWidth s.unit.is64) s.bases.rangeLists index
  if offset < signedLimit then some .other else none

end Scope

def readIndexed (lookup : Nat → Option Value) (index : Read Nat) : Read Value := do
  match lookup (← index) with
  | some v => pure v
  | none => Read.fail

/-- The index of a value in one to four bytes, by the distance of its form from the first such form. -/
def readIndex (distance : Nat) : Read Nat := Read.fixed (distance + 1)

def readConstant (width : Nat) : Read Value := do pure (.number (Int64.ofNat (← Read.fixed width)))

def readBlock (size : Read Nat) : Read Value := do
  Read.skip (← size)
  pure .other

def readReference (u : UnitHeader) (distance : Read Nat) : Read Value := do
  pure (.reference ((u.base + (← distance)) % 0x100000000))

def readTextAt (section_ : ByteArray) (is64 : Bool) : Read Value := do
  match textAt? section_ (← Read.offset is64) with
  | some s => pure (.text s)
  | none => Read.fail

def readForm (s : Scope) (form : Nat) (implicit : Int64) : Read Value :=
  let u := s.unit
  match form with
  | 0x01 => do let _ ← Read.address u.addressSize; pure .other
  | 0x03 => readBlock Read.u16
  | 0x04 => readBlock Read.u32
  | 0x05 => readConstant 2
  | 0x06 => readConstant 4
  | 0x07 => readConstant 8
  | 0x08 => do pure (.text (← Read.text))
  | 0x09 => readBlock Read.unsigned
  | 0x0A => readBlock Read.u8
  | 0x0B => readConstant 1
  | 0x0C => do let _ ← Read.u8; pure .other
  | 0x0D => do pure (.number (← Read.signed))
  | 0x0E => readTextAt s.data.sections.str u.is64
  | 0x0F => do pure (.number (Int64.ofNat (← Read.unsigned)))
  | 0x10 => do
    let offset ← if u.version = 2 then Read.address u.addressSize else Read.offset u.is64
    pure (.reference (offset % 0x100000000))
  | 0x11 => readReference u Read.u8
  | 0x12 => readReference u Read.u16
  | 0x13 => readReference u Read.u32
  | 0x14 => readReference u Read.u64
  | 0x15 => readReference u Read.unsigned
  | 0x17 => do pure (.number (Int64.ofNat (← Read.offset u.is64)))
  | 0x18 => readBlock Read.unsigned
  | 0x19 => pure .other
  | 0x1A => readIndexed s.stringAt? Read.unsigned
  | 0x1B => readIndexed s.addressAt? Read.unsigned
  | 0x1C => do Read.skip 4; pure .other
  | 0x1D => do let _ ← Read.offset u.is64; pure .other
  | 0x1E => do Read.skip 16; pure .other
  | 0x1F => if s.data.sections.lineStr.size = 0 then Read.fail else readTextAt s.data.sections.lineStr u.is64
  | 0x20 => do Read.skip 8; pure .other
  | 0x21 => pure (.number implicit)
  | 0x22 => do let _ ← Read.unsigned; pure .other
  | 0x23 => readIndexed s.rangeListAt? Read.unsigned
  | 0x24 => do Read.skip 8; pure .other
  | 0x25 => readIndexed s.stringAt? (readIndex 0)
  | 0x26 => readIndexed s.stringAt? (readIndex 1)
  | 0x27 => readIndexed s.stringAt? (readIndex 2)
  | 0x28 => readIndexed s.stringAt? (readIndex 3)
  | 0x29 => readIndexed s.addressAt? (readIndex 0)
  | 0x2A => readIndexed s.addressAt? (readIndex 1)
  | 0x2B => readIndexed s.addressAt? (readIndex 2)
  | 0x2C => readIndexed s.addressAt? (readIndex 3)
  | 0x1F20 => do pure (.number (Int64.ofNat (← Read.offset u.is64)))
  | 0x1F21 => do pure (.number (Int64.ofNat (← Read.offset u.is64)))
  | _ => Read.fail

def readValue (s : Scope) (a : AttributeSpec) : Read Value := do
  if a.form = indirectForm then readForm s (code (← Read.unsigned)) 0
  else readForm s a.form a.value

def readEntry (s : Scope) : Read Entry := do
  let offset := (← get).pos
  let id := code (← Read.unsigned)
  if id = 0 then pure .null
  else
    match s.unit.abbreviations[id]? with
    | none => Read.fail
    | some a =>
      let attributes ← a.attributes.mapM fun spec => do pure (spec.name, ← readValue s spec)
      pure ⟨offset, a.tag, a.hasChildren, attributes⟩

/-- The bases of a unit. From the fifth version on its first entry gives them, which is read without
bases for that. -/
def basesOf? (d : DebugData) (u : UnitHeader) : Option Bases :=
  if u.version < 5 then some {}
  else do
    let (e, _) ← (readEntry ⟨d, u, {}⟩).run ⟨d.sections.info, d.bigEndian, u.start, u.stop⟩
    pure (.ofEntry e)

end Dwarf

end Binary

end LineCoverage
