import LineCoverage.Binary.Dwarf.Entry
import LineCoverage.Binary.Dwarf.SourceName

/-!
# Line programs

A unit's line program is a byte code. It runs on a few registers and delivers an entry for every
address that starts a source line. Its header fixes the byte code and lists the source files.
-/

namespace LineCoverage

namespace Binary

namespace Dwarf

structure LineEntry where
  address : UInt64
  file : Option Bytes
  line : Int64
  endsSequence : Bool
  deriving DecidableEq, Repr

structure LineHeader where
  addressSize : Nat
  minInstruction : Int64
  maxOperations : Int64
  lineBase : Int64
  lineRange : Int64
  opcodeBase : Nat
  opcodeLengths : Array Nat
  directories : Array Bytes
  files : Array (Option Bytes)
  start : Nat
  stop : Nat

/-! ## File tables -/

/-- The directories up to an empty name. Relative ones are relative to the first. -/
def readDirectories (first : Bytes) : (fuel : Nat) → Array Bytes → Read (Array Bytes)
  | 0, _ => Read.fail
  | fuel + 1, dirs => do
    let dir ← Read.text
    if dir = [] then pure dirs
    else readDirectories first fuel (dirs.push (if isRooted dir then dir else inDirectory first dir))

/-- One file with its directory, time and size; nothing for an empty name. -/
def readFile (dirs : Array Bytes) : Read (Option Bytes) := do
  let name ← Read.text
  if name = [] then pure none
  else
    let index ← Read.unsigned
    let _ ← Read.unsigned
    let _ ← Read.unsigned
    if isRooted name then pure (some name)
    else
      match dirs[index]? with
      | some dir => pure (some (inDirectory dir name))
      | none => Read.fail

def readFiles (dirs : Array Bytes) : (fuel : Nat) → Array (Option Bytes) → Read (Array (Option Bytes))
  | 0, _ => Read.fail
  | fuel + 1, files => do
    match ← readFile dirs with
    | some name => readFiles dirs fuel (files.push (some name))
    | none => pure files

/-- A field of a described table: the content it holds and its form. -/
structure FieldFormat where
  content : Nat
  form : Nat

/-- What a field holds; a field of another kind has empty text and number zero. -/
structure Field where
  text : Bytes := []
  number : Nat := 0

def readFormats : Read (List FieldFormat) := do
  Read.times (do pure ⟨← Read.unsigned, code (← Read.unsigned)⟩) (← Read.u8)

def readTextIn (section_ : ByteArray) (is64 : Bool) : Read Field := do
  match textAt? section_ (← Read.offset is64) with
  | some text => pure { text }
  | none => Read.fail

def readNumber (step : Read Nat) : Read Field := do pure { number := ← step }

def ignored (step : Read Unit) : Read Field := do step; pure {}

/-- A field by its form. A field of an unknown form takes nothing. -/
def readField (s : Sections) (is64 : Bool) (form : Nat) : Read Field :=
  match form with
  | 0x05 => readNumber Read.u16
  | 0x06 => readNumber Read.u32
  | 0x07 => readNumber Read.u64
  | 0x08 => do pure { text := ← Read.text }
  | 0x09 => ignored do Read.skip (← Read.unsigned)
  | 0x0B => readNumber Read.u8
  | 0x0E => readTextIn s.str is64
  | 0x0F => readNumber Read.unsigned
  | 0x1A => ignored do let _ ← Read.unsigned
  | 0x1D => ignored do let _ ← Read.offset is64
  | 0x1E => ignored (Read.skip 16)
  | 0x1F => readTextIn s.lineStr is64
  | 0x25 => ignored (Read.skip 1)
  | 0x26 => ignored (Read.skip 2)
  | 0x27 => ignored (Read.skip 3)
  | 0x28 => ignored (Read.skip 4)
  | _ => pure {}

/-- The name that the fields of a described entry give. `count` directories may be named, of which
`dirs` are known by now. -/
def readDescribed (s : Sections) (is64 : Bool) (count : Nat) (dirs : Array Bytes) :
    (formats : List FieldFormat) → (dir name : Bytes) → Read Bytes
  | [], dir, name => pure (if dir = [] ∨ name = [] then name else inDirectory dir name)
  | f :: rest, dir, name => do
    let field ← readField s is64 f.form
    if f.content = 1 then readDescribed s is64 count dirs rest dir field.text
    else if f.content = 2 then
      if field.number < count then
        readDescribed s is64 count dirs rest ((dirs[field.number]?).getD []) name
      else Read.fail
    else readDescribed s is64 count dirs rest dir name

def readDescribedDirectories (s : Sections) (is64 : Bool) (formats : List FieldFormat) (count : Nat) :
    (left : Nat) → Array Bytes → Read (Array Bytes)
  | 0, dirs => pure dirs
  | left + 1, dirs => do
    let dir ← readDescribed s is64 count dirs formats [] []
    readDescribedDirectories s is64 formats count left (dirs.push dir)

def readDescribedFiles (s : Sections) (is64 : Bool) (formats : List FieldFormat) (dirs : Array Bytes) :
    (left : Nat) → Array (Option Bytes) → Read (Array (Option Bytes))
  | 0, files => pure files
  | left + 1, files => do
    let name ← readDescribed s is64 dirs.size dirs formats [] []
    readDescribedFiles s is64 formats dirs left (files.push (some name))

/-- The directories and files of a header, by its version. From the fifth on the tables describe their
own fields. Before, the compilation directory is the first directory and files count from 1. -/
def readTables (s : Sections) (is64 : Bool) (version : Nat) (compDir : Bytes) :
    Read (Array Bytes × Array (Option Bytes)) := do
  if version < 5 then
    let dirs ← readDirectories compDir ((← get).left + 1) #[compDir]
    let files ← readFiles dirs ((← get).left + 1) #[none]
    pure (dirs, files)
  else
    let formats ← readFormats
    let count ← Read.unsigned
    let dirs ← readDescribedDirectories s is64 formats count count #[]
    let formats ← readFormats
    let files ← readDescribedFiles s is64 formats dirs (← Read.unsigned) #[]
    pure (dirs, files)

/-! ## The header -/

def operandCount? : Nat → Option Nat
  | 1 | 6 | 7 | 8 | 10 | 11 => some 0
  | 2 | 3 | 4 | 12 => some 1
  | _ => none

def lengthsAreStandard (lengths : Array Nat) : Bool :=
  lengths.toList.zipIdx.all fun (length, opcode) =>
    match operandCount? opcode with
    | some expected => length = expected
    | none => true

def signedByte (n : Nat) : Int64 := if n < 128 then Int64.ofNat n else Int64.ofNat n - 256

def readHeader (s : Sections) (unitAddressSize : Nat) (compDir : Bytes) : Read LineHeader := do
  let (length, is64) ← Read.unitLength
  let c ← get
  let stop := (c.pos + length) % 0x100000000
  let version ← Read.u16
  let addressSize ← if 5 ≤ version then Read.u8 else pure unitAddressSize
  if 5 ≤ version then Read.skip 1
  let headerLength ← Read.offset is64
  let start := ((← get).pos + headerLength) % 0x100000000
  let minInstruction ← Read.u8
  let maxOperations ← if 4 ≤ version then Read.u8 else pure 1
  Read.skip 1
  let lineBase ← Read.u8
  let lineRange ← Read.u8
  let opcodeBase ← Read.u8
  let lengths ← Read.times Read.u8 (opcodeBase - 1)
  let opcodeLengths := ((0 :: lengths).take opcodeBase).toArray
  if c.stop < stop ∨ version < 2 ∨ 5 < version ∨ stop < start ∨ maxOperations = 0 ∨ lineRange = 0
      ∨ !lengthsAreStandard opcodeLengths then Read.fail
  else
    let (directories, files) ← readTables s is64 version compDir
    pure { addressSize, minInstruction := Int64.ofNat minInstruction,
           maxOperations := Int64.ofNat maxOperations, lineBase := signedByte lineBase,
           lineRange := Int64.ofNat lineRange, opcodeBase, opcodeLengths, directories, files, start, stop }

/-! ## The byte code -/

structure Registers where
  address : UInt64 := 0
  operation : Int64 := 0
  file : Nat := 1
  line : Int64 := 1

/-- The state of a running program. Files can be added while it runs. -/
structure LineMachine where
  registers : Registers
  files : Array (Option Bytes)

namespace LineMachine

def start (h : LineHeader) : LineMachine := ⟨{}, h.files⟩

def entry (m : LineMachine) (endsSequence : Bool) : LineEntry :=
  let r := m.registers
  ⟨r.address, (m.files[r.file]?).join, r.line, endsSequence⟩

def advance (m : LineMachine) (h : LineHeader) (count : Int64) : LineMachine :=
  let operation := m.registers.operation + count
  let distance := h.minInstruction * (operation / h.maxOperations)
  { m with registers := { m.registers with
      address := m.registers.address + distance.toUInt64
      operation := operation % h.maxOperations } }

def addLines (m : LineMachine) (count : Int64) : LineMachine :=
  { m with registers := { m.registers with line := m.registers.line + count } }

def setAddress (m : LineMachine) (address : Nat) : LineMachine :=
  { m with registers := { m.registers with address := UInt64.ofNat address } }

def addToAddress (m : LineMachine) (count : Nat) : LineMachine :=
  { m with registers := { m.registers with address := m.registers.address + UInt64.ofNat count } }

def setFile (m : LineMachine) (file : Nat) : LineMachine :=
  { m with registers := { m.registers with file } }

end LineMachine

/-- An opcode with its own length. What it leaves unread is skipped. -/
def extendedStep (h : LineHeader) (m : LineMachine) : Read (LineMachine × Option LineEntry) := do
  let length := (← Read.unsigned) % 0x100000000
  let start := (← get).pos
  let opcode ← Read.u8
  let result : LineMachine × Option LineEntry ←
    match opcode with
    | 1 => pure ({ m with registers := {} }, some (m.entry true))
    | 2 => do pure (m.setAddress (← Read.address h.addressSize), none)
    | 3 => do
      match ← readFile h.directories with
      | some name => pure ({ m with files := m.files.push (some name) }, none)
      | none => Read.fail
    | 4 => do
      let _ ← Read.unsigned
      pure (m, none)
    | _ => pure (m, none)
  let here := (← get).pos
  if start + length < here then Read.fail
  else
    Read.skip (start + length - here)
    pure result

def standardStep (h : LineHeader) (m : LineMachine) (opcode : Nat) :
    Read (LineMachine × Option LineEntry) := do
  match opcode with
  | 1 => pure (m, some (m.entry false))
  | 2 => pure (m.advance h (Int64.ofNat (← Read.unsigned)), none)
  | 3 => pure (m.addLines (← Read.signed), none)
  | 4 => pure (m.setFile (← Read.unsigned), none)
  | 5 | 12 =>
    let _ ← Read.unsigned
    pure (m, none)
  | 6 | 7 | 10 | 11 => pure (m, none)
  | 8 => pure (m.advance h ((255 - Int64.ofNat h.opcodeBase) / h.lineRange), none)
  | 9 => pure (m.addToAddress (← Read.u16), none)
  | _ =>
    let _ ← Read.times Read.unsigned ((h.opcodeLengths[opcode]?).getD 0)
    pure (m, none)

/-- One opcode. The special ones, above the standard set, advance both registers and deliver. -/
def lineStep (h : LineHeader) (m : LineMachine) : Read (LineMachine × Option LineEntry) := do
  let opcode ← Read.u8
  if h.opcodeBase ≤ opcode then
    let adjusted := Int64.ofNat (opcode - h.opcodeBase)
    let m := (m.advance h (adjusted / h.lineRange)).addLines (h.lineBase + adjusted % h.lineRange)
    pure (m, some (m.entry false))
  else if opcode = 0 then extendedStep h m
  else standardStep h m opcode

/-- Runs to the end of the byte code. Gives the entries and whether the end was reached. -/
def runProgram (h : LineHeader) : (fuel : Nat) → LineMachine → Cursor → List LineEntry → List LineEntry × Bool
  | 0, _, _, entries => (entries.reverse, true)
  | fuel + 1, m, c, entries =>
    if c.isAtEnd then (entries.reverse, true)
    else
      match (lineStep h m).run c with
      | none => (entries.reverse, false)
      | some ((m, entry), c) => runProgram h fuel m c (entry.toList ++ entries)

inductive LineProgram where
  | absent
  | malformed
  | entries (list : List LineEntry) (complete : Bool)

def LineProgram.read (d : DebugData) (addressSize : Nat) (compDir : Bytes) (offset : Int64) : LineProgram :=
  let data := d.sections.line
  if offset < 0 ∨ data.size < offset.toNatClampNeg then .malformed
  else
    match (readHeader d.sections addressSize compDir).run (Cursor.ofArray data d.bigEndian offset.toNatClampNeg) with
    | none => .malformed
    | some (h, _) =>
      let (list, complete) :=
        runProgram h (h.stop - h.start + 1) (.start h) ⟨data, d.bigEndian, h.start, h.stop⟩ []
      .entries list complete

end Dwarf

end Binary

end LineCoverage
