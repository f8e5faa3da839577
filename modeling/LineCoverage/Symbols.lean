import LineCoverage.Compression.Content
import LineCoverage.Extraction
import LineCoverage.LineTable

/-!
# Symbols

Modules are named by the path they had where they ran. Their binaries are looked up there and in the
search paths, and the line table of a binary turns address counts into line counts. The tables of the
latest binaries are kept.
-/

namespace LineCoverage

inductive SymbolError where
  | canceled
  | notFound (module : Bytes)
  | unreadable (e : ContentError)
  | notElf (path : Bytes)
  | debug (path : Bytes) (fault : DebugFault)
  deriving DecidableEq, Repr

/-- The mark that stands for the wording of the binary format's own reader. -/
def malformedBinaryMark : Bytes := utf8 "<elf>"

def SymbolError.message : SymbolError → Bytes
  | .canceled => canceledText
  | .notFound module => utf8 "module binary not found: " ++ module
  | .unreadable e => e.message
  | .notElf path => utf8 "parse ELF file " ++ path ++ utf8 ": " ++ malformedBinaryMark
  | .debug path fault => path ++ utf8 ": " ++ fault.message

/-- Values kept under their keys, the latest used first. -/
structure Cache (α : Type) where
  capacity : Nat
  entries : List (Bytes × α)

namespace Cache

def defaultCapacity : Nat := 16

def empty {α : Type} (size : Int64) : Cache α :=
  ⟨if size ≤ 0 then defaultCapacity else size.toNatClampNeg, []⟩

def find? {α : Type} (c : Cache α) (key : Bytes) : Option α := c.entries.lookup key

/-- Puts a value in front and drops what no longer fits. A key that is used again comes to the front
this way too. -/
def insert {α : Type} (c : Cache α) (key : Bytes) (value : α) : Cache α :=
  { c with entries := ((key, value) :: c.entries.filter (·.1 ≠ key)).take c.capacity }

end Cache

structure Symbols where
  searchPaths : List Bytes
  tables : Cache LineTable

namespace Symbols

/-- Empty search paths and repeated ones are left out. -/
def make (searchPaths : List Bytes) (cacheSize : Int64) : Symbols :=
  ⟨(searchPaths.filter (· ≠ [])).eraseDups, .empty cacheSize⟩

/-- The paths where the binary of a module may be, in the order of their precedence. -/
def candidates (searchPaths : List Bytes) (module : Bytes) : List Bytes :=
  let base := Path.base module
  module :: searchPaths.flatMap fun dir =>
    [Path.join dir base, Path.join dir (base ++ utf8 ".debug"), Path.join dir module]

/-- Whether there is something other than a directory at a path. A failure counts as nothing there. -/
def isFile (s : Store) (path : Bytes) : Bool :=
  match s.stat path with
  | .ok isDir => !isDir
  | .error _ => false

def locate (sym : Symbols) (s : Store) (module : Bytes) : Except SymbolError Bytes :=
  match (candidates sym.searchPaths module).find? (isFile s) with
  | some path => .ok path
  | none => .error (.notFound module)

def load (s : Store) (path : Bytes) : Except SymbolError LineTable := do
  let data ← (Content.read s path).mapError .unreadable
  match Binary.Elf.parse? (Content.toArray data) with
  | none => .error (.notElf path)
  | some f => (LineTable.ofElf f).mapError (.debug path)

/-- The line table of the binary at a path: the kept one, or a new one, which is kept. -/
def lineTable (sym : Symbols) (s : Store) (path : Bytes) : Except SymbolError LineTable × Symbols :=
  match sym.tables.find? path with
  | some t => (.ok t, { sym with tables := sym.tables.insert path t })
  | none =>
    match load s path with
    | .ok t => (.ok t, { sym with tables := sym.tables.insert path t })
    | .error e => (.error e, sym)

/-- The line counts of a table, of all files or only of those with an executed line. -/
def mapLines (t : LineTable) (counts : AddressCount) (coveredFilesOnly : Bool) : FileLines :=
  let cov := t.coverage counts
  if coveredFilesOnly then cov.dropUncovered else cov

/-- The line counts that the address counts of a module amount to. -/
def coverage (sym : Symbols) (s : Store) (canceled : Bool) (module : Bytes) (counts : AddressCount)
    (coveredFilesOnly : Bool) : Except SymbolError FileLines × Symbols :=
  if canceled then (.error .canceled, sym)
  else
    match sym.locate s module with
    | .error e => (.error e, sym)
    | .ok path =>
      let (table, sym) := sym.lineTable s path
      (table.map fun t => mapLines t counts coveredFilesOnly, sym)

def loadLog (sym : Symbols) (path : Bytes) (t : LineTable) : List LogEntry :=
  match sym.tables.find? path with
  | some _ => []
  | none => [.make .debug "loaded line table" [("binary", path), ("rows", Decimal.ofNat t.rows.length)]]

def coverageLog (sym : Symbols) (s : Store) (canceled : Bool) (module : Bytes) (counts : AddressCount)
    (coveredFilesOnly : Bool) : List LogEntry :=
  if canceled then []
  else
    match sym.locate s module with
    | .error _ => []
    | .ok path =>
      match (sym.lineTable s path).1 with
      | .error _ => []
      | .ok t => sym.loadLog path t ++
          [.make .debug "mapped module coverage" [("module", module), ("binary", path),
            ("files", Decimal.ofNat (mapLines t counts coveredFilesOnly).size)]]

end Symbols

end LineCoverage
