import LineCoverage.Coverage
import LineCoverage.Trace.Token

/-!
# Trace documents

A trace document is a JSON object that maps a module to a list of blocks, each a list of the three
numbers start, end and size:

```
{"/usr/bin/target": [[4195552, 4195578, 27]]}
```

A repeated module replaces the earlier one. `null` stands for an empty list, for zero, and for the
empty name.
-/

namespace LineCoverage

abbrev BlockMap := Std.ExtTreeMap Bytes (List Block)

namespace Trace

/-- The numbers of a document as they stand, before they are read as blocks. -/
abbrev RawModules := Std.ExtTreeMap Bytes (List (List UInt64))

/-- What the next token has to continue. Lists are kept back to front. -/
inductive Expect where
  | document
  | firstName
  | name
  | colon (module : Bytes)
  | blocks (module : Bytes)
  | firstEntry (module : Bytes)
  | entry (module : Bytes) (entries : List (List UInt64))
  | entryEnd (module : Bytes) (entries : List (List UInt64))
  | firstField (module : Bytes) (entries : List (List UInt64))
  | field (module : Bytes) (entries : List (List UInt64)) (fields : List UInt64)
  | fieldEnd (module : Bytes) (entries : List (List UInt64)) (fields : List UInt64)
  | moduleEnd
  | nothing
  deriving DecidableEq, Repr

structure Reading where
  modules : RawModules
  expect : Expect

def Reading.start : Reading := ⟨∅, .document⟩

def Reading.endModule (r : Reading) (module : Bytes) (entries : List (List UInt64)) : Reading :=
  ⟨r.modules.insert module entries.reverse, .moduleEnd⟩

def Reading.step (r : Reading) (t : Token) : Option Reading :=
  match r.expect, t with
  | .document, .null => some { r with expect := .nothing }
  | .document, .openObject => some { r with expect := .firstName }
  | .firstName, .closeObject => some { r with expect := .nothing }
  | .firstName, .name m => some { r with expect := .colon m }
  | .firstName, .null => some { r with expect := .colon [] }
  | .name, .name m => some { r with expect := .colon m }
  | .name, .null => some { r with expect := .colon [] }
  | .colon m, .colon => some { r with expect := .blocks m }
  | .blocks m, .null => some (r.endModule m [])
  | .blocks m, .openList => some { r with expect := .firstEntry m }
  | .firstEntry m, .closeList => some (r.endModule m [])
  | .firstEntry m, .null => some { r with expect := .entryEnd m [[]] }
  | .firstEntry m, .openList => some { r with expect := .firstField m [] }
  | .entry m es, .null => some { r with expect := .entryEnd m ([] :: es) }
  | .entry m es, .openList => some { r with expect := .firstField m es }
  | .entryEnd m es, .comma => some { r with expect := .entry m es }
  | .entryEnd m es, .closeList => some (r.endModule m es)
  | .firstField m es, .closeList => some { r with expect := .entryEnd m ([] :: es) }
  | .firstField m es, .null => some { r with expect := .fieldEnd m es [0] }
  | .firstField m es, .number n => some { r with expect := .fieldEnd m es [n] }
  | .field m es fs, .null => some { r with expect := .fieldEnd m es (0 :: fs) }
  | .field m es fs, .number n => some { r with expect := .fieldEnd m es (n :: fs) }
  | .fieldEnd m es fs, .comma => some { r with expect := .field m es fs }
  | .fieldEnd m es fs, .closeList => some { r with expect := .entryEnd m (fs.reverse :: es) }
  | .moduleEnd, .comma => some { r with expect := .name }
  | .moduleEnd, .closeObject => some { r with expect := .nothing }
  | _, _ => none

def stepByte (state : Scan × Reading) (b : UInt8) : Option (Scan × Reading) := do
  let (scan, tokens) ← scanByte state.1 b
  let reading ← tokens.foldlM Reading.step state.2
  pure (scan, reading)

/-- The modules of a text that is one whole document. -/
def readRaw (text : Bytes) : Option RawModules := do
  let (scan, reading) ← text.foldlM stepByte (.between, .start)
  match scan, reading.expect with
  | .between, .nothing => some reading.modules
  | .over, .nothing => some reading.modules
  | _, _ => none

inductive DocumentError where
  | malformed
  | fieldCount (module : Bytes) (index fields : Nat)
  deriving DecidableEq, Repr

/-- The mark that stands for the reader's own wording. -/
def malformedMark : Bytes := utf8 "<json>"

def DocumentError.message : DocumentError → Bytes
  | .malformed => malformedMark
  | .fieldCount module index fields =>
    utf8 "module " ++ module ++ utf8 ": entry " ++ Decimal.ofNat index ++ utf8 " has " ++
      Decimal.ofNat fields ++ utf8 " fields, expected 3"

def blockOf (module : Bytes) (index : Nat) : List UInt64 → Except DocumentError Block
  | [start, stop, size] => .ok ⟨start, stop, size⟩
  | fields => .error (.fieldCount module index fields.length)

def blocksOf (module : Bytes) (entries : List (List UInt64)) : Except DocumentError (List Block) :=
  entries.zipIdx.mapM fun (fields, index) => blockOf module index fields

/-- An order in which the modules of a document are visited. Nothing fixes it: it only has to give every module
once. -/
structure ModuleOrder where
  entries : RawModules → List (Bytes × List (List UInt64))
  perm : ∀ raw, (entries raw).Perm raw.toList

def ModuleOrder.byName : ModuleOrder := ⟨fun raw => raw.toList, fun _ => .refl _⟩

/-- Reads the blocks of each module. The first entry that is no block ends the reading. -/
def parseIn (order : ModuleOrder) (text : Bytes) : Except DocumentError BlockMap :=
  match readRaw text with
  | none => .error .malformed
  | some raw =>
    (order.entries raw).foldlM (fun (blocks : BlockMap) (module, entries) => do
      pure (blocks.insert module (← blocksOf module entries))) ∅

def parse (text : Bytes) : Except DocumentError BlockMap := parseIn .byName text

end Trace

end LineCoverage
