import LineCoverage.Binary.Dwarf.LineProgram

/-!
# Compilation units

A walk over the entries of the debug information that stops at every compilation unit and delivers its
directory and its line program. The entries below a unit are passed over: by the sibling that an entry
names, by going to the next unit, or one by one.
-/

namespace LineCoverage

namespace Binary

namespace Dwarf

structure UnitLines where
  directory : Bytes
  program : LineProgram

/-- The compilation units in order, up to the end or up to the first entry that cannot be read. -/
structure UnitStream where
  units : List UnitLines
  complete : Bool

/-- A position in the debug information: the number of a unit, an offset in the section, and the bases
of the unit, if they can be read. -/
structure Walk where
  unit : Nat
  pos : Nat
  bases : Option Bases

namespace Walk

def atUnit (d : DebugData) (u : UnitHeader) (index : Nat) : Walk := ⟨index, u.start, basesOf? d u⟩

def settle (d : DebugData) : (fuel : Nat) → Walk → Walk
  | 0, w => w
  | fuel + 1, w =>
    match d.units[w.unit]?, d.units[w.unit + 1]? with
    | some u, some next => if u.stop ≤ w.pos then settle d fuel (atUnit d next (w.unit + 1)) else w
    | _, _ => w

end Walk

inductive NextEntry where
  | finished
  | failed
  | entry (e : Entry) (w : Walk)

def Walk.next (d : DebugData) (w : Walk) : NextEntry :=
  let w := w.settle d d.units.size
  match d.units[w.unit]? with
  | none => .finished
  | some u =>
    if u.stop ≤ w.pos then .finished
    else
      let read := w.bases.bind fun bases =>
        (readEntry ⟨d, u, bases⟩).run ⟨d.sections.info, d.bigEndian, w.pos, u.stop⟩
      match read with
      | none => .failed
      | some (e, c) => .entry e { w with pos := c.pos }

def Walk.seek (d : DebugData) (w : Walk) (offset : Nat) : Option Walk :=
  match d.units.findIdx? fun u => u.start ≤ offset && offset < u.stop with
  | some index => some ⟨index, offset, if index = w.unit then w.bases else d.units[index]?.bind (basesOf? d)⟩
  | none => none

inductive Way where
  | jump (w : Walk)
  | nowhere
  | oneByOne

/-- The way from an entry with children to what follows them. A sibling behind the entry comes first,
then the next unit. -/
def Walk.way (d : DebugData) (w : Walk) (e : Entry) : Way :=
  let sibling := e.reference siblingAttribute
  if w.pos ≤ sibling then
    match w.seek d sibling with
    | some w => .jump w
    | none => .nowhere
  else if e.tag = compileUnit ∨ e.tag = partialUnit then
    match d.units[w.unit + 1]? with
    | some u => .jump (.atUnit d u (w.unit + 1))
    | none => .oneByOne
  else .oneByOne

def Walk.close (d : DebugData) : (fuel depth : Nat) → Walk → Option Walk
  | 0, _, w => some w
  | _, 0, w => some w
  | fuel + 1, depth + 1, w =>
    match w.next d with
    | .finished => some w
    | .failed => none
    | .entry e w =>
      if e.tag = 0 then close d fuel depth w
      else if e.hasChildren then
        match w.way d e with
        | .jump w => close d fuel (depth + 1) w
        | .nowhere => none
        | .oneByOne => close d fuel (depth + 2) w
      else close d fuel (depth + 1) w

def walkBound (d : DebugData) : Nat := d.sections.info.size + d.units.size + 2

def Walk.skipChildren (d : DebugData) (w : Walk) (e : Entry) : Option Walk :=
  if e.hasChildren then
    match w.way d e with
    | .jump w => some w
    | .nowhere => none
    | .oneByOne => w.close d (walkBound d) 1
  else some w

def unitLines (d : DebugData) (w : Walk) (e : Entry) : UnitLines :=
  let directory := e.text directoryAttribute
  let addressSize := (d.units[w.unit]?.map (·.addressSize)).getD 0
  match e.number? lineProgramAttribute with
  | some offset => ⟨directory, .read d addressSize directory offset⟩
  | none => ⟨directory, .absent⟩

def unitsFrom (d : DebugData) : (fuel : Nat) → Walk → List UnitLines → UnitStream
  | 0, _, units => ⟨units.reverse, true⟩
  | fuel + 1, w, units =>
    match w.next d with
    | .finished => ⟨units.reverse, true⟩
    | .failed => ⟨units.reverse, false⟩
    | .entry e w =>
      let units := if e.tag = compileUnit then unitLines d w e :: units else units
      match w.skipChildren d e with
      | some w => unitsFrom d fuel w units
      | none => ⟨units.reverse, false⟩

def DebugData.unitStream (d : DebugData) : UnitStream :=
  match d.units[0]? with
  | some u => unitsFrom d (walkBound d) (.atUnit d u 0) []
  | none => ⟨[], true⟩

end Dwarf

end Binary

end LineCoverage
