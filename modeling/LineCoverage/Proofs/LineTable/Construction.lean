import LineCoverage.LineTable
import LineCoverage.Proofs.Path

/-!
# From line programs to a line table

A table has a row for each entry of a line program that names a file and a line, and no other rows. They are sorted by
address and otherwise stay in the order of the units and of their programs.
-/

namespace LineCoverage

theorem Path.clean_joinAll {parts : List Bytes} (h : ∃ p ∈ parts, p ≠ []) :
    Path.clean (Path.joinAll parts) = Path.joinAll parts := by
  unfold Path.joinAll
  split
  · rename_i hnone
    obtain ⟨p, hmem, hne⟩ := h
    simp only [List.filter_eq_nil_iff, decide_eq_true_eq, not_not] at hnone
    exact absurd (hnone p hmem) hne
  · exact Path.clean_clean _

theorem filter_mergeSort {α : Type} {le : α → α → Bool} {p : α → Bool} (htrans : ∀ a b c, le a b → le b c → le a c)
    (htotal : ∀ a b, le a b || le b a) (hclass : ∀ a b, p a → p b → le a b) (l : List α) :
    (l.mergeSort le).filter p = l.filter p := by
  -- The class is sorted as it stands, so sorting keeps it as a sublist, and it has no more elements.
  have hpairs : (l.filter p).Pairwise fun a b => le a b = true := by
    rw [List.pairwise_filter]
    exact List.pairwise_of_forall fun a b ha hb => hclass a b ha hb
  have hsub : (l.filter p).Sublist ((l.mergeSort le).filter p) := by
    have h := (List.sublist_mergeSort htrans htotal hpairs List.filter_sublist).filter p
    simpa [List.filter_filter] using h
  exact (hsub.eq_of_length ((List.mergeSort_perm l le).filter p).length_eq.symm).symm

namespace Binary.Dwarf

/-! ## The entries of a walk -/

/-- The entries that a walk comes to, each with its place, and whether it comes to the end. What lies below an entry is
passed over. -/
def entriesFrom (d : DebugData) : (fuel : Nat) → Walk → List (Entry × Walk) × Bool
  | 0, _ => ([], true)
  | fuel + 1, w =>
    match w.next d with
    | .finished => ([], true)
    | .failed => ([], false)
    | .entry e w =>
      match w.skipChildren d e with
      | some next => ((e, w) :: (entriesFrom d fuel next).1, (entriesFrom d fuel next).2)
      | none => ([(e, w)], false)

/-- The entries of the debug information that are below no other. -/
def DebugData.entries (d : DebugData) : List (Entry × Walk) × Bool :=
  match d.units[0]? with
  | some u => entriesFrom d (walkBound d) (.atUnit d u 0)
  | none => ([], true)

def compileUnits (d : DebugData) (entries : List (Entry × Walk)) : List UnitLines :=
  (entries.filter fun (e, _) => e.tag = compileUnit).map fun (e, w) => unitLines d w e

theorem unitsFrom_eq (d : DebugData) (fuel : Nat) (w : Walk) (units : List UnitLines) :
    unitsFrom d fuel w units =
      ⟨units.reverse ++ compileUnits d (entriesFrom d fuel w).1, (entriesFrom d fuel w).2⟩ := by
  induction fuel generalizing w units with
  | zero => simp [unitsFrom, entriesFrom, compileUnits]
  | succ fuel ih =>
    rw [unitsFrom, entriesFrom]
    cases w.next d with
    | finished => simp [compileUnits]
    | failed => simp [compileUnits]
    | entry e w =>
      cases hskip : w.skipChildren d e <;> by_cases htag : e.tag = compileUnit <;>
        simp [hskip, htag, ih, compileUnits]

theorem unitStream_eq (d : DebugData) : d.unitStream = ⟨compileUnits d d.entries.1, d.entries.2⟩ := by
  unfold DebugData.unitStream DebugData.entries
  cases d.units[0]? with
  | none => rfl
  | some u => exact unitsFrom_eq d _ _ []

/-- The line program of the unit can be read to its end, if it has one. -/
def UnitLines.Readable (u : UnitLines) : Prop :=
  match u.program with
  | .absent => True
  | .malformed => False
  | .entries _ complete => complete = true

def UnitLines.entries (u : UnitLines) : List LineEntry :=
  match u.program with
  | .entries list _ => list
  | _ => []

end Binary.Dwarf

namespace LineTable

open Binary.Dwarf (LineEntry UnitLines UnitStream)

/-! ## Paths of files -/

theorem sourcePath_eq (dir name : Bytes) :
    sourcePath dir name =
      if Path.isAbsolute name = false ∧ dir ≠ [] then Path.join dir name else Path.clean name := by
  unfold sourcePath
  by_cases habs : Path.isAbsolute name = true
  · simp [habs]
  · by_cases hdir : dir = []
    · simp [hdir]
    · simp only [habs, hdir, decide_false, Bool.or_self, Bool.false_eq_true, if_false, ne_eq, not_false_iff, and_self,
        if_true]
      exact Path.clean_joinAll ⟨dir, List.mem_cons_self, hdir⟩

theorem clean_sourcePath (dir name : Bytes) : Path.clean (sourcePath dir name) = sourcePath dir name :=
  Path.clean_clean _

/-! ## Rows -/

/-- An entry that gives a row: not the end of a sequence, with a file and a line. -/
def Kept (e : LineEntry) : Prop := e.endsSequence = false ∧ e.file.isSome ∧ 0 < e.line

instance (e : LineEntry) : Decidable (Kept e) := inferInstanceAs (Decidable (_ ∧ _))

def rowIn (dir : Bytes) (e : LineEntry) : Row := ⟨e.address, sourcePath dir (e.file.getD []), e.line⟩

/-- The entries of the units, each with the directory of its unit, in the order of the units and of their programs. -/
def delivered (stream : UnitStream) : List (Bytes × LineEntry) :=
  stream.units.flatMap fun u => u.entries.map fun e => (u.directory, e)

def kept (stream : UnitStream) : List (Bytes × LineEntry) := (delivered stream).filter fun e => Kept e.2

theorem rowOf_eq (dir : Bytes) (e : LineEntry) : rowOf dir e = if Kept e then some (rowIn dir e) else none := by
  obtain ⟨address, file, line, ends⟩ := e
  cases file with
  | none => simp [rowOf, Kept]
  | some name => cases ends <;> simp [rowOf, Kept, rowIn, ← Int64.not_le, ite_not]

theorem filterMap_rowOf (dir : Bytes) (entries : List LineEntry) :
    entries.filterMap (rowOf dir) = (entries.filter fun e => Kept e).map (rowIn dir) := by
  induction entries with
  | nil => rfl
  | cons e rest ih =>
    rw [List.filterMap_cons, List.filter_cons, rowOf_eq, ih]
    by_cases h : Kept e <;> simp [h]

theorem unitRows_cases (u : UnitLines) :
    (u.Readable ∧ unitRows u = .ok (u.entries.filterMap (rowOf u.directory))) ∨
      ¬u.Readable ∧ ∃ e, unitRows u = .error e := by
  obtain ⟨dir, program⟩ := u
  cases program with
  | absent => exact .inl ⟨trivial, rfl⟩
  | malformed => exact .inr ⟨id, _, rfl⟩
  | entries list complete =>
    cases complete with
    | true => exact .inl ⟨rfl, rfl⟩
    | false => exact .inr ⟨Bool.false_ne_true, _, rfl⟩

theorem rowsOf_cases (units : List UnitLines) :
    ((∀ u ∈ units, u.Readable) ∧
        rowsOf units = .ok (units.flatMap fun u => u.entries.filterMap (rowOf u.directory))) ∨
      (¬∀ u ∈ units, u.Readable) ∧ ∃ e, rowsOf units = .error e := by
  induction units with
  | nil => exact .inl ⟨by simp, rfl⟩
  | cons u rest ih =>
    rw [rowsOf, List.forall_mem_cons, List.flatMap_cons]
    rcases unitRows_cases u with ⟨hread, hrows⟩ | ⟨hunread, e, herror⟩
    · rw [hrows]
      rcases ih with ⟨hrest, hrows⟩ | ⟨hrest, e, herror⟩
      · rw [hrows]
        exact .inl ⟨⟨hread, hrest⟩, rfl⟩
      · rw [herror]
        exact .inr ⟨fun h => hrest h.2, e, rfl⟩
    · rw [herror]
      exact .inr ⟨fun h => hunread h.1, e, rfl⟩

theorem flatMap_rows (stream : UnitStream) :
    stream.units.flatMap (fun u => u.entries.filterMap (rowOf u.directory)) =
      (kept stream).map fun e => rowIn e.1 e.2 := by
  rw [kept, delivered, List.filter_flatMap, List.map_flatMap]
  simp [filterMap_rowOf, List.filter_map, Function.comp_def]

/-! ## Paths kept by file -/

/-- An entry as it is delivered. It names a file of its program, and several files may have the same name. -/
structure Delivery (φ : Type) where
  address : UInt64
  file : Option φ
  line : Int64
  endsSequence : Bool
  deriving Repr

section Collect

variable {φ : Type} (dir : Bytes) (name : φ → Bytes)

def Delivery.named (e : Delivery φ) : LineEntry := ⟨e.address, e.file.map name, e.line, e.endsSequence⟩

variable [DecidableEq φ]

/-- The path of a file: the one that is kept for it, or else made from its name. -/
def pathIn (paths : List (φ × Bytes)) (file : φ) : Bytes := (paths.lookup file).getD (sourcePath dir (name file))

/-- The rows of a unit as they are collected one by one. The path of each file is kept when it is first needed. -/
def collect : List (φ × Bytes) → List (Delivery φ) → List Row
  | _, [] => []
  | paths, e :: rest =>
    match e.file with
    | none => collect paths rest
    | some file =>
      if e.endsSequence ∨ e.line ≤ 0 then collect paths rest
      else
        let path := pathIn dir name paths file
        let paths := if (paths.lookup file).isSome then paths else (file, path) :: paths
        ⟨e.address, path, e.line⟩ :: collect paths rest

/-- What is kept for a file is the path of its name. -/
def PathsKept (paths : List (φ × Bytes)) : Prop :=
  ∀ file path, paths.lookup file = some path → path = sourcePath dir (name file)

variable {dir name}

theorem PathsKept.pathIn_eq {paths : List (φ × Bytes)} (h : PathsKept dir name paths) (file : φ) :
    pathIn dir name paths file = sourcePath dir (name file) := by
  unfold pathIn
  cases hfile : paths.lookup file with
  | none => rfl
  | some path => exact h file path hfile

theorem PathsKept.cons {paths : List (φ × Bytes)} (h : PathsKept dir name paths) (file : φ) :
    PathsKept dir name ((file, pathIn dir name paths file) :: paths) := by
  intro other path hother
  rw [List.lookup_cons] at hother
  by_cases heq : other = file
  · rw [heq, beq_self_eq_true] at hother
    rw [← Option.some.inj hother, heq]
    exact h.pathIn_eq file
  · rw [beq_eq_false_iff_ne.2 heq] at hother
    exact h other path hother

omit [DecidableEq φ] in
theorem rowOf_named (e : Delivery φ) :
    rowOf dir (e.named name) =
      match e.file with
      | none => none
      | some file =>
        if e.endsSequence ∨ e.line ≤ 0 then none else some ⟨e.address, sourcePath dir (name file), e.line⟩ := by
  unfold Delivery.named rowOf
  cases e.file <;> rfl

theorem collect_eq {paths : List (φ × Bytes)} (h : PathsKept dir name paths) (entries : List (Delivery φ)) :
    collect dir name paths entries = (entries.map (Delivery.named name)).filterMap (rowOf dir) := by
  induction entries generalizing paths with
  | nil => rfl
  | cons e rest ih =>
    rw [collect, List.map_cons, List.filterMap_cons, rowOf_named]
    cases e.file with
    | none => exact ih h
    | some file =>
      by_cases hdropped : e.endsSequence = true ∨ e.line ≤ 0
      · simp only [hdropped, if_true]
        exact ih h
      · have hkept : PathsKept dir name
            (if (paths.lookup file).isSome then paths else (file, pathIn dir name paths file) :: paths) := by
          split
          · exact h
          · exact h.cons file
        simp only [hdropped, if_false]
        rw [ih hkept, h.pathIn_eq]

end Collect

/-! ## Tables -/

theorem ofUnits_eq_ok_iff {stream : UnitStream} {t : LineTable} :
    ofUnits stream = .ok t ↔ (stream.complete = true ∧ ∀ u ∈ stream.units, u.Readable) ∧
      t = ⟨((kept stream).map fun e => rowIn e.1 e.2).mergeSort fun a b => a.address ≤ b.address⟩ := by
  unfold ofUnits
  rcases rowsOf_cases stream.units with ⟨hread, hrows⟩ | ⟨hunread, e, herror⟩
  · rw [hrows, flatMap_rows]
    cases stream.complete with
    | true =>
      constructor
      · rintro ⟨⟩
        exact ⟨⟨rfl, hread⟩, rfl⟩
      · rintro ⟨-, rfl⟩
        rfl
    | false => simp [bind, Except.bind]
  · rw [herror]
    simp [bind, Except.bind, hunread]

/-- A table has the rows of the entries that are kept, in ascending order, those of one address in the order of the
units and of their programs. All its paths are clean. A path is made from the name in the entry and the directory of
the unit, and keeping it for the next entry of the file makes no difference. There is no table if the walk over the
units or the program of a unit does not come to its end. -/
theorem rows_of_units :
    (∀ stream, ((∃ t, ofUnits stream = .ok t) ↔ stream.complete = true ∧ ∀ u ∈ stream.units, u.Readable) ∧
      ∀ t, ofUnits stream = .ok t →
        t.rows.Perm ((kept stream).map fun e => rowIn e.1 e.2) ∧
        t.rows.Pairwise (fun a b => a.address ≤ b.address) ∧
        (∀ a, t.rows.filter (fun r => r.address = a) =
          ((kept stream).filter fun e => e.2.address = a).map fun e => rowIn e.1 e.2) ∧
        ∀ r ∈ t.rows, Path.clean r.file = r.file) ∧
    (∀ dir name, sourcePath dir name =
      if Path.isAbsolute name = false ∧ dir ≠ [] then Path.join dir name else Path.clean name) ∧
    (∀ (φ : Type) [DecidableEq φ] (name : φ → Bytes) (entries : List (Delivery φ)) (u : UnitLines),
      u.program = .entries (entries.map (Delivery.named name)) true →
        unitRows u = .ok (collect u.directory name [] entries)) ∧
    ∀ d : Binary.Dwarf.DebugData, d.unitStream = ⟨Binary.Dwarf.compileUnits d d.entries.1, d.entries.2⟩ := by
  refine ⟨fun stream => ⟨?_, fun t htable => ?_⟩, sourcePath_eq, ?_, Binary.Dwarf.unitStream_eq⟩
  · simp only [ofUnits_eq_ok_iff, exists_and_left, exists_eq, and_true]
  · obtain ⟨-, rfl⟩ := ofUnits_eq_ok_iff.1 htable
    have htrans : ∀ a b c : Row, decide (a.address ≤ b.address) → decide (b.address ≤ c.address) →
        decide (a.address ≤ c.address) := by
      intro a b c hab hbc
      rw [decide_eq_true_iff] at *
      exact UInt64.le_trans hab hbc
    have htotal : ∀ a b : Row, decide (a.address ≤ b.address) || decide (b.address ≤ a.address) := by
      intro a b
      simpa using UInt64.le_total a.address b.address
    refine ⟨List.mergeSort_perm _ _, ?_, fun a => ?_, fun r hr => ?_⟩
    · exact (List.pairwise_mergeSort htrans htotal _).imp fun h => of_decide_eq_true h
    · have hclass : ∀ r r' : Row, decide (r.address = a) → decide (r'.address = a) →
          decide (r.address ≤ r'.address) := by
        intro r r' hr hr'
        rw [decide_eq_true_iff] at *
        rw [hr, hr']
        exact UInt64.le_refl a
      rw [filter_mergeSort htrans htotal hclass, List.filter_map]
      rfl
    · rw [List.mem_mergeSort] at hr
      obtain ⟨e, -, rfl⟩ := List.mem_map.1 hr
      exact clean_sourcePath _ _
  · intro φ _ name entries u hprogram
    have hkept : PathsKept u.directory name [] := fun file path h => nomatch h
    rw [collect_eq hkept, unitRows, hprogram]
    rfl

section Example

def mainEntry (line : Int64) (ends : Bool) : LineEntry := ⟨16, some (utf8 "main.c"), line, ends⟩

/-- Two units with a file of the same name, and one without a program between them. -/
def threeUnits : UnitStream :=
  ⟨[⟨utf8 "/a", .entries [mainEntry 3 false, ⟨8, some (utf8 "../y.c"), 1, false⟩, ⟨16, none, 4, false⟩,
      mainEntry 5 true] true⟩, ⟨[], .absent⟩,
    ⟨utf8 "b/", .entries [mainEntry 2 false, ⟨4, some (utf8 "/z.c"), 0, false⟩] true⟩], true⟩

theorem rows_of_units_threeUnits :
    ∃ t, ofUnits threeUnits = .ok t ∧
      t.rows.Perm [⟨16, utf8 "/a/main.c", 3⟩, ⟨8, utf8 "/y.c", 1⟩, ⟨16, utf8 "b/main.c", 2⟩] ∧
      t.rows.filter (fun r => r.address = 16) = [⟨16, utf8 "/a/main.c", 3⟩, ⟨16, utf8 "b/main.c", 2⟩] := by
  obtain ⟨hiff, htable⟩ := rows_of_units.1 threeUnits
  have hreadable : ∀ u ∈ threeUnits.units, u.Readable := by
    simp [threeUnits, Binary.Dwarf.UnitLines.Readable]
  obtain ⟨t, ht⟩ := hiff.2 ⟨rfl, hreadable⟩
  obtain ⟨hperm, -, hsame, -⟩ := htable t ht
  refine ⟨t, ht, ?_, ?_⟩
  · have hkept : ((kept threeUnits).map fun e => rowIn e.1 e.2) =
        [⟨16, utf8 "/a/main.c", 3⟩, ⟨8, utf8 "/y.c", 1⟩, ⟨16, utf8 "b/main.c", 2⟩] := by decide +kernel
    rwa [hkept] at hperm
  · rw [hsame]
    decide +kernel

end Example

end LineTable

end LineCoverage
