import LineCoverage.Proofs.Extraction
import LineCoverage.Proofs.RunSelection
import LineCoverage.Proofs.Symbols
import LineCoverage.Proofs.Trace.Aggregation
import LineCoverage.Proofs.Trace.Listing

/-!
# What a run covers

The trace files of a run are the files that the names in its directory lead to, if they are named like one. A run covers
an address if an entry in one of them has it. All of this is said of the nodes of a store; listing and parsing find it
out.
-/

namespace LineCoverage

namespace Trace

/-- A file that the directory of a run leads to, with the name of a trace file. -/
def IsTraceFile (m : Memory) (dir path : Bytes) : Prop :=
  m.Leads dir path ∧ m.IsFile (Memory.key path) ∧ IsTraceName (Path.base (Path.clean path))

/-- The node at a path holds a document, as it is or compressed, with these entries for its modules. -/
def HasEntries (m : Memory) (path : Bytes) (raw : RawModules) : Prop :=
  ∃ stored text, m.contentAt (Memory.key path) = some stored ∧ Content.StandsFor .standard stored text ∧
    readRaw text = some raw

/-- Each entry has a start, an end and a size. -/
def AreBlocks (raw : RawModules) : Prop :=
  ∀ (module : Bytes) (entries : List (List UInt64)), raw[module]? = some entries →
    ∀ fields ∈ entries, fields.length = 3

/-- All trace files of the run parse. -/
def Parses (m : Memory) (dir : Bytes) : Prop := ∀ path, IsTraceFile m dir path → ∃ raw, HasEntries m path raw ∧ AreBlocks raw

/-- An entry of the module, in some trace file of the run, has the address. -/
def Covers (m : Memory) (module : Bytes) (a : UInt64) (dir : Bytes) : Prop :=
  ∃ path raw, IsTraceFile m dir path ∧ HasEntries m path raw ∧
    ∃ start stop size, [start, stop, size] ∈ raw.getD module [] ∧ RangeSet.InBlock start size a

/-- Where the names of a directory lead to what they are names of, the trace files of its run are at and below it. -/
theorem isTraceFile_iff_below {m : Memory} (hbuilt : m.Built) {dir path : Bytes} (hdir : m.Straight dir) :
    IsTraceFile m dir path ↔ m.IsFile path ∧ (path = dir ∨ m.Below dir path) ∧ IsTraceName (Path.base path) := by
  unfold IsTraceFile
  rw [hdir.leads_iff hbuilt.isTree hbuilt.shownInDirectories, and_left_comm]
  have hkey : path = dir ∨ m.Below dir path → Memory.key path = path := by
    rintro (rfl | hbelow)
    · exact hdir.key
    · exact (hdir.of_below hbuilt.isTree hbelow).1.key
  constructor
  · rintro ⟨hfile, hpath, hname⟩
    rw [hkey hpath] at hfile
    rw [Memory.clean_of_key (hkey hpath)] at hname
    exact ⟨hfile, hpath, hname⟩
  · rintro ⟨hfile, hpath, hname⟩
    rw [hkey hpath, Memory.clean_of_key (hkey hpath)]
    exact ⟨hfile, hpath, hname⟩

section Memory

variable {m : Memory} (hfaults : m.faults = []) {dir path module : Bytes}
include hfaults

theorem mem_list_iff {files : List Bytes} (h : list (.memory m) dir = .ok files) :
    path ∈ files ↔ IsTraceFile m dir path := by
  obtain ⟨found, hfound, rfl⟩ := list_eq_ok_iff.1 h
  rw [List.mem_mergeSort, List.mem_filter, Memory.mem_visit_iff hfaults hfound, isFilePath_iff, IsTraceFile]
  tauto

/-- Only the root may fail to be listed, though it is there. -/
theorem exists_list (hbuilt : m.Built) (hthere : Memory.key dir ∈ m.nodes) (hroot : Memory.key dir ≠ Memory.root) :
    ∃ files, list (.memory m) dir = .ok files := by
  obtain ⟨found, hfound⟩ := Memory.exists_visit hbuilt.isTree hfaults hroot hthere (m.longestPath + 2) (by omega)
  exact ⟨_, list_of_filesBelow hfound⟩

/-! ## One file -/

theorem hasEntries_iff {raw : RawModules} :
    HasEntries m path raw ↔ ∃ text, Content.read (.memory m) path = .ok text ∧ readRaw text = some raw := by
  unfold HasEntries Content.read
  simp only [Content.readWith_eq_ok_iff, Memory.fileContent_eq_ok_iff hfaults]
  constructor
  · rintro ⟨stored, text, hstored, hstands, hraw⟩
    exact ⟨text, ⟨stored, hstored, hstands⟩, hraw⟩
  · rintro ⟨text, ⟨stored, hstored, hstands⟩, hraw⟩
    exact ⟨stored, text, hstored, hstands, hraw⟩

theorem HasEntries.unique {raw raw' : RawModules} (h : HasEntries m path raw) (h' : HasEntries m path raw') :
    raw = raw' := by
  obtain ⟨text, htext, hraw⟩ := (hasEntries_iff hfaults).1 h
  obtain ⟨text', htext', hraw'⟩ := (hasEntries_iff hfaults).1 h'
  cases htext.symm.trans htext'
  exact Option.some.inj (hraw.symm.trans hraw')

theorem readFile_eq_ok_iff {blocks : BlockMap} :
    readFile (.memory m) path = .ok blocks ↔
      ∃ raw, HasEntries m path raw ∧ ∀ module : Bytes, raw[module]? = blocks[module]?.map (List.map entryOf) := by
  simp only [hasEntries_iff hfaults]
  unfold readFile
  cases Content.read (.memory m) path with
  | error e => simp [Except.mapError, bind, Except.bind]
  | ok text =>
    change (parseIn .byName text).mapError _ = _ ↔ _
    rw [mapError_eq_ok_iff, parseIn_eq_ok_iff]
    simp

theorem exists_readFile_iff :
    (∃ blocks, readFile (.memory m) path = .ok blocks) ↔ ∃ raw, HasEntries m path raw ∧ AreBlocks raw := by
  simp only [readFile_eq_ok_iff hfaults]
  constructor
  · rintro ⟨blocks, raw, hraw, hall⟩
    refine ⟨raw, hraw, fun module entries hentries fields hfields => ?_⟩
    rw [hall, Option.map_eq_some_iff] at hentries
    obtain ⟨bs, -, rfl⟩ := hentries
    obtain ⟨b, -, rfl⟩ := List.mem_map.1 hfields
    rfl
  · rintro ⟨raw, hraw, hblocks⟩
    choose! read hread using fun (entries : List (List UInt64)) => @exists_blocks entries
    refine ⟨raw.map fun _ entries => read entries, raw, hraw, fun module => ?_⟩
    rw [Std.ExtTreeMap.getElem?_map, Option.map_map]
    cases hentries : raw[module]? with
    | none => rfl
    | some entries => exact congrArg some (hread entries (hblocks module entries hentries)).symm

theorem mem_blocksIn_iff {b : Block} {raw : RawModules} (hraw : HasEntries m path raw) (hblocks : AreBlocks raw) :
    b ∈ blocksIn (.memory m) module path ↔ entryOf b ∈ raw.getD module [] := by
  obtain ⟨blocks, hread⟩ := (exists_readFile_iff hfaults).2 ⟨raw, hraw, hblocks⟩
  obtain ⟨raw', hraw', hall⟩ := (readFile_eq_ok_iff hfaults).1 hread
  obtain rfl := hraw.unique hfaults hraw'
  unfold blocksIn
  simp only [hread, Std.ExtTreeMap.getD_eq_getD_getElem?, hall]
  cases blocks[module]? with
  | none => simp
  | some bs => simp [List.mem_map, entryOf_injective.eq_iff]

/-! ## All files -/

section Run

variable {files : List Bytes} (hfiles : list (.memory m) dir = .ok files) (h : Parses m dir)
include hfiles h

theorem aggregate_of_parses : ∃ blocks, aggregate (.memory m) files = .ok blocks :=
  exists_aggregateFrom_iff.2 fun path hpath =>
    (exists_readFile_iff hfaults).2 (h path ((mem_list_iff hfaults hfiles).1 hpath))

theorem runBlocks_of_parses : ∃ blocks, Extraction.runBlocks (.memory m) dir = .ok blocks := by
  obtain ⟨blocks, hblocks⟩ := aggregate_of_parses hfaults hfiles h
  exact ⟨blocks, Extraction.runBlocks_eq_ok_iff.2 ⟨files, hfiles, hblocks⟩⟩

theorem covers_iff (module : Bytes) (a : UInt64) :
    Covers m module a dir ↔
      ∃ path ∈ files, ∃ b ∈ blocksIn (.memory m) module path, RangeSet.InBlock b.start b.size a := by
  have hmem := fun path => @mem_list_iff m hfaults dir path files hfiles
  constructor
  · rintro ⟨path, raw, hfile, hraw, start, stop, size, hentry, ha⟩
    obtain ⟨raw', hraw', hall⟩ := h path hfile
    obtain rfl := hraw.unique hfaults hraw'
    exact ⟨path, (hmem path).2 hfile, ⟨start, stop, size⟩, (mem_blocksIn_iff hfaults hraw hall).2 hentry, ha⟩
  · rintro ⟨path, hpath, b, hb, ha⟩
    obtain ⟨raw, hraw, hall⟩ := h path ((hmem path).1 hpath)
    exact ⟨path, raw, (hmem path).1 hpath, hraw, b.start, b.stop, b.size,
      (mem_blocksIn_iff hfaults hraw hall).1 hb, ha⟩

theorem reaches_iff_covers (order : Extraction.VisitOrder) (module : Bytes) (a : UInt64) :
    Extraction.Request.reaches module a ⟨.memory m, dir, false, order⟩ = true ↔ Covers m module a dir := by
  obtain ⟨blocks, hblocks⟩ := aggregate_of_parses hfaults hfiles h
  have hwhole : Extraction.Request.blocks? ⟨.memory m, dir, false, order⟩ = some blocks := by
    simp [Extraction.Request.blocks?, hfiles, hblocks, Except.toOption]
  unfold Extraction.Request.reaches
  simp only [hwhole, decide_eq_true_eq, covers_iff hfaults hfiles h]
  unfold Reached
  simp only [getD_aggregate hblocks, List.mem_flatMap]
  constructor
  · rintro ⟨b, ⟨path, hpath, hb⟩, ha⟩
    exact ⟨path, hpath, b, hb, ha⟩
  · rintro ⟨path, hpath, b, hb, ha⟩
    exact ⟨b, ⟨path, hpath, hb⟩, ha⟩

end Run

end Memory

end Trace

end LineCoverage
