import LineCoverage.Proofs.LineTable
import LineCoverage.Proofs.Report.Turns
import LineCoverage.Proofs.Trace.Coverage

/-!
# From trace files to tracefiles

What a report writes for a module, said in terms of the trace files of the selected runs and the line table
of the module's binary.
-/

namespace LineCoverage

namespace Report

theorem extract_of_parses {m : Memory} (hfaults : m.faults = []) {dir : Bytes}
    (hlisted : ∃ files, Trace.list (.memory m) dir = .ok files) (h : Trace.Parses m dir) :
    (Extraction.extract (.memory m) false dir ∅).2 = none := by
  obtain ⟨files, hfiles⟩ := hlisted
  obtain ⟨blocks, hblocks⟩ := Trace.runBlocks_of_parses hfaults hfiles h
  unfold Extraction.extract Extraction.extractIn
  rw [hblocks]
  rfl

open Classical in
/-- An address counts as often as there are runs that cover it. -/
theorem count_runAll {m : Memory} (hfaults : m.faults = []) {dirs : List Bytes}
    (hlisted : ∀ d ∈ dirs, ∃ files, Trace.list (.memory m) d = .ok files) (h : ∀ d ∈ dirs, Trace.Parses m d)
    {module : Bytes} {counts : AddressCount}
    (hcounts : (Extraction.runAll ∅ (requestsOf (.memory m) false dirs))[module]? = some counts) (a : UInt64) :
    AddressCount.count counts a = UInt64.ofNat (dirs.countP (Trace.Covers m module a)) := by
  have hseen := Extraction.seen_runAll (requestsOf (.memory m) false dirs) ∅ module a
  have hcount : (requestsOf (.memory m) false dirs).countP (Extraction.Request.reaches module a) =
      dirs.countP (Trace.Covers m module a) := by
    unfold requestsOf
    rw [List.countP_map]
    apply List.countP_congr
    intro d hd
    obtain ⟨files, hfiles⟩ := hlisted d hd
    rw [Function.comp_apply, Trace.reaches_iff_covers hfaults hfiles (h d hd), decide_eq_true_iff]
  rw [hcount, ModuleCoverage.seen_empty, ModuleCoverage.seen, hcounts] at hseen
  simp only [Option.bind_some, Option.getD_none] at hseen
  unfold AddressCount.count
  rw [Std.ExtTreeMap.getD_eq_getD_getElem?, hseen]
  split
  · rename_i hzero
    rw [hzero]
    rfl
  · simp

/-- The line table that the symbols had for a module in a report, and where they found it. -/
def UsedTable (cfg : Config) (tools : Tools Symbols) (realPath : Bytes → Except Bytes Bytes) (s : Store)
    (symbols : Symbols) (module path : Bytes) (table : LineTable) : Prop :=
  ∃ cov, aggregate s realPath false cfg = .ok cov ∧
    TableAt cfg tools (startOf cfg realPath s symbols) cov.toList module path table

theorem underway_startOf (cfg : Config) (realPath : Bytes → Except Bytes Bytes) {m : Memory} (searchPaths : List Bytes)
    (cacheSize : Int64) (hfaults : m.faults = []) :
    Underway m (startOf cfg realPath (.memory m) (.make searchPaths cacheSize)) :=
  ⟨rfl, ⟨m, rfl, hfaults, .refl m⟩, by simp [startOf], Symbols.faithful_make m searchPaths cacheSize⟩

variable (cfg : Config) (env : List (Bytes × Bytes)) (realPath : Bytes → Except Bytes Bytes) (metrics : Metrics)
  (m : Memory) (searchPaths : List Bytes) (cacheSize : Int64)

theorem error_run_of_listed {dirs : List Bytes} (hfaults : m.faults = []) (hhtml : cfg.html = false)
    (hselect : RunSelection.select (.memory m) realPath cfg.runs = .ok dirs)
    (hparse : ∀ d ∈ dirs, Trace.Parses m d) (hlisted : ∀ d ∈ dirs, ∃ files, Trace.list (.memory m) d = .ok files) :
    (run cfg (Program.tools env cfg) realPath false metrics (.memory m) (.make searchPaths cacheSize)).error = none := by
  have hagg : ∃ cov, aggregate (.memory m) realPath false cfg = .ok cov := by
    rw [aggregate_of_select_ok hselect, addRuns_of_success ∅]
    · exact ⟨_, rfl⟩
    · exact fun d hd => extract_of_parses hfaults (hlisted d hd) (hparse d hd)
  obtain ⟨cov, hcov⟩ := hagg
  obtain ⟨hlast, -, -⟩ := reportModules_underway env (underway_startOf cfg realPath searchPaths cacheSize hfaults)
    hfaults hhtml cov.toList
  rw [(run_of_ok cfg (Program.tools env cfg) realPath metrics (.memory m) (.make searchPaths cacheSize) hcov).2.1]
  exact (reportModules_complete cfg _ _ _ hlast.going).1

open Classical in
/-- The whole way. In a memory store without faults, when all trace files of the selected runs parse and no
pages are rendered, the report fails only if a run cannot be listed; a directory that is there can be, except for the
root. The tracefile of every module that comes out well is the report of its line table, where an address counts as
often as there are selected runs in which an entry of the module has it. The table is the one the symbols had for the
module; it is in a binary of the store as it was at first. -/
theorem tracefile_of_run (dirs : List Bytes) (hfaults : m.faults = []) (hhtml : cfg.html = false)
    (hselect : RunSelection.select (.memory m) realPath cfg.runs = .ok dirs)
    (hparse : ∀ d ∈ dirs, Trace.Parses m d) :
    let o := run cfg (Program.tools env cfg) realPath false metrics (.memory m) (.make searchPaths cacheSize)
    ((∀ d ∈ dirs, ∃ files, Trace.list (.memory m) d = .ok files) → o.error = none) ∧
    (m.Built → (∀ d ∈ dirs, Memory.key d ∈ m.nodes ∧ Memory.key d ≠ Memory.root) → o.error = none) ∧
    ∀ r ∈ o.results, r.isOk = true → ∃ path table,
      UsedTable cfg (Program.tools env cfg) realPath (.memory m) (.make searchPaths cacheSize) r.module path
        table ∧
      Symbols.load (.memory m) path = .ok table ∧
      o.store.fileContent r.infoPath =
        .ok (table.report (fun a => dirs.countP (Trace.Covers m r.module a)) cfg.coveredFilesOnly) := by
  intro o
  have hgoes := error_run_of_listed cfg env realPath metrics m searchPaths cacheSize hfaults hhtml hselect hparse
  refine ⟨hgoes, fun hbuilt hdirs => hgoes fun d hd => ?_, fun r hmem hok => ?_⟩
  · exact Trace.exists_list hfaults hbuilt (hdirs d hd).1 (hdirs d hd).2
  cases hagg : aggregate (.memory m) realPath false cfg with
  | error e =>
    obtain ⟨hr, -, -⟩ := run_of_error cfg (Program.tools env cfg) realPath metrics (.memory m)
      (.make searchPaths cacheSize) hagg
    rw [hr] at hmem
    cases hmem
  | ok cov =>
    obtain ⟨-, -, hresults⟩ := reportModules_underway env (underway_startOf cfg realPath searchPaths cacheSize hfaults)
      hfaults hhtml cov.toList
    obtain ⟨hr, -, hs⟩ := run_of_ok cfg (Program.tools env cfg) realPath metrics (.memory m)
      (.make searchPaths cacheSize) hagg
    rw [hr] at hmem
    have hnone : r.error = none := by simpa [ModuleResult.isOk] using hok
    obtain ⟨counts, path, table, hcounts, htable, hload, hcontent⟩ := hresults r hmem hnone
    have hlisted : ∀ d ∈ dirs, ∃ files, Trace.list (.memory m) d = .ok files := by
      intro d hd
      rw [aggregate_of_select_ok hselect, mapError_eq_ok_iff] at hagg
      obtain ⟨blocks, hblocks⟩ := runBlocks_of_addRuns hagg d hd
      obtain ⟨files, hfiles, -⟩ := Extraction.runBlocks_eq_ok_iff.1 hblocks
      exact ⟨files, hfiles⟩
    refine ⟨path, table, ⟨cov, hagg, htable⟩, hload, ?_⟩
    rw [hs, hcontent]
    rw [Std.ExtTreeMap.mem_toList_iff_getElem?_eq_some, eq_runAll_of_aggregate hselect hagg] at hcounts
    rw [LineTable.textOf_mapLines table (count_runAll hfaults hlisted hparse hcounts)]

/-! ## A report on a small binary -/

section Example

def word (n : UInt8) : Bytes := [n, 0, 0, 0]

def sectionHeader (name kind offset size : UInt8) : Bytes :=
  word name ++ word kind ++ word 0 ++ word 0 ++ word offset ++ word size ++ word 0 ++ word 0 ++ word 1 ++ word 0

def smallBinary : Bytes :=
  [0x7F, 0x45, 0x4C, 0x46, 1, 1, 1] ++ List.replicate 9 0 ++ [2, 0, 3, 0] ++ word 1 ++ word 0 ++ word 0 ++
    word 191 ++ word 0 ++ [52, 0, 0, 0, 0, 0, 40, 0, 5, 0, 4, 0] ++
    -- the abbreviations, the unit and its line program
    [1, 0x11, 0, 3, 8, 0x1B, 8, 0x10, 0x17, 0, 0, 0] ++
    word 19 ++ [4, 0] ++ word 0 ++ [4, 1] ++ utf8 "a.c\x00/s\x00" ++ word 0 ++
    word 51 ++ [4, 0] ++ word 27 ++ [1, 1, 1, 0xFB, 14, 13, 0, 1, 1, 1, 1, 0, 0, 0, 1, 0, 0, 1, 0] ++
    utf8 "a.c\x00" ++ word 0 ++ [0, 5, 2] ++ word 16 ++ [3, 9, 1, 2, 2, 1, 2, 2, 0, 1, 1] ++
    utf8 "\x00.debug_abbrev\x00.debug_info\x00.debug_line\x00.shstrtab\x00" ++
    List.replicate 40 0 ++ sectionHeader 1 1 52 12 ++ sectionHeader 15 1 64 23 ++ sectionHeader 27 1 87 55 ++
    sectionHeader 39 3 142 49

def smallTable : LineTable := ⟨[⟨16, utf8 "/s/a.c", 10⟩, ⟨18, utf8 "/s/a.c", 10⟩]⟩

def smallStore (binary : Bytes) : Memory :=
  (Memory.empty.putFile (utf8 "/a") binary).putFile (utf8 "/r/tbcoverage-.json")
    (utf8 "\x7b\"/a\":[[16,19,3]]\x7d")

def smallConfig : Config := ⟨⟨utf8 "/p", 0, [utf8 "/r", utf8 "/r"]⟩, false, utf8 "/out", false, [], 0, [], []⟩

/-- The parts of a line table that can be computed: whether there is debug information, whether it is
complete, and the rows before they are sorted. -/
def rowsOfBinary (data : Bytes) : Option (Bool × Bool × Option (List Row)) := do
  let f ← Binary.Elf.parse? (Content.toArray data)
  let d ← Binary.Dwarf.DebugData.ofElf? f
  match d.unitStream with
  | ⟨units, complete⟩ =>
    pure ((f.sectionNamed? (utf8 ".debug_info")).isSome && (f.sectionNamed? (utf8 ".debug_line")).isSome,
      complete, (LineTable.rowsOf units).toOption)

theorem faults_smallStore (binary : Bytes) : (smallStore binary).faults = [] := by
  simp [smallStore, Memory.empty]

theorem load_of_rows {m : Memory} {path content : Bytes} {rows : List Row} (hfaults : m.faults = [])
    (hcontent : m.contentAt (Memory.key path) = some content)
    (hdecode : Content.decode path content = .ok (.ok content))
    (hrows : rowsOfBinary content = some (true, true, some rows))
    (hsorted : rows.Pairwise fun a b => a.address ≤ b.address) : Symbols.load (.memory m) path = .ok ⟨rows⟩ := by
  have hsort : (rows.mergeSort fun a b => a.address ≤ b.address) = rows :=
    List.mergeSort_of_pairwise (by simpa using hsorted)
  unfold Symbols.load
  rw [Symbols.read_eq hfaults, hcontent]
  simp only [hdecode, bind, Except.bind, id, Except.mapError]
  unfold rowsOfBinary at hrows
  cases hparse : Binary.Elf.parse? (Content.toArray content) with
  | none => simp [hparse] at hrows
  | some f =>
    simp only [hparse, bind, Option.bind] at hrows
    cases hdata : Binary.Dwarf.DebugData.ofElf? f with
    | none => simp [hdata] at hrows
    | some d =>
      simp only [hdata, pure, Option.some.injEq, Prod.mk.injEq, Bool.and_eq_true] at hrows
      obtain ⟨⟨hinfo, hline⟩, hcomplete, hunits⟩ := hrows
      have hsections : ¬ ((f.sectionNamed? (utf8 ".debug_info")).isNone = true ∨
          (f.sectionNamed? (utf8 ".debug_line")).isNone = true) := by
        simp [Option.isNone_iff_eq_none, Option.isSome_iff_ne_none.1 hinfo, Option.isSome_iff_ne_none.1 hline]
      cases hlist : LineTable.rowsOf d.unitStream.units with
      | error e => simp [hlist, Except.toOption] at hunits
      | ok found =>
        obtain rfl : found = rows := by simpa [hlist, Except.toOption] using hunits
        simp only [LineTable.ofElf, hsections, if_false, hdata, LineTable.ofUnits, hlist, hcomplete, if_true, bind,
          Except.bind, pure, Except.pure, hsort]

theorem load_smallBinary : Symbols.load (.memory (smallStore smallBinary)) (utf8 "/a") = .ok smallTable := by
  have hkeeps := Memory.keeps_putFile (Memory.empty.putFile (utf8 "/a") smallBinary)
    (utf8 "\x7b\"/a\":[[16,19,3]]\x7d")
    (show Memory.key (utf8 "/r/tbcoverage-.json") ≠ Memory.key (utf8 "/a") by decide +kernel)
  rw [Memory.contentAt_putFile] at hkeeps
  exact load_of_rows (faults_smallStore smallBinary) hkeeps.eq_some rfl (by decide +kernel) (by decide)

theorem list_smallStore (binary : Bytes) :
    Trace.list (.memory (smallStore binary)) (utf8 "/r") = .ok [utf8 "/r/tbcoverage-.json"] := by cbv

theorem parses_smallStore (binary : Bytes) : Trace.Parses (smallStore binary) (utf8 "/r") := by
  have hfaults := faults_smallStore binary
  intro path hpath
  obtain rfl := List.mem_singleton.1 ((Trace.mem_list_iff hfaults (list_smallStore binary)).2 hpath)
  rw [← Trace.exists_readFile_iff hfaults]
  have hread : (Trace.readFile (.memory (smallStore binary)) (utf8 "/r/tbcoverage-.json")).isOk = true := by cbv
  cases hfile : Trace.readFile (.memory (smallStore binary)) (utf8 "/r/tbcoverage-.json") with
  | error e =>
    rw [hfile] at hread
    cases hread
  | ok blocks => exact ⟨blocks, rfl⟩

theorem covers_smallStore (binary : Bytes) (a : UInt64) :
    Trace.Covers (smallStore binary) (utf8 "/a") a (utf8 "/r") ↔ RangeSet.InBlock 16 3 a := by
  have hblocks : Trace.blocksIn (.memory (smallStore binary)) (utf8 "/a") (utf8 "/r/tbcoverage-.json") =
      [⟨16, 19, 3⟩] := by cbv
  rw [Trace.covers_iff (faults_smallStore binary) (list_smallStore binary) (parses_smallStore binary)]
  simp [hblocks]

theorem aggregate_smallStore (binary : Bytes) :
    ∃ cov counts, aggregate (.memory (smallStore binary)) .ok false smallConfig = .ok cov ∧
      cov.toList = [(utf8 "/a", counts)] := by
  have hkeys : (aggregate (.memory (smallStore binary)) .ok false smallConfig).map (·.keys) = .ok [utf8 "/a"] := by
    cbv
  cases hcov : aggregate (.memory (smallStore binary)) .ok false smallConfig with
  | error e =>
    rw [hcov] at hkeys
    cases hkeys
  | ok cov =>
    rw [hcov] at hkeys
    have hfirst : cov.toList.map Prod.fst = [utf8 "/a"] := by
      rw [Std.ExtTreeMap.map_fst_toList_eq_keys]
      simpa [Except.map] using hkeys
    obtain ⟨⟨module, counts⟩, hlist, rfl⟩ := List.map_eq_singleton_iff.1 hfirst
    exact ⟨cov, counts, rfl, hlist⟩

theorem locate_smallStore (binary : Bytes) (symbols : Symbols) :
    symbols.locate (.memory (smallStore binary)) (utf8 "/a") = .ok (utf8 "/a") := by
  have hfile : Symbols.isFile (.memory (smallStore binary)) (utf8 "/a") = true := by cbv
  simp [Symbols.locate, Symbols.candidates, hfile]

open Classical in
theorem report_smallTable (binary : Bytes) :
    smallTable.report (fun a =>
        [utf8 "/r", utf8 "/r"].countP (Trace.Covers (smallStore binary) (utf8 "/a") a)) false =
      utf8 "TN:\nSF:/s/a.c\nDA:10,4\nLH:1\nLF:1\nend_of_record\n" := by
  have hweight : ∀ a, [utf8 "/r", utf8 "/r"].countP (Trace.Covers (smallStore binary) (utf8 "/a") a) =
      if RangeSet.InBlock 16 3 a then 2 else 0 := by
    intro a
    by_cases ha : RangeSet.InBlock 16 3 a <;> simp [covers_smallStore, ha]
  simp only [hweight]
  decide +kernel

def smallStart : Progress Symbols := startOf smallConfig .ok (.memory (smallStore smallBinary)) (.make [] 0)

def smallReport : Outcome Symbols :=
  run smallConfig (Program.tools [] smallConfig) .ok false .empty (.memory (smallStore smallBinary)) (.make [] 0)

theorem error_reportModule_small (counts : AddressCount) :
    (reportModule smallConfig (Program.tools [] smallConfig)
      smallStart (utf8 "/a") counts).1.error = none := by
  have hcov : ((Symbols.make [] 0).coverage (.memory (smallStore smallBinary)) false (utf8 "/a") counts false).1 =
      .ok (Symbols.mapLines smallTable counts false) := by
    have htable : ((Symbols.make [] 0).lineTable (.memory (smallStore smallBinary)) (utf8 "/a")).1 =
        .ok smallTable := by
      have hfind : (Symbols.make [] 0).tables.find? (utf8 "/a") = none := rfl
      simp only [Symbols.lineTable, hfind, load_smallBinary]
    simp only [Symbols.coverage, locate_smallStore, htable, Bool.false_eq_true, if_false]
    rfl
  have hwritable : (smallStore smallBinary).readOnly = false := by
    simp [smallStore, Memory.empty]
  rw [reportModule_eq]
  simp only [smallStart, startOf, show smallConfig.coveredFilesOnly = false from rfl, hcov]
  obtain ⟨_, _, ⟨_, hreason, _⟩ | ⟨_, hnone, _⟩⟩ := writeModule_memory smallConfig (Program.tools [] smallConfig)
    (p := mapped smallConfig smallStart (utf8 "/a") counts)
    rfl rfl (faults_smallStore smallBinary) (utf8 "/a") (Symbols.mapLines smallTable counts false)
  · rw [hreason rfl] at hwritable
    cases hwritable
  · exact hnone

theorem result_small : ∃ r ∈ smallReport.results, r.module = utf8 "/a" ∧ r.isOk = true := by
  obtain ⟨cov, counts, hcov, hlist⟩ := aggregate_smallStore smallBinary
  have hturns := (run_of_ok smallConfig (Program.tools [] smallConfig) .ok .empty _ (.make [] 0) hcov).1
  rw [hlist, reportModules_cons smallConfig (Program.tools [] smallConfig) (utf8 "/a") counts [] rfl] at hturns
  refine ⟨(reportModule smallConfig (Program.tools [] smallConfig) smallStart (utf8 "/a") counts).1, ?_, ?_, ?_⟩
  · unfold smallReport
    rw [hturns]
    exact List.mem_cons_self
  · exact (reportModule_keeps smallConfig (Program.tools [] smallConfig) smallStart (utf8 "/a") counts).1
  · simp [ModuleResult.isOk, error_reportModule_small counts]

theorem path_of_usedTable_small {path : Bytes} {table : LineTable}
    (h : UsedTable smallConfig (Program.tools [] smallConfig) .ok (.memory (smallStore smallBinary)) (.make [] 0)
      (utf8 "/a") path table) : path = utf8 "/a" := by
  obtain ⟨cov, counts, hcov, hlist⟩ := aggregate_smallStore smallBinary
  obtain ⟨cov', hcov', before, counts', after, hsplit, hlocate, _⟩ := h
  obtain rfl : cov' = cov := Except.ok.inj (hcov'.symm.trans hcov)
  -- The module is the only one, so it has the first turn.
  obtain rfl : before = [] := by
    rw [hlist] at hsplit
    cases before with
    | nil => rfl
    | cons entry before =>
      have := congrArg List.length hsplit
      simp at this
  exact Except.ok.inj (hlocate.symm.trans (locate_smallStore smallBinary _))

theorem tracefile_of_run_small :
    ∃ r ∈ smallReport.results,
      r.isOk = true ∧
      smallReport.store.fileContent r.infoPath =
          .ok (utf8 "TN:\nSF:/s/a.c\nDA:10,4\nLH:1\nLF:1\nend_of_record\n") := by
  have hselect : RunSelection.select (.memory (smallStore smallBinary)) .ok smallConfig.runs =
      .ok [utf8 "/r", utf8 "/r"] := rfl
  have hparse : ∀ d ∈ [utf8 "/r", utf8 "/r"], Trace.Parses (smallStore smallBinary) d := by
    simpa using parses_smallStore smallBinary
  obtain ⟨_, _, hresults⟩ := tracefile_of_run smallConfig [] .ok .empty (smallStore smallBinary) [] 0 _
    (faults_smallStore smallBinary) rfl hselect hparse
  obtain ⟨r, hmem, hmodule, hok⟩ := result_small
  obtain ⟨path, table, hused, hload, hcontent⟩ := hresults r hmem hok
  rw [hmodule] at hused hcontent
  obtain rfl := path_of_usedTable_small hused
  obtain rfl : table = smallTable := Except.ok.inj (hload.symm.trans load_smallBinary)
  exact ⟨r, hmem, hok, hcontent.trans (congrArg Except.ok (report_smallTable smallBinary))⟩

end Example

end Report

end LineCoverage
