import LineCoverage.Proofs.Report.Run
import LineCoverage.Proofs.Report.Writing
import LineCoverage.Proofs.Tracefile.RoundTrip
import LineCoverage.Report.Summary

/-!
# The tracefiles of a report

Every tracefile that a report has written is there at its end, as it was written for its module, and the totals
of the module's result are those that a summary of the file shows.
-/

namespace LineCoverage

/-! ## Totals -/

namespace Tracefile

def entriesOf (cov : FileLines) : List (Bytes × Int64 × UInt64) :=
  cov.toList.flatMap fun (file, lines) => lines.toList.map fun (line, count) => (file, line, count)

theorem sum_size (cov : FileLines) : (cov.toList.map fun f => f.2.size).sum = (entriesOf cov).length := by
  unfold entriesOf
  simp only [List.length_flatMap, List.length_map, Std.ExtTreeMap.length_toList]

theorem sum_hitLines (cov : FileLines) :
    (cov.toList.map fun f => hitLines f.2).sum = (entriesOf cov).countP fun e => e.2.2 ≠ 0 := by
  have hpositive : ∀ n : UInt64, (decide (0 < n)) = decide (n ≠ 0) := by
    intro n
    rw [decide_eq_decide, UInt64.pos_iff_ne_zero]
  unfold entriesOf hitLines
  rw [List.countP_flatMap]
  congr 1
  apply List.map_congr_left
  intro f _
  rw [Function.comp_apply, List.countP_map, List.countP_eq_length_filter]
  simp only [hpositive]
  rfl

theorem linesFound_fileStats (cov : FileLines) (skipped : List Bytes) :
    (Stats.mk (fileStats cov.toList) skipped).linesFound = (entriesOf cov).length := by
  unfold Stats.linesFound fileStats
  rw [← sum_size, List.sum_eq_foldl, List.foldl_map, List.foldl_map]

theorem linesHit_fileStats (cov : FileLines) (skipped : List Bytes) :
    (Stats.mk (fileStats cov.toList) skipped).linesHit = (entriesOf cov).countP fun e => e.2.2 ≠ 0 := by
  unfold Stats.linesHit fileStats
  rw [← sum_hitLines, List.sum_eq_foldl, List.foldl_map, List.foldl_map]

theorem size_lt_of_entriesOf {cov : FileLines} {n : Nat} (h : (entriesOf cov).length < n) {file : Bytes}
    {lines : LineCount} (hfile : cov[file]? = some lines) : lines.size < n := by
  have hmem : (file, lines) ∈ cov.toList := Std.ExtTreeMap.mem_toList_iff_getElem?_eq_some.2 hfile
  refine Nat.lt_of_le_of_lt ?_ h
  rw [← sum_size]
  exact List.single_le_sum (by simp) _ (List.mem_map_of_mem (f := fun f => f.2.size) hmem)

theorem foldl_records (cov : FileLines) :
    let records := cov.toList.map fun (file, lines) => recordOf file lines
    records.foldl (fun n rec => n + rec.linesFound) 0 = Int64.ofNat (entriesOf cov).length ∧
      records.foldl (fun n rec => n + rec.linesHit) 0 =
        Int64.ofNat ((entriesOf cov).countP fun e => e.2.2 ≠ 0) := by
  simp only [List.foldl_map, recordOf]
  have hfound := Maps.foldl_add_word Int64.ofNat Int64.ofNat_add cov.toList (fun f => f.2.size) 0
  have hhit := Maps.foldl_add_word Int64.ofNat Int64.ofNat_add cov.toList (fun f => hitLines f.2) 0
  rw [Nat.zero_add, sum_size] at hfound
  rw [Nat.zero_add, sum_hitLines] at hhit
  exact ⟨hfound, hhit⟩

end Tracefile

namespace Report

/-! ## One turn -/

/-- A renderer that writes no tracefiles, and leaves those that are there alone. -/
def KeepsTracefiles {σ : Type} (tools : Tools σ) : Prop :=
  ∀ world m canceled info dir, ∃ m', (tools.render world (.memory m) canceled info dir).store = .memory m' ∧
    ∀ path, utf8 ".info" <:+ path → m'.contentAt path = m.contentAt path

/-- Files that have an owner keep it, and their content. -/
def Stay (owners : Owners) (m : Memory) (owners' : Owners) (m' : Memory) : Prop :=
  ∀ path ∈ owners, path ∈ owners' ∧ m'.contentAt path = m.contentAt path

theorem Stay.refl (owners : Owners) (m : Memory) : Stay owners m owners m := fun _ hpath => ⟨hpath, rfl⟩

theorem Stay.trans {owners₁ owners₂ owners₃ : Owners} {m₁ m₂ m₃ : Memory} (h₁₂ : Stay owners₁ m₁ owners₂ m₂)
    (h₂₃ : Stay owners₂ m₂ owners₃ m₃) : Stay owners₁ m₁ owners₃ m₃ := by
  intro path hpath
  obtain ⟨hpath₂, hcontent₂⟩ := h₁₂ path hpath
  obtain ⟨hpath₃, hcontent₃⟩ := h₂₃ path hpath₂
  exact ⟨hpath₃, hcontent₃.trans hcontent₂⟩

def OwnsTracefiles (cfg : Config) (owners : Owners) : Prop := ∀ path ∈ owners, ∃ module, path = infoPath cfg module

/-- The tracefile of a result holds all that is shown of the coverage, as looked up in the store `s`, and the
result has its totals. -/
structure Holds (cfg : Config) (m : Memory) (r : ModuleResult) (s : Store) (cov : FileLines) : Prop where
  path : r.infoPath = infoPath cfg r.module
  complete : (Tracefile.encode s cfg.html cov).2 = none
  content : m.contentAt r.infoPath = some (Tracefile.written (Tracefile.encode s cfg.html cov))
  found : r.linesFound = (Tracefile.encode s cfg.html cov).1.stats.linesFound
  hit : r.linesHit = (Tracefile.encode s cfg.html cov).1.stats.linesHit

section Attempt

variable {cfg : Config} {module : Bytes} {cov : FileLines} {owners owners' : Owners} {m m' : Memory}
  {result : Except OutputError Tracefile.Stats}

theorem Attempt.owns (h : Attempt cfg module cov owners m owners' m' result) (howns : OwnsTracefiles cfg owners) :
    OwnsTracefiles cfg owners' := by
  rcases h.owners_cases with rfl | rfl
  · exact howns
  · intro path hpath
    rcases mem_insert_owners.1 hpath with rfl | hpath
    · exact ⟨module, rfl⟩
    · exact howns path hpath

theorem Attempt.stay (h : Attempt cfg module cov owners m owners' m' result) (howns : OwnsTracefiles cfg owners) :
    Stay owners m owners' m' := by
  intro path hpath
  obtain ⟨z, rfl⟩ := howns path hpath
  refine ⟨?_, ?_⟩
  · rcases h.owners_cases with rfl | rfl
    · exact hpath
    · exact mem_insert_owners.2 (.inr hpath)
  · by_cases hz : infoPath cfg z = infoPath cfg module
    · rw [Std.ExtTreeMap.mem_iff_isSome_getElem?, hz] at hpath
      cases h with
      | taken howner => rfl
      | noDirectory hfree hrefused => simp [hfree] at hpath
      | noFile hfree hmade hrefused => simp [hfree] at hpath
      | broken hfree hmade hcreate hfill => simp [hfree] at hpath
      | saved hfree hmade hcreate hfill => simp [hfree] at hpath
    · exact h.contentAt_other hz

def createdIn (cfg : Config) (module : Bytes) (s : Store) : Except FileError Store := do
  (← s.makeDirs cfg.outputPath).create (infoPath cfg module)

theorem Attempt.holds {stats : Tracefile.Stats} (h : Attempt cfg module cov owners m owners' m' (.ok stats)) :
    infoPath cfg module ∉ owners ∧ infoPath cfg module ∈ owners' ∧
      ∃ s, createdIn cfg module (.memory m) = .ok s ∧
        Holds cfg m' (.saved module (infoPath cfg module) stats) s cov := by
  cases h with
  | @saved m₁ m₂ hfree hmade hcreate hfill =>
    obtain ⟨hcomplete, _, _⟩ := Tracefile.fillError_eq_none_iff.1 hfill
    refine ⟨by simp [Std.ExtTreeMap.mem_iff_isSome_getElem?, hfree], mem_insert_owners.2 (.inl rfl), .memory m₂, ?_,
      rfl, hcomplete, contentAt_saved hcreate hfill _, rfl, rfl⟩
    simp [createdIn, Store.makeDirs, Store.create, hmade, hcreate, Functor.map, Except.map, bind, Except.bind]

end Attempt

section Turns

variable {σ : Type} {cfg : Config} {tools : Tools σ}

theorem renderModule_stay (hkeeps : KeepsTracefiles tools) {p : Progress σ} {m : Memory}
    (hstore : p.store = .memory m) (howns : OwnsTracefiles cfg p.owners) (saved : ModuleResult) :
    (renderModule cfg tools p saved).2.owners = p.owners ∧
      ∃ m', (renderModule cfg tools p saved).2.store = .memory m' ∧ Stay p.owners m p.owners m' := by
  obtain ⟨m', hm', hsame⟩ := hkeeps p.world m p.canceled saved.infoPath (htmlDir cfg saved.module)
  have hstay : Stay p.owners m p.owners m' := by
    intro path hpath
    obtain ⟨z, rfl⟩ := howns path hpath
    exact ⟨hpath, hsame _ (info_suffix_infoPath cfg z)⟩
  unfold renderModule
  rw [hstore]
  split
  · simp only
    split
    · exact ⟨rfl, m', hm', hstay⟩
    · exact ⟨rfl, m', hm', hstay⟩
  · exact ⟨rfl, m, hstore, .refl _ _⟩

theorem holds_renderModule (tools : Tools σ) (p : Progress σ) {saved : ModuleResult} {m : Memory} {s : Store}
    {cov : FileLines} (h : Holds cfg m saved s cov) : Holds cfg m (renderModule cfg tools p saved).1 s cov := by
  unfold renderModule
  simp only
  split
  · split
    · exact ⟨h.path, h.complete, h.content, h.found, h.hit⟩
    · exact ⟨h.path, h.complete, h.content, h.found, h.hit⟩
  · exact h

theorem Holds.stay {owners owners' : Owners} {m m' : Memory} {r : ModuleResult} {s : Store} {cov : FileLines}
    (h : Holds cfg m r s cov) (hstay : Stay owners m owners' m') (howner : r.infoPath ∈ owners) :
    Holds cfg m' r s cov := by
  refine ⟨h.path, h.complete, ?_, h.found, h.hit⟩
  rw [(hstay _ howner).2]
  exact h.content

/-- One turn. What has an owner stays. A module that is written gets a tracefile without owner, which holds the
module's own lines. -/
theorem reportModule_stay (hkeeps : KeepsTracefiles tools) {p : Progress σ} {m : Memory}
    (hstore : p.store = .memory m) (howns : OwnsTracefiles cfg p.owners) (module : Bytes) (counts : AddressCount) :
    let turn := reportModule cfg tools p module counts
    OwnsTracefiles cfg turn.2.owners ∧
      ∃ m', turn.2.store = .memory m' ∧ Stay p.owners m turn.2.owners m' ∧
        (turn.1.isWritten = true → turn.1.infoPath ∉ p.owners ∧ turn.1.infoPath ∈ turn.2.owners ∧
          ∃ s cov, createdIn cfg module p.store = .ok s ∧ answer cfg tools p module counts = .ok cov ∧
            Holds cfg m' turn.1 s cov) := by
  simp only [reportModule_eq_match]
  cases hanswer : answer cfg tools p module counts with
  | error e => exact ⟨howns, m, hstore, .refl _ _, fun h => by cases h⟩
  | ok cov =>
    have hstore' : (asked cfg tools p module counts).store = .memory m := hstore
    obtain ⟨owners', m', result, hattempt⟩ := exists_attempt cfg module cov p.owners m
    obtain ⟨log, hwrite⟩ := writeModule_of_attempt tools hstore' hattempt
    have howns' := hattempt.owns howns
    have hstay := hattempt.stay howns
    simp only [hwrite]
    cases result with
    | error e => exact ⟨howns', m', rfl, hstay, fun h => by cases h⟩
    | ok stats =>
      obtain ⟨hfree, howner, s, hcreated, hholds⟩ := hattempt.holds
      rw [← hstore] at hcreated
      obtain ⟨howners, m'', hm'', hrendered⟩ := renderModule_stay hkeeps
        (show ((asked cfg tools p module counts).behind owners' m' log).store = .memory m' from rfl)
        howns' (.saved module (infoPath cfg module) stats)
      have hlast := holds_renderModule tools ((asked cfg tools p module counts).behind owners' m' log)
        (hholds.stay hrendered howner)
      have hpath := hlast.path
      rw [(renderModule_keeps cfg tools _ _).1] at hpath
      simp only [howners, hpath]
      exact ⟨howns', m'', hm'', hstay.trans hrendered, fun _ => ⟨hfree, howner, s, cov, hcreated, rfl, hlast⟩⟩

/-! ## All turns -/

/-- A module's turn: the store in which its tracefile is filled, and the lines that the resolver gave for it. -/
def TurnOf (cfg : Config) (tools : Tools σ) (p : Progress σ) (modules : List (Bytes × AddressCount))
    (module : Bytes) (s : Store) (cov : FileLines) : Prop :=
  ∃ before counts after, modules = before ++ (module, counts) :: after ∧
    createdIn cfg module (reportModules cfg tools p before).2.2.store = .ok s ∧
    answer cfg tools (reportModules cfg tools p before).2.2 module counts = .ok cov

/-- All turns. The tracefiles that are written are different files, and stay as they were written. -/
theorem reportModules_stay (hkeeps : KeepsTracefiles tools) {p : Progress σ} {m : Memory}
    (hstore : p.store = .memory m) (howns : OwnsTracefiles cfg p.owners) (modules : List (Bytes × AddressCount)) :
    let last := reportModules cfg tools p modules
    ((last.1.filter (·.isWritten)).map (·.infoPath)).Nodup ∧
      ∃ m', last.2.2.store = .memory m' ∧ Stay p.owners m last.2.2.owners m' ∧
        ∀ r ∈ last.1, r.isWritten = true → r.infoPath ∉ p.owners ∧
          ∃ s cov, TurnOf cfg tools p modules r.module s cov ∧ Holds cfg m' r s cov := by
  induction modules generalizing p m with
  | nil => exact ⟨List.nodup_nil, m, hstore, .refl _ _, fun r hr => by cases hr⟩
  | cons entry rest ih =>
    obtain ⟨module, counts⟩ := entry
    cases hp : p.canceled with
    | true =>
      obtain ⟨hnone, hsame⟩ := reportModules_of_canceled cfg tools ((module, counts) :: rest) hp
      simp only [hnone, hsame]
      exact ⟨List.nodup_nil, m, hstore, .refl _ _, fun r hr => by cases hr⟩
    | false =>
      obtain ⟨howns₁, m₁, hm₁, hstay₁, hwritten⟩ := reportModule_stay hkeeps hstore howns module counts
      obtain ⟨hnodup, m', hm', hstay, hresults⟩ := ih
        (show ((reportModule cfg tools p module counts).2.note
          (failureLog (reportModule cfg tools p module counts).1)).store = .memory m₁ from hm₁) howns₁
      simp only [reportModules_cons cfg tools module counts rest hp]
      refine ⟨?_, m', hm', hstay₁.trans hstay, fun r hr hr' => ?_⟩
      · rw [List.filter_cons]
        split
        · rename_i hturn
          rw [List.map_cons, List.nodup_cons]
          refine ⟨fun hmem => ?_, hnodup⟩
          -- The tracefile has an owner by now, and later modules come to files without one.
          obtain ⟨r, hr, hpath⟩ := List.mem_map.1 hmem
          obtain ⟨hr, hwritten'⟩ := List.mem_filter.1 hr
          apply (hresults r hr hwritten').1
          rw [hpath]
          exact (hwritten hturn).2.1
        · exact hnodup
      · rcases List.mem_cons.1 hr with rfl | hr
        · obtain ⟨hfree, howner, s, cov, hcreated, hanswer, hholds⟩ := hwritten hr'
          refine ⟨hfree, s, cov, ?_, hholds.stay hstay howner⟩
          rw [(reportModule_keeps cfg tools p module counts).1]
          exact ⟨[], counts, rest, rfl, hcreated, hanswer⟩
        · obtain ⟨hfree, s, cov, ⟨before, counts', after, hsplit, hcreated, hanswer⟩, hholds⟩ := hresults r hr hr'
          refine ⟨fun howner => hfree (hstay₁ _ howner).1, s, cov,
            ⟨(module, counts) :: before, counts', after, by rw [hsplit]; rfl, ?_⟩, hholds⟩
          rw [reportModules_cons cfg tools module counts before hp]
          exact ⟨hcreated, hanswer⟩

end Turns

/-! ## The report -/

def summaryTable (records : List RecordLine) (hit found : Int64) : Table :=
  { header := [utf8 "Source file", utf8 "Lines hit", utf8 "Lines found", utf8 "%"]
    rows := records.map fun r => r.sourceFile :: countCells r.linesHit r.linesFound
    footer := (Decimal.ofNat records.length ++ utf8 " files") :: countCells hit found }

structure Totals (r : ModuleResult) (cov : FileLines) : Prop where
  found : r.linesFound = (Tracefile.entriesOf cov).length
  hit : r.linesHit = (Tracefile.entriesOf cov).countP fun e => e.2.2 ≠ 0
  summary : (∀ file ∈ cov, newline ∉ file ∧ ¬ Space.EndsInSpace file ∧ file.length < 2 ^ 20 - 3) →
    (Tracefile.entriesOf cov).length < 2 ^ 63 →
    ∃ records, Tracefile.parse (Tracefile.textOf cov) = .ok records ∧
      records.foldl (fun n rec => n + rec.linesFound) 0 = Int64.ofNat r.linesFound ∧
      records.foldl (fun n rec => n + rec.linesHit) 0 = Int64.ofNat r.linesHit ∧
      recordsText (records.map .ofRecord) =
        (summaryTable (records.map .ofRecord) (Int64.ofNat r.linesHit) (Int64.ofNat r.linesFound)).render

theorem Holds.totals {cfg : Config} {m : Memory} {r : ModuleResult} {s : Store} {cov : FileLines}
    (h : Holds cfg m r s cov) : Totals r (Tracefile.shown s cfg.html cov) := by
  obtain ⟨_, hstats⟩ := Tracefile.encode_of_success h.complete
  have hfound : r.linesFound = _ := h.found
  have hhit : r.linesHit = _ := h.hit
  rw [hstats, Tracefile.linesFound_fileStats] at hfound
  rw [hstats, Tracefile.linesHit_fileStats] at hhit
  refine ⟨hfound, hhit, fun hfiles hsize => ?_⟩
  have hparse := @Tracefile.parse_textOf (Tracefile.shown s cfg.html cov)
    (fun file lines hfile => Tracefile.size_lt_of_entriesOf hsize hfile)
    fun file hfile => ⟨(hfiles file hfile).1, (hfiles file hfile).2.1, (hfiles file hfile).2.2⟩
  obtain ⟨hfounds, hhits⟩ := Tracefile.foldl_records (Tracefile.shown s cfg.html cov)
  rw [← hfound] at hfounds
  rw [← hhit] at hhits
  refine ⟨_, hparse, hfounds, hhits, ?_⟩
  unfold recordsText summaryTable
  simp only [List.foldl_map, RecordLine.ofRecord] at hfounds hhits ⊢
  rw [hfounds, hhits]

/-- No tracefile of a report is written over, and the results have the totals of the tracefiles. In a memory store
whose renderer keeps tracefiles, those that are written are different files. At the end each of them holds what
was encoded of the lines that the resolver gave for its module: of all files, or, when pages are rendered, of
those that were there when it was written. The result counts the entries and those that are not zero, and that
is what a summary of the tracefile shows. -/
theorem tracefiles_stay {σ : Type} (cfg : Config) (tools : Tools σ) (hkeeps : KeepsTracefiles tools)
    (realPath : Bytes → Except Bytes Bytes) (metrics : Metrics) (m : Memory) (world : σ) :
    let o := run cfg tools realPath false metrics (.memory m) world
    ((o.results.filter (·.isWritten)).map (·.infoPath)).Nodup ∧
      ∃ m', o.store = .memory m' ∧
        ∀ r ∈ o.results, r.isWritten = true → r.infoPath = infoPath cfg r.module ∧
          ∃ modules s cov, aggregate (.memory m) realPath false cfg = .ok modules ∧
            TurnOf cfg tools (startOf cfg realPath (.memory m) world) modules.toList r.module s cov ∧
            m'.contentAt (Memory.key r.infoPath) =
              some (Tracefile.written (Tracefile.encode s cfg.html cov)) ∧
            Tracefile.written (Tracefile.encode s cfg.html cov) =
              Tracefile.textOf (Tracefile.shown s cfg.html cov) ∧
            Totals r (Tracefile.shown s cfg.html cov) := by
  cases hagg : aggregate (.memory m) realPath false cfg with
  | error e =>
    obtain ⟨hresults, _, hstore⟩ := run_of_error cfg tools realPath metrics (.memory m) world hagg
    simp only [hresults, hstore]
    exact ⟨List.nodup_nil, m, rfl, fun r hr => by cases hr⟩
  | ok modules =>
    obtain ⟨hresults, _, hstore⟩ := run_of_ok cfg tools realPath metrics (.memory m) world hagg
    have hnone : OwnsTracefiles cfg (startOf cfg realPath (.memory m) world).owners := by
      simp [OwnsTracefiles, startOf]
    obtain ⟨hnodup, m', hm', _, hwritten⟩ :=
      reportModules_stay hkeeps (show (startOf cfg realPath (.memory m) world).store = .memory m from rfl) hnone
        modules.toList
    simp only [hresults, hstore]
    refine ⟨hnodup, m', hm', fun r hr hr' => ?_⟩
    obtain ⟨_, s, cov, hturn, hholds⟩ := hwritten r hr hr'
    refine ⟨hholds.path, modules, s, cov, rfl, hturn, ?_, (Tracefile.encode_of_success hholds.complete).1,
      hholds.totals⟩
    rw [hholds.path, key_infoPath, ← hholds.path]
    exact hholds.content

def sameBase : Memory :=
  (Memory.empty.putFile (utf8 "/run/tbcoverage-0.json")
    (utf8 "\x7b\"/x/a\":[],\"/y/a\":[]\x7d")).putFile (utf8 "/a.c") []

def sameBaseConfig : Config := ⟨⟨utf8 "/p", 0, [utf8 "/run"]⟩, true, utf8 "/out", false, [], 0, [], []⟩

/-- A resolver that knows two lines of a file that is there and one of a file that is not, and a renderer that
fails. -/
def pagesTools : Tools Unit :=
  { resolve := fun _ _ _ _ _ =>
      ⟨.ok (((∅ : FileLines).insert (utf8 "/a.c") (((∅ : LineCount).insert 1 3).insert 2 0)).insert (utf8 "/b.c")
        ((∅ : LineCount).insert 7 1)), false, [], ()⟩
    render := fun _ s _ _ _ => ⟨some (.failed []), [], s, ()⟩ }

theorem sameBase_results :
    (run sameBaseConfig pagesTools .ok false .empty (.memory sameBase) ()).results.map
        (fun r => (r.module, r.stage, r.linesFound, r.linesHit)) =
      [(utf8 "/x/a", .rendering, 2, 1), (utf8 "/y/a", .writing, 0, 0)] := by cbv

theorem tracefiles_stay_sameBase :
    KeepsTracefiles pagesTools ∧
      ∃ m' r s cov, (run sameBaseConfig pagesTools .ok false .empty (.memory sameBase) ()).store = .memory m' ∧
        (run sameBaseConfig pagesTools .ok false .empty (.memory sameBase) ()).results.filter (·.isWritten) = [r] ∧
        r.module = utf8 "/x/a" ∧
        m'.contentAt (Memory.key r.infoPath) = some (Tracefile.textOf (Tracefile.shown s true cov)) ∧
        (Tracefile.entriesOf (Tracefile.shown s true cov)).length = 2 ∧
        (Tracefile.entriesOf (Tracefile.shown s true cov)).countP (fun e => e.2.2 ≠ 0) = 1 := by
  have hkeeps : KeepsTracefiles pagesTools := fun _ m _ _ _ => ⟨m, rfl, fun _ _ => rfl⟩
  have hresults := sameBase_results
  obtain ⟨_, m', hstore, hwritten⟩ := tracefiles_stay sameBaseConfig pagesTools hkeeps .ok .empty sameBase ()
  match hlist : (run sameBaseConfig pagesTools .ok false .empty (.memory sameBase) ()).results with
  | [] | [_] | _ :: _ :: _ :: _ => simp [hlist] at hresults
  | [first, second] =>
    simp only [hlist, List.map_cons, List.map_nil, List.cons.injEq, Prod.mk.injEq, and_true] at hresults
    obtain ⟨⟨hmodule, hstage, hfound, hhit⟩, _, hstage', _⟩ := hresults
    have hfirst : first.isWritten = true := by simp [ModuleResult.isWritten, hstage]
    have hsecond : second.isWritten = false := by simp [ModuleResult.isWritten, hstage']
    obtain ⟨_, _, s, cov, _, _, hcontent, htext, htotals⟩ := hwritten first (by simp [hlist]) hfirst
    refine ⟨hkeeps, m', first, s, cov, hstore, by simp [hfirst, hsecond], hmodule, ?_, ?_, ?_⟩
    · rw [hcontent, htext]
      rfl
    · exact htotals.found.symm.trans hfound
    · exact htotals.hit.symm.trans hhit

end Report

end LineCoverage
