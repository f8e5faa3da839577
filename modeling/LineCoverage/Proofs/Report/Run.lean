import LineCoverage.Proofs.Extraction
import LineCoverage.Proofs.Maps
import LineCoverage.Proofs.Report.Results

/-!
# Reports as a whole

A report either stops at the runs it cannot read, and then changes nothing, or has one consistent
result for every module.
-/

namespace LineCoverage

namespace Report

/-! ## Adding up runs -/

def requestsOf (s : Store) (canceled : Bool) (dirs : List Bytes) : List Extraction.Request :=
  dirs.map fun dir => ⟨s, dir, canceled, .byName⟩

theorem error_extract (s : Store) (canceled : Bool) (dir : Bytes) (cov : ModuleCoverage) :
    (Extraction.extract s canceled dir cov).2 = (Extraction.extract s canceled dir ∅).2 := by
  unfold Extraction.extract Extraction.extractIn
  split
  · rfl
  · split <;> rfl

theorem addRuns_cons_of_success {s : Store} {canceled : Bool} {dir : Bytes}
    (h : (Extraction.extract s canceled dir ∅).2 = none) (cov : ModuleCoverage) (rest : List Bytes) :
    addRuns s canceled cov (dir :: rest) = addRuns s canceled (Extraction.extract s canceled dir cov).1 rest := by
  rw [← error_extract s canceled dir cov] at h
  rw [addRuns]
  rcases hrun : Extraction.extract s canceled dir cov with ⟨cov', failure⟩
  rw [hrun] at h
  obtain rfl : failure = none := h
  rfl

theorem addRuns_of_success {s : Store} {canceled : Bool} {dirs : List Bytes} (cov : ModuleCoverage)
    (h : ∀ d ∈ dirs, (Extraction.extract s canceled d ∅).2 = none) :
    addRuns s canceled cov dirs = .ok (Extraction.runAll cov (requestsOf s canceled dirs)) := by
  induction dirs generalizing cov with
  | nil => rfl
  | cons dir rest ih =>
    rw [addRuns_cons_of_success (h dir List.mem_cons_self)]
    exact ih (Extraction.extract s canceled dir cov).1 fun d hd => h d (List.mem_cons_of_mem _ hd)

/-- The first run that cannot be read is the one that the error is about. -/
theorem addRuns_of_failure {s : Store} {canceled : Bool} {before after : List Bytes} {dir : Bytes}
    {e : ExtractError} (cov : ModuleCoverage)
    (hbefore : ∀ d ∈ before, (Extraction.extract s canceled d ∅).2 = none)
    (hdir : (Extraction.extract s canceled dir ∅).2 = some e) :
    addRuns s canceled cov (before ++ dir :: after) = .error e := by
  induction before generalizing cov with
  | nil =>
    rw [← error_extract s canceled dir cov] at hdir
    rw [List.nil_append, addRuns]
    rcases hrun : Extraction.extract s canceled dir cov with ⟨cov', failure⟩
    rw [hrun] at hdir
    obtain rfl : failure = some e := hdir
    rfl
  | cons d rest ih =>
    rw [List.cons_append, addRuns_cons_of_success (hbefore d List.mem_cons_self)]
    exact ih _ fun d' hd' => hbefore d' (List.mem_cons_of_mem _ hd')

theorem eq_runAll_of_addRuns {s : Store} {canceled : Bool} {dirs : List Bytes} {cov cov' : ModuleCoverage}
    (h : addRuns s canceled cov dirs = .ok cov') : cov' = Extraction.runAll cov (requestsOf s canceled dirs) := by
  induction dirs generalizing cov with
  | nil =>
    cases h
    rfl
  | cons dir rest ih =>
    cases hdir : (Extraction.extract s canceled dir ∅).2 with
    | none =>
      rw [addRuns_cons_of_success hdir] at h
      exact ih h
    | some e =>
      have hfail := @addRuns_of_failure s canceled [] rest dir e cov (by simp) hdir
      rw [List.nil_append, h] at hfail
      cases hfail

theorem addRuns_cons_ok {s : Store} {dir : Bytes} {rest : List Bytes} {cov cov' : ModuleCoverage}
    (h : addRuns s false cov (dir :: rest) = .ok cov') :
    ∃ blocks, Extraction.runBlocks s dir = .ok blocks ∧
      addRuns s false (Extraction.addRun .byName cov blocks) rest = .ok cov' := by
  rw [addRuns] at h
  unfold Extraction.extract Extraction.extractIn at h
  cases hblocks : Extraction.runBlocks s dir with
  | error e =>
    rw [hblocks] at h
    cases h
  | ok blocks =>
    rw [hblocks] at h
    exact ⟨blocks, rfl, h⟩

theorem runBlocks_of_addRuns {s : Store} {dirs : List Bytes} {cov cov' : ModuleCoverage}
    (h : addRuns s false cov dirs = .ok cov') : ∀ d ∈ dirs, ∃ blocks, Extraction.runBlocks s d = .ok blocks := by
  induction dirs generalizing cov with
  | nil => simp
  | cons dir rest ih =>
    obtain ⟨blocks, hblocks, hrest⟩ := addRuns_cons_ok h
    exact List.forall_mem_cons.2 ⟨⟨blocks, hblocks⟩, ih hrest⟩

theorem aggregate_of_select_error {s : Store} {realPath : Bytes → Except Bytes Bytes} {cfg : Config}
    {canceled : Bool} {e : SelectError} (h : RunSelection.select s realPath cfg.runs = .error e) :
    aggregate s realPath canceled cfg = .error (.select e) := by
  unfold aggregate
  rw [h]
  rfl

theorem aggregate_of_select_ok {s : Store} {realPath : Bytes → Except Bytes Bytes} {cfg : Config}
    {canceled : Bool} {dirs : List Bytes} (h : RunSelection.select s realPath cfg.runs = .ok dirs) :
    aggregate s realPath canceled cfg = (addRuns s canceled ∅ dirs).mapError .extract := by
  unfold aggregate
  rw [h]
  rfl

theorem eq_runAll_of_aggregate {s : Store} {realPath : Bytes → Except Bytes Bytes} {cfg : Config}
    {canceled : Bool} {dirs : List Bytes} {cov : ModuleCoverage}
    (hselect : RunSelection.select s realPath cfg.runs = .ok dirs)
    (h : aggregate s realPath canceled cfg = .ok cov) :
    cov = Extraction.runAll ∅ (requestsOf s canceled dirs) := by
  rw [aggregate_of_select_ok hselect] at h
  cases hruns : addRuns s canceled ∅ dirs with
  | error e =>
    rw [hruns] at h
    cases h
  | ok cov' =>
    rw [hruns] at h
    cases h
    exact eq_runAll_of_addRuns hruns

/-! ## The modules -/

variable {σ : Type} (cfg : Config) (tools : Tools σ)

theorem reportModules_cons {p : Progress σ} (module : Bytes) (counts : AddressCount)
    (rest : List (Bytes × AddressCount)) (h : p.canceled = false) :
    let turn := reportModule cfg tools p module counts
    let later := reportModules cfg tools (turn.2.note (failureLog turn.1)) rest
    reportModules cfg tools p ((module, counts) :: rest) = (turn.1 :: later.1, later.2) := by
  simp only
  rw [reportModules, if_neg (by simp [h])]

theorem reportModules_of_canceled {p : Progress σ} (modules : List (Bytes × AddressCount))
    (h : p.canceled = true) :
    (reportModules cfg tools p modules).1 = [] ∧ (reportModules cfg tools p modules).2.2 = p := by
  cases modules with
  | nil => exact ⟨rfl, rfl⟩
  | cons entry rest =>
    obtain ⟨module, counts⟩ := entry
    rw [reportModules, if_pos h]
    exact ⟨rfl, rfl⟩

theorem consistent_reportModules (p : Progress σ) (modules : List (Bytes × AddressCount)) :
    ∀ r ∈ (reportModules cfg tools p modules).1, r.Consistent cfg.html := by
  induction modules generalizing p with
  | nil =>
    intro r hr
    cases hr
  | cons entry rest ih =>
    obtain ⟨module, counts⟩ := entry
    cases hp : p.canceled with
    | true =>
      rw [(reportModules_of_canceled cfg tools _ hp).1]
      intro r hr
      cases hr
    | false =>
      rw [reportModules_cons cfg tools module counts rest hp]
      intro r hr
      rcases List.mem_cons.1 hr with rfl | hr
      · exact consistent_reportModule cfg tools p module counts
      · exact ih _ r hr

theorem reportModules_complete (p : Progress σ) (modules : List (Bytes × AddressCount))
    (h : (reportModules cfg tools p modules).2.2.canceled = false) :
    (reportModules cfg tools p modules).2.1 = none ∧
      (reportModules cfg tools p modules).1.map (·.module) = modules.map Prod.fst := by
  induction modules generalizing p with
  | nil => exact ⟨rfl, rfl⟩
  | cons entry rest ih =>
    obtain ⟨module, counts⟩ := entry
    cases hp : p.canceled with
    | true =>
      rw [(reportModules_of_canceled cfg tools _ hp).2, hp] at h
      cases h
    | false =>
      rw [reportModules_cons cfg tools module counts rest hp] at h ⊢
      obtain ⟨herror, hmodules⟩ := ih _ h
      refine ⟨herror, ?_⟩
      rw [List.map_cons, List.map_cons, hmodules, (reportModule_keeps cfg tools p module counts).1]

/-! ## Counting results -/

theorem modules_countResult (html : Bool) (m : Metrics) (r : ModuleResult) :
    (countResult html m r).modules = m.modules.bump r.status 1 := by
  unfold countResult
  simp only
  split <;> split <;> (try split) <;> rfl

theorem modules_countAggregate (s : Store) (realPath : Bytes → Except Bytes Bytes) (canceled : Bool)
    (m : Metrics) : (countAggregate s realPath canceled cfg m).modules = m.modules := by
  unfold countAggregate
  simp only
  split
  · rfl
  · split <;> rfl

theorem getD_bump (c : LabelCount) (label : String) (n : Nat) (k : Bytes) :
    (c.bump label n).getD k 0 = c.getD k 0 + if utf8 label = k then n else 0 := by
  unfold LabelCount.bump
  rw [Std.ExtTreeMap.getD_eq_getD_getElem?, Std.ExtTreeMap.getD_eq_getD_getElem?, Maps.getElem?_alter_eq]
  split <;> simp

theorem getD_countResults (html : Bool) (results : List ModuleResult) (m : Metrics) (k : Bytes) :
    (results.foldl (countResult html) m).modules.getD k 0 =
      m.modules.getD k 0 + results.countP fun r => utf8 r.status = k := by
  induction results generalizing m with
  | nil => simp
  | cons r rest ih =>
    rw [List.foldl_cons, ih, modules_countResult, getD_bump, List.countP_cons]
    simp only [decide_eq_true_eq]
    omega

/-! ## The report -/

def startOf (cfg : Config) (realPath : Bytes → Except Bytes Bytes) (s : Store) (world : σ) : Progress σ :=
  ⟨s, world, false, ∅, (aggregateLog s realPath false cfg).map .log⟩

/-- Nothing cancels the report, from its beginning to its end. -/
def NeverCanceled (cfg : Config) (tools : Tools σ) (realPath : Bytes → Except Bytes Bytes) (s : Store)
    (world : σ) : Prop :=
  ∀ cov, aggregate s realPath false cfg = .ok cov →
    (reportModules cfg tools (startOf cfg realPath s world) cov.toList).2.2.canceled = false

theorem canceled_reportModules {p : Progress σ} (hp : p.canceled = false)
    (h : ∀ world s module counts, (tools.resolve world s module counts cfg.coveredFilesOnly).cancels = false)
    (modules : List (Bytes × AddressCount)) : (reportModules cfg tools p modules).2.2.canceled = false := by
  induction modules generalizing p with
  | nil => exact hp
  | cons entry rest ih =>
    obtain ⟨module, counts⟩ := entry
    rw [reportModules_cons cfg tools module counts rest hp]
    apply ih
    exact (reportModule_keeps cfg tools p module counts).2.trans (by rw [hp, h]; rfl)

variable (realPath : Bytes → Except Bytes Bytes) (metrics : Metrics) (s : Store) (world : σ)

theorem run_of_error {e : RunError} (h : aggregate s realPath false cfg = .error e) :
    (run cfg tools realPath false metrics s world).results = [] ∧
      (run cfg tools realPath false metrics s world).error = some e ∧
      (run cfg tools realPath false metrics s world).store = s := by
  unfold run
  rw [h]
  exact ⟨rfl, rfl, rfl⟩

theorem run_of_ok {cov : ModuleCoverage} (h : aggregate s realPath false cfg = .ok cov) :
    let turns := reportModules cfg tools (startOf cfg realPath s world) cov.toList
    (run cfg tools realPath false metrics s world).results = turns.1 ∧
      (run cfg tools realPath false metrics s world).error = turns.2.1 ∧
      (run cfg tools realPath false metrics s world).store = turns.2.2.store := by
  unfold run
  rw [h]
  exact ⟨rfl, rfl, rfl⟩

theorem consistent_run :
    ∀ r ∈ (run cfg tools realPath false metrics s world).results, r.Consistent cfg.html := by
  cases h : aggregate s realPath false cfg with
  | error e => simp [(run_of_error cfg tools realPath metrics s world h).1]
  | ok cov =>
    rw [(run_of_ok cfg tools realPath metrics s world h).1]
    exact consistent_reportModules cfg tools _ _

theorem metrics_run :
    (run cfg tools realPath false metrics s world).metrics =
      (run cfg tools realPath false metrics s world).results.foldl (countResult cfg.html)
        (countAggregate s realPath false cfg metrics) := by
  unfold run
  simp only
  split <;> rfl

/-- A report that nothing cancels. If the runs cannot be selected, or one of them cannot be read, it has
no results, that error, and changes no file. Else it has no error and one result for each module, by name.
The fields of every result agree with its stage, and each result is counted once, by the status of its
stage. -/
theorem run_state_machine (h : NeverCanceled cfg tools realPath s world) :
    let o := run cfg tools realPath false metrics s world
    (∀ e, RunSelection.select s realPath cfg.runs = .error e →
      o.results = [] ∧ o.error = some (.select e) ∧ o.store = s) ∧
    (∀ dirs, RunSelection.select s realPath cfg.runs = .ok dirs →
      (∀ before dir after e, dirs = before ++ dir :: after →
        (∀ d ∈ before, (Extraction.extract s false d ∅).2 = none) →
        (Extraction.extract s false dir ∅).2 = some e →
        o.results = [] ∧ o.error = some (.extract e) ∧ o.store = s) ∧
      ((∀ d ∈ dirs, (Extraction.extract s false d ∅).2 = none) →
        ∃ cov, aggregate s realPath false cfg = .ok cov ∧ o.error = none ∧
          o.results.map (·.module) = cov.keys ∧ cov.keys.Pairwise (· < ·))) ∧
    (∀ r ∈ o.results, r.Consistent cfg.html) ∧
    ∀ label, o.metrics.modules.getD label 0 =
      metrics.modules.getD label 0 + o.results.countP fun r => utf8 r.stage.status = label := by
  refine ⟨fun e hselect => ?_, fun dirs hselect => ⟨?_, fun hruns => ?_⟩, ?_, fun label => ?_⟩
  · exact run_of_error cfg tools realPath metrics s world (aggregate_of_select_error hselect)
  · rintro before dir after e rfl hbefore hdir
    apply run_of_error
    rw [aggregate_of_select_ok hselect, addRuns_of_failure ∅ hbefore hdir]
    rfl
  · have hcov : aggregate s realPath false cfg = .ok (Extraction.runAll ∅ (requestsOf s false dirs)) := by
      rw [aggregate_of_select_ok hselect, addRuns_of_success ∅ hruns]
      rfl
    obtain ⟨hresults, herror, _⟩ := run_of_ok cfg tools realPath metrics s world hcov
    obtain ⟨hnone, hmodules⟩ := reportModules_complete cfg tools _ _ (h _ hcov)
    refine ⟨_, hcov, herror.trans hnone, ?_, Maps.keys_ascending _⟩
    rw [hresults, hmodules, Std.ExtTreeMap.map_fst_toList_eq_keys]
  · exact consistent_run cfg tools realPath metrics s world
  · have hstatus : ∀ r ∈ (run cfg tools realPath false metrics s world).results,
        (decide (utf8 r.status = label) = true ↔ decide (utf8 r.stage.status = label) = true) := by
      intro r hr
      rw [(consistent_run cfg tools realPath metrics s world r hr).status]
    rw [metrics_run, getD_countResults, modules_countAggregate, List.countP_congr hstatus]

def twoModules : Memory :=
  Memory.empty.putFile (utf8 "/run/tbcoverage-0.json") (utf8 "\x7b\"b\":[[16,19,3]],\"a\":[]\x7d")

def twoModulesConfig : Config := ⟨⟨utf8 "/p", 0, [utf8 "/run"]⟩, false, utf8 "/out", false, [], 0, [], []⟩

/-- A resolver that breaks down on one module and knows no lines of any other. -/
def fragileTools : Tools Unit :=
  { resolve := fun _ _ module _ _ =>
      ⟨if module = utf8 "a" then .error (.crashed (utf8 "out of range")) else .ok ∅, false, [], ()⟩
    render := fun _ s _ _ _ => ⟨none, [], s, ()⟩ }

theorem run_state_machine_twoModules :
    NeverCanceled twoModulesConfig fragileTools .ok (.memory twoModules) () ∧
      (run twoModulesConfig fragileTools .ok false .empty (.memory twoModules) ()).error = none ∧
      (run twoModulesConfig fragileTools .ok false .empty (.memory twoModules) ()).results.map (·.module) =
        [utf8 "a", utf8 "b"] ∧
      (run twoModulesConfig fragileTools .ok false .empty (.memory twoModules) ()).results.map (·.stage) =
        [.mapping, .done] := by
  have hnever : NeverCanceled twoModulesConfig fragileTools .ok (.memory twoModules) () := by
    intro cov _
    exact canceled_reportModules twoModulesConfig fragileTools rfl (fun _ _ _ _ => rfl) _
  have hselect : RunSelection.select (.memory twoModules) .ok twoModulesConfig.runs = .ok [utf8 "/run"] := rfl
  have hrun : (Extraction.extract (.memory twoModules) false (utf8 "/run") ∅).2 = none := by cbv
  have hkeys : (aggregate (.memory twoModules) .ok false twoModulesConfig).map (·.keys) =
      .ok [utf8 "a", utf8 "b"] := by cbv
  have hstages :
      (run twoModulesConfig fragileTools .ok false .empty (.memory twoModules) ()).results.map (·.stage) =
        [.mapping, .done] := by cbv
  obtain ⟨_, hok, _, _⟩ :=
    run_state_machine twoModulesConfig fragileTools .ok .empty (.memory twoModules) () hnever
  obtain ⟨cov, hcov, herror, hmodules, _⟩ := (hok _ hselect).2 (by simpa using hrun)
  rw [hcov] at hkeys
  have hcovKeys : cov.keys = [utf8 "a", utf8 "b"] := by simpa [Except.map] using hkeys
  exact ⟨hnever, herror, hmodules.trans hcovKeys, hstages⟩

end Report

end LineCoverage
