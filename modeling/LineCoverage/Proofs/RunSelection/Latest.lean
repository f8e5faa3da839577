import LineCoverage.Proofs.RunSelection.LastRuns

/-!
# The latest run among the selected ones

The selection reads an index from the name that the link leads to, and writes it back into a name of its own. Only if
that is the same name does it find the latest run.
-/

namespace LineCoverage

namespace RunSelection

theorem existing_eq_ok {s : Store} {paths found : List Bytes} (h : existing s paths = .ok found) :
    found = paths.filter s.has := by
  induction paths generalizing found with
  | nil => exact (Except.ok.inj h).symm
  | cons path rest ih =>
    by_cases hfails : ∃ e, s.Fails path e
    · obtain ⟨e, he⟩ := hfails
      rw [← List.nil_append (path :: rest), existing_of_fails (by simp) he] at h
      cases h
    · rw [not_exists] at hfails
      rw [existing, Store.exists?_of_answers hfails] at h
      cases hrest : existing s rest with
      | error e =>
        rw [hrest] at h
        cases h
      | ok others =>
        rw [hrest] at h
        rw [← Except.ok.inj h, ih hrest, List.filter_cons]

theorem window_cons {index count : Int64} (hindex : 0 ≤ index) (hcount : 0 < count) :
    ∃ rest, window index count = index.toInt.toNat :: rest := by
  have hstart := countsExactly_start hindex count
  have hzero : index - 0 = index := Int64.sub_zero index
  have hdrop := drop_window_of_going hindex hstart hcount (by rwa [hzero])
  rw [hzero] at hdrop
  exact ⟨_, hdrop⟩

theorem NamesIndex.isElement {p : Bytes} {index : Int64} (h : NamesIndex (Path.base p) index) :
    Path.IsElement (Path.base p) ∧ Path.base p ≠ Path.dotDot := by
  have hread := parseRunIndex_eq_ok_iff.2 h
  have hne : ∀ name, (∃ e, parseRunIndex name = .error e) → Path.base p ≠ name := by
    rintro name ⟨e, he⟩ rfl
    rw [he] at hread
    cases hread
  have hslash : Path.base p ≠ [Path.slash] := hne _ ⟨_, rfl⟩
  obtain ⟨hnonempty, hnoSlash⟩ := (Path.base_cases p).resolve_left hslash
  exact ⟨⟨hnonempty, hne _ ⟨_, rfl⟩, hnoSlash⟩, hne _ ⟨_, rfl⟩⟩

theorem join_dir_base_of_namesIndex {target : Bytes} {index : Int64} (hclean : Path.clean target = target)
    (h : NamesIndex (Path.base target) index) : Path.join (Path.dir target) (Path.base target) = target := by
  apply Path.join_dir_base hclean
  obtain ⟨before, hbefore⟩ := Path.exists_normalElements_base h.isElement.1 h.isElement.2
  rw [hbefore]
  simp

theorem base_runPath {dir : Bytes} (hdir : dir ≠ []) (j : Nat) :
    Path.base (runPath dir j) = runDirName (Int64.ofNat j) := by
  obtain ⟨helement, hdots⟩ := isElement_runDirName (Int64.ofNat j)
  rw [runPath, Path.join_eq_stem_append hdir helement hdots, Path.base_stem_append dir helement.nonempty
    helement.noSlash]

section Latest

variable {s : Store} {target : Bytes} {index count : Int64}

theorem runs_of_lastRuns {dirs : List Bytes} (h : lastRuns s target count = .ok dirs) :
    ∃ index, NamesIndex (Path.base target) index ∧
      dirs = ((window index count).map (runPath (Path.dir target))).filter s.has := by
  by_cases hnames : ∃ index, NamesIndex (Path.base target) index
  · obtain ⟨index, hindex⟩ := hnames
    rw [lastRuns_of_namesIndex s hindex, mapError_eq_ok_iff] at h
    exact ⟨index, hindex, existing_eq_ok h⟩
  · rw [not_exists] at hnames
    obtain ⟨e, he⟩ := lastRuns_of_unnamed s hnames count
    rw [he] at h
    cases h

theorem first_candidate (hclean : Path.clean target = target) (hindex : NamesIndex (Path.base target) index)
    (hname : IsRunDirName (Path.base target)) : runPath (Path.dir target) index.toInt.toNat = target := by
  rw [runPath_word _ hindex.nonneg, ← (runDirName_eq_iff hindex).2 hname, join_dir_base_of_namesIndex hclean hindex]

theorem target_not_mem_candidates (hindex : NamesIndex (Path.base target) index)
    (hname : ¬ IsRunDirName (Path.base target)) : target ∉ (window index count).map (runPath (Path.dir target)) := by
  intro hmem
  obtain ⟨j, hj, htarget⟩ := List.mem_map.1 hmem
  have hdir : Path.dir target ≠ [] := Path.clean_ne_nil _
  have hbase := congrArg Path.base htarget
  rw [base_runPath hdir] at hbase
  have hnonneg : 0 ≤ Int64.ofNat j := by
    have hle := ((mem_window hindex.nonneg).1 hj).2
    rw [nonneg_iff_toInt, toInt_ofNat_of_le hle]
    omega
  have hnames := namesIndex_runDirName hnonneg
  rw [hbase] at hnames
  exact hname ((runDirName_eq_iff hnames).1 hbase.symm)

end Latest

/-- When the latest runs are selected and the link leads to a directory that is there, that directory comes first if
it has the usual name, with its index as short as can be. If it has any other name it is left out. -/
theorem latest_run_first {s : Store} {realPath : Bytes → Except Bytes Bytes} {cfg : RunConfig} {target : Bytes}
    {dirs : List Bytes} (hcount : 0 < cfg.lastRuns) (hdirs : cfg.runDirs = [])
    (hlink : realPath cfg.lastRunPath = .ok target) (hclean : Path.clean target = target)
    (hthere : s.has target = true) (hselect : select s realPath cfg = .ok dirs) :
    (IsRunDirName (Path.base target) → dirs.head? = some target) ∧
      (¬ IsRunDirName (Path.base target) → target ∉ dirs) := by
  rw [select_of_link s hcount hdirs hlink] at hselect
  obtain ⟨index, hindex, rfl⟩ := runs_of_lastRuns hselect
  constructor
  · intro hname
    obtain ⟨rest, hwindow⟩ := window_cons hindex.nonneg hcount
    rw [hwindow, List.map_cons, first_candidate hclean hindex hname, List.filter_cons_of_pos hthere]
    rfl
  · intro hname hmem
    exact target_not_mem_candidates hindex hname (List.mem_filter.1 hmem).1

theorem latest_run_first_gap :
    (0 < (countBack 3).lastRuns ∧ (countBack 3).runDirs = []) ∧
    ∃ dirs, select (.memory gapStore) (fun _ => .ok (utf8 "/p/s2e-out-10")) (countBack 3) = .ok dirs ∧
      IsRunDirName (Path.base (utf8 "/p/s2e-out-10")) ∧ dirs.head? = some (utf8 "/p/s2e-out-10") := by
  have hselect : select (.memory gapStore) (fun _ => .ok (utf8 "/p/s2e-out-10")) (countBack 3) =
      .ok [utf8 "/p/s2e-out-10", utf8 "/p/s2e-out-8"] := by decide +kernel
  have hname : IsRunDirName (Path.base (utf8 "/p/s2e-out-10")) :=
    ⟨utf8 "10", by decide +kernel, ⟨by decide, by decide +kernel⟩, by decide +kernel⟩
  have hthere : (Store.memory gapStore).has (utf8 "/p/s2e-out-10") = true := by decide +kernel
  have hfirst := @latest_run_first _ (fun _ => .ok (utf8 "/p/s2e-out-10")) (countBack 3) _ _ (by decide) rfl rfl
    (by decide +kernel) hthere hselect
  exact ⟨⟨by decide, rfl⟩, _, hselect, hname, hfirst.1 hname⟩

/-- The latest run is left out without a failure if its index has a zero or a sign in front, and if its name has other
parts before the index. -/
theorem latest_run_left_out :
    (∀ name ∈ [utf8 "s2e-out-007", utf8 "s2e-out-+7", utf8 "run-out-7"],
      let target := utf8 "/p/" ++ name
      let s := Store.memory (Memory.empty.putDirectory target)
      Path.clean target = target ∧ s.has target = true ∧ select s (fun _ => .ok target) (countBack 1) = .ok []) ∧
    ¬ ∀ (s : Store) (realPath : Bytes → Except Bytes Bytes) (cfg : RunConfig) (target : Bytes) (dirs : List Bytes),
      0 < cfg.lastRuns → cfg.runDirs = [] → realPath cfg.lastRunPath = .ok target → Path.clean target = target →
        s.has target = true → select s realPath cfg = .ok dirs → dirs.head? = some target := by
  have hlost : ∀ name ∈ [utf8 "s2e-out-007", utf8 "s2e-out-+7", utf8 "run-out-7"],
      let target := utf8 "/p/" ++ name
      let s := Store.memory (Memory.empty.putDirectory target)
      Path.clean target = target ∧ s.has target = true ∧
        select s (fun _ => .ok target) (countBack 1) = .ok [] := by decide +kernel
  refine ⟨hlost, fun hall => ?_⟩
  obtain ⟨hclean, hthere, hselect⟩ := hlost (utf8 "s2e-out-007") List.mem_cons_self
  have hhead := hall _ (fun _ => .ok (utf8 "/p/" ++ utf8 "s2e-out-007")) (countBack 1) _ _ (by decide) rfl rfl hclean
    hthere hselect
  cases hhead

end RunSelection

end LineCoverage
