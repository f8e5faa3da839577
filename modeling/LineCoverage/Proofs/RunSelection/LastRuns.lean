import LineCoverage.Proofs.RunSelection.Names
import LineCoverage.Proofs.Store.Presence

/-!
# The latest runs

The selection counts back from the index of the latest run and keeps the directories that are there. A gap does not
make it look further back. Counting in 64-bit words comes to the same, since nothing wraps on the way.
-/

namespace LineCoverage

namespace RunSelection

/-! ## The window -/

/-- The indexes from `index` down, at most `count` of them. -/
def window (index count : Int64) : List Nat :=
  (List.range (min count.toNatClampNeg (index.toNatClampNeg + 1))).map (index.toNatClampNeg - ·)

/-- An index is less than `count` below `index`, and not below zero. -/
def InWindow (index count : Int64) (j : Nat) : Prop :=
  max 0 (index.toInt - count.toInt + 1) ≤ (j : Int) ∧ (j : Int) ≤ index.toInt

def runPath (dir : Bytes) (j : Nat) : Bytes := Path.join dir (runDirName (Int64.ofNat j))

theorem toNatClampNeg_eq (n : Int64) : n.toNatClampNeg = n.toInt.toNat := rfl

theorem candidates_eq (dir : Bytes) (index count : Int64) :
    candidates dir index.toNatClampNeg count.toNatClampNeg = (window index count).map (runPath dir) := by
  unfold candidates window
  rw [List.map_map]
  rfl

theorem length_window (index count : Int64) :
    (window index count).length = min count.toNatClampNeg (index.toNatClampNeg + 1) := by
  simp [window]

theorem mem_window {index count : Int64} (hindex : 0 ≤ index) {j : Nat} :
    j ∈ window index count ↔ InWindow index count j := by
  have hindex' := nonneg_iff_toInt.1 hindex
  unfold window InWindow
  simp only [List.mem_map, List.mem_range, toNatClampNeg_eq]
  constructor
  · rintro ⟨i, hi, rfl⟩
    omega
  · rintro ⟨hlow, hhigh⟩
    exact ⟨index.toInt.toNat - j, by omega, by omega⟩

theorem pairwise_window (index count : Int64) : (window index count).Pairwise (· > ·) := by
  unfold window
  rw [List.pairwise_map]
  refine List.pairwise_lt_range.imp_of_mem ?_
  intro i j hi hj hlt
  rw [List.mem_range] at hj
  omega

theorem toInt_ofNat_of_le {index : Int64} {j : Nat} (h : (j : Int) ≤ index.toInt) : (Int64.ofNat j).toInt = j := by
  have hlt := index.toInt_lt
  apply Int64.toInt_ofNat_of_lt
  omega

theorem runPath_inj {dir : Bytes} (hdir : dir ≠ []) {i j : Nat} (hi : (Int64.ofNat i).toInt = i)
    (hj : (Int64.ofNat j).toInt = j) (h : runPath dir i = runPath dir j) : i = j := by
  have hpath : ∀ k : Int64, Path.join dir (runDirName k) = Path.stem dir ++ runDirName k := by
    intro k
    obtain ⟨helement, hdots⟩ := isElement_runDirName k
    exact Path.join_eq_stem_append hdir helement hdots
  unfold runPath at h
  rw [hpath, hpath] at h
  have hindex := congrArg Int64.toInt (runDirName_injective (List.append_cancel_left h))
  rw [hi, hj] at hindex
  exact Int.ofNat_inj.1 hindex

/-! ## Looking at the candidates -/

theorem existing_of_answers {s : Store} {paths : List Bytes} (h : ∀ path ∈ paths, ∀ e, ¬ s.Fails path e) :
    existing s paths = .ok (paths.filter s.has) := by
  induction paths with
  | nil => rfl
  | cons path rest ih =>
    rw [existing, Store.exists?_of_answers (h path List.mem_cons_self),
      ih fun p hp => h p (List.mem_cons_of_mem _ hp), List.filter_cons]
    rfl

theorem existing_of_fails {s : Store} {before after : List Bytes} {path : Bytes} {e : FileError}
    (hbefore : ∀ p ∈ before, ∀ e, ¬ s.Fails p e) (hpath : s.Fails path e) :
    existing s (before ++ path :: after) = .error e := by
  induction before with
  | nil =>
    rw [List.nil_append, existing, Store.exists?_of_fails hpath]
    rfl
  | cons p rest ih =>
    rw [List.cons_append, existing, Store.exists?_of_answers (hbefore p List.mem_cons_self),
      ih fun q hq => hbefore q (List.mem_cons_of_mem _ hq)]
    rfl

theorem exists_first_failure (s : Store) (dir : Bytes) (js : List Nat) :
    (∀ j ∈ js, ∀ e, ¬ s.Fails (runPath dir j) e) ∨
      ∃ before j after e, js = before ++ j :: after ∧ s.Fails (runPath dir j) e ∧
        ∀ i ∈ before, ∀ e, ¬ s.Fails (runPath dir i) e := by
  induction js with
  | nil => exact .inl (by simp)
  | cons j rest ih =>
    by_cases hj : ∃ e, s.Fails (runPath dir j) e
    · obtain ⟨e, he⟩ := hj
      exact .inr ⟨[], j, rest, e, rfl, he, by simp⟩
    · rw [not_exists] at hj
      rcases ih with hall | ⟨before, k, after, e, rfl, he, hbefore⟩
      · exact .inl (List.forall_mem_cons.2 ⟨hj, hall⟩)
      · exact .inr ⟨j :: before, k, after, e, rfl, he, List.forall_mem_cons.2 ⟨hj, hbefore⟩⟩

/-! ## Counting in words -/

/-- The counters that a loop in 64-bit words comes to: it goes on while the counter is below `count` and the
difference to `index` is not negative. -/
inductive ComesTo (index count : Int64) : Int64 → Prop where
  | start : ComesTo index count 0
  | pass {i : Int64} (h : ComesTo index count i) (hcount : i < count) (hindex : 0 ≤ index - i) :
      ComesTo index count (i + 1)

/-- Nothing wraps at this counter: the difference is the one of the numbers, it is never below minus one, where the
loop ends, and the counter can be raised. -/
structure CountsExactly (index count i : Int64) : Prop where
  nonneg : 0 ≤ i.toInt
  difference : (index - i).toInt = index.toInt - i.toInt
  low : -1 ≤ index.toInt - i.toInt
  next : i < count → (i + 1).toInt = i.toInt + 1

theorem toInt_succ {i count : Int64} (h : i < count) : (i + 1).toInt = i.toInt + 1 := by
  have hlt := Int64.lt_iff_toInt_lt.1 h
  have hlow := i.le_toInt
  have hhigh := count.toInt_lt
  rw [Int64.toInt_add, Int64.toInt_one]
  apply Int.bmod_eq_of_le <;> omega

theorem toInt_difference {index i : Int64} (hindex : 0 ≤ index) (hi : 0 ≤ i.toInt) :
    (index - i).toInt = index.toInt - i.toInt := by
  have hindex' := nonneg_iff_toInt.1 hindex
  have hhigh := index.toInt_lt
  have hhigh' := i.toInt_lt
  rw [Int64.toInt_sub]
  apply Int.bmod_eq_of_le <;> omega

theorem countsExactly_start {index : Int64} (hindex : 0 ≤ index) (count : Int64) : CountsExactly index count 0 := by
  have hindex' := nonneg_iff_toInt.1 hindex
  have hzero : (0 : Int64).toInt = 0 := Int64.toInt_zero
  refine ⟨by omega, toInt_difference hindex (by omega), by omega, toInt_succ⟩

theorem CountsExactly.pass {index count i : Int64} (hindex : 0 ≤ index) (h : CountsExactly index count i)
    (hcount : i < count) (hgoing : 0 ≤ index - i) : CountsExactly index count (i + 1) := by
  have hnext := h.next hcount
  have hnonneg := h.nonneg
  have hleft := nonneg_iff_toInt.1 hgoing
  rw [h.difference] at hleft
  exact ⟨by omega, toInt_difference hindex (by omega), by omega, toInt_succ⟩

theorem ComesTo.countsExactly {index count i : Int64} (hindex : 0 ≤ index) (h : ComesTo index count i) :
    CountsExactly index count i := by
  induction h with
  | start => exact countsExactly_start hindex count
  | pass _ hcount hgoing ih => exact ih.pass hindex hcount hgoing

/-- The search as a loop in 64-bit words, with what it has found. -/
def lookBack (s : Store) (dir : Bytes) (index count i : Int64) (found : List Bytes) :
    Except FileError (List Bytes) :=
  if _h : i < count ∧ 0 ≤ index - i then
    match s.exists? (Path.join dir (runDirName (index - i))) with
    | .error e => .error e
    | .ok false => lookBack s dir index count (i + 1) found
    | .ok true => lookBack s dir index count (i + 1) (found ++ [Path.join dir (runDirName (index - i))])
  else .ok found
termination_by (count.toInt - i.toInt).toNat
decreasing_by
  all_goals
    have hlt := Int64.lt_iff_toInt_lt.1 _h.1
    have hnext := toInt_succ _h.1
    omega

theorem getElem_window {index count : Int64} {i : Nat} (h : i < (window index count).length) :
    (window index count)[i] = index.toNatClampNeg - i := by
  simp [window]

theorem runPath_word (dir : Bytes) {k : Int64} (h : 0 ≤ k) :
    runPath dir k.toInt.toNat = Path.join dir (runDirName k) := by
  have hk := nonneg_iff_toInt.1 h
  have hlt := k.toInt_lt
  have hofNat : Int64.ofNat k.toInt.toNat = k := by
    apply Int64.toInt_inj.1
    rw [Int64.toInt_ofNat_of_lt (by omega)]
    omega
  rw [runPath, hofNat]

section Loop

variable {index count i : Int64} (hindex : 0 ≤ index) (hi : CountsExactly index count i)
include hindex hi

theorem drop_window_of_going (hcount : i < count) (hgoing : 0 ≤ index - i) :
    (window index count).drop i.toInt.toNat =
      (index - i).toInt.toNat :: (window index count).drop (i + 1).toInt.toNat := by
  have hindex' := nonneg_iff_toInt.1 hindex
  have hlt := Int64.lt_iff_toInt_lt.1 hcount
  have hleft := nonneg_iff_toInt.1 hgoing
  have hnonneg := hi.nonneg
  have hdifference := hi.difference
  have hnext := hi.next hcount
  have hlength := length_window index count
  simp only [toNatClampNeg_eq] at hlength
  rw [List.drop_eq_getElem_cons (by omega), getElem_window, toNatClampNeg_eq]
  congr 1
  · omega
  · congr 1
    omega

theorem drop_window_of_done (h : ¬ (i < count ∧ 0 ≤ index - i)) : (window index count).drop i.toInt.toNat = [] := by
  have hindex' := nonneg_iff_toInt.1 hindex
  have hnonneg := hi.nonneg
  rw [not_and_or, Int64.not_lt, Int64.le_iff_toInt_le, Int64.le_iff_toInt_le, hi.difference, Int64.toInt_zero] at h
  apply List.drop_eq_nil_of_le
  rw [length_window]
  simp only [toNatClampNeg_eq]
  omega

/-- At each counter the loop has the rest of the window before it. -/
theorem lookBack_eq (s : Store) (dir : Bytes) (found : List Bytes) :
    lookBack s dir index count i found =
      (existing s (((window index count).drop i.toInt.toNat).map (runPath dir))).map (found ++ ·) := by
  fun_induction lookBack s dir index count i found with
  | case1 i found hgoing e hexists =>
    rw [drop_window_of_going hindex hi hgoing.1 hgoing.2, List.map_cons, runPath_word dir hgoing.2, existing, hexists]
    rfl
  | case2 i found hgoing hexists ih =>
    rw [drop_window_of_going hindex hi hgoing.1 hgoing.2, List.map_cons, runPath_word dir hgoing.2, existing, hexists,
      ih (hi.pass hindex hgoing.1 hgoing.2)]
    cases existing s (((window index count).drop (i + 1).toInt.toNat).map (runPath dir)) <;> rfl
  | case3 i found hgoing hexists ih =>
    rw [drop_window_of_going hindex hi hgoing.1 hgoing.2, List.map_cons, runPath_word dir hgoing.2, existing, hexists,
      ih (hi.pass hindex hgoing.1 hgoing.2)]
    cases existing s (((window index count).drop (i + 1).toInt.toNat).map (runPath dir)) with
    | error e => rfl
    | ok others => simp [Except.map, bind, Except.bind, pure, Except.pure]
  | case4 i found hdone =>
    rw [drop_window_of_done hindex hi hdone]
    simp [existing, Except.map]

end Loop

/-! ## What is selected -/

/-- The outcome of a search back from `index`: the runs in the window that are there, the latest first, or the failure
of the latest that cannot be looked up. A loop in words gives the same, and nothing wraps in it. -/
structure LooksBack (s : Store) (dir : Bytes) (index count : Int64) (result : Except SelectError (List Bytes)) :
    Prop where
  found : (∀ j, InWindow index count j → ∀ e, ¬ s.Fails (runPath dir j) e) →
    ∃ runs : List Nat, result = .ok (runs.map (runPath dir)) ∧ runs.Pairwise (· > ·) ∧
      (∀ j, j ∈ runs ↔ InWindow index count j ∧ s.has (runPath dir j) = true) ∧
      (runs.map (runPath dir)).Nodup ∧ (runs.length : Int) ≤ min count.toInt (index.toInt + 1)
  failed : (∃ j e, InWindow index count j ∧ s.Fails (runPath dir j) e) →
    ∃ j e, InWindow index count j ∧ s.Fails (runPath dir j) e ∧
      (∀ i, InWindow index count i → j < i → ∀ e, ¬ s.Fails (runPath dir i) e) ∧ result = .error (.file e)
  inWords : result = (lookBack s dir index count 0 []).mapError .file
  exact : ∀ i, ComesTo index count i → CountsExactly index count i

section Search

variable {s : Store} {dir : Bytes} {index count : Int64}

theorem existing_window_of_answers (hindex : 0 ≤ index)
    (h : ∀ j, InWindow index count j → ∀ e, ¬ s.Fails (runPath dir j) e) :
    existing s ((window index count).map (runPath dir)) =
      .ok (((window index count).filter fun j => s.has (runPath dir j)).map (runPath dir)) := by
  rw [existing_of_answers, List.filter_map]
  · rfl
  · intro path hpath
    obtain ⟨j, hj, rfl⟩ := List.mem_map.1 hpath
    exact h j ((mem_window hindex).1 hj)

theorem nodup_runPaths (hdir : dir ≠ []) {runs : List Nat} (hdescend : runs.Pairwise (· > ·))
    (hruns : ∀ j ∈ runs, InWindow index count j) : (runs.map (runPath dir)).Nodup := by
  have hdistinct : runs.Nodup := hdescend.imp fun hgt => Nat.ne_of_gt hgt
  refine hdistinct.map_on ?_
  intro i hi j hj heq
  exact runPath_inj hdir (toInt_ofNat_of_le (hruns i hi).2) (toInt_ofNat_of_le (hruns j hj).2) heq

theorem existing_window_of_fails (hindex : 0 ≤ index)
    (h : ∃ j e, InWindow index count j ∧ s.Fails (runPath dir j) e) :
    ∃ j e, InWindow index count j ∧ s.Fails (runPath dir j) e ∧
      (∀ i, InWindow index count i → j < i → ∀ e, ¬ s.Fails (runPath dir i) e) ∧
      existing s ((window index count).map (runPath dir)) = .error e := by
  obtain ⟨k, e, hk, hfails⟩ := h
  rcases exists_first_failure s dir (window index count) with hall | ⟨before, j, after, e', hwindow, hj, hbefore⟩
  · exact absurd hfails (hall k ((mem_window hindex).2 hk) e)
  · have hdescend := pairwise_window index count
    have hmem : ∀ i, InWindow index count i ↔ i ∈ before ++ j :: after := by
      intro i
      rw [← mem_window hindex, hwindow]
    rw [hwindow] at hdescend ⊢
    refine ⟨j, e', (hmem j).2 (by simp), hj, ?_, ?_⟩
    · intro i hi hlt
      rcases List.mem_append.1 ((hmem i).1 hi) with hi | hi
      · exact hbefore i hi
      · -- What follows in the window is below `j`.
        have hbehind := List.pairwise_cons.1 (List.pairwise_append.1 hdescend).2.1
        rcases List.mem_cons.1 hi with rfl | hi
        · omega
        · have := hbehind.1 i hi
          omega
    · rw [List.map_append, List.map_cons]
      apply existing_of_fails _ hj
      intro path hpath
      obtain ⟨i, hi, rfl⟩ := List.mem_map.1 hpath
      exact hbefore i hi

theorem length_filter_window_le (hindex : 0 ≤ index) (hcount : 0 < count) (keep : Nat → Bool) :
    (((window index count).filter keep).length : Int) ≤ min count.toInt (index.toInt + 1) := by
  have hindex' := nonneg_iff_toInt.1 hindex
  have hcount' := Int64.lt_iff_toInt_lt.1 hcount
  rw [Int64.toInt_zero] at hcount'
  have hle := List.length_filter_le keep (window index count)
  rw [length_window] at hle
  simp only [toNatClampNeg_eq] at hle
  omega

theorem looksBack_existing (hdir : dir ≠ []) (hindex : 0 ≤ index) (hcount : 0 < count) :
    LooksBack s dir index count ((existing s ((window index count).map (runPath dir))).mapError .file) := by
  refine ⟨?_, ?_, ?_, fun i hi => hi.countsExactly hindex⟩
  · intro hanswers
    have hmem : ∀ j, j ∈ (window index count).filter (fun j => s.has (runPath dir j)) ↔
        InWindow index count j ∧ s.has (runPath dir j) = true := by
      intro j
      rw [List.mem_filter, mem_window hindex]
    have hdescend := (pairwise_window index count).filter fun j => s.has (runPath dir j)
    refine ⟨_, ?_, hdescend, hmem, nodup_runPaths hdir hdescend fun j hj => ((hmem j).1 hj).1,
      length_filter_window_le hindex hcount _⟩
    rw [existing_window_of_answers hindex hanswers]
    rfl
  · intro hfails
    obtain ⟨j, e, hj, hjfails, hlater, herror⟩ := existing_window_of_fails hindex hfails
    refine ⟨j, e, hj, hjfails, hlater, ?_⟩
    rw [herror]
    rfl
  · rw [lookBack_eq hindex (countsExactly_start hindex count)]
    have hzero : (0 : Int64).toInt.toNat = 0 := rfl
    rw [hzero, List.drop_zero]
    cases existing s ((window index count).map (runPath dir)) <;> rfl

end Search

section Select

variable (s : Store) (realPath : Bytes → Except Bytes Bytes) {cfg : RunConfig}

theorem lastRuns_of_namesIndex {target : Bytes} {index : Int64} (h : NamesIndex (Path.base target) index)
    (count : Int64) : lastRuns s target count =
      (existing s ((window index count).map (runPath (Path.dir target)))).mapError .file := by
  unfold lastRuns
  rw [parseRunIndex_eq_ok_iff.2 h, ← candidates_eq]
  rfl

theorem lastRuns_of_unnamed {target : Bytes} (h : ∀ index, ¬ NamesIndex (Path.base target) index) (count : Int64) :
    ∃ e, lastRuns s target count = .error (.config e) := by
  unfold lastRuns
  cases hindex : parseRunIndex (Path.base target) with
  | error e => exact ⟨e, rfl⟩
  | ok index => exact absurd (parseRunIndex_eq_ok_iff.1 hindex) (h index)

theorem select_of_count (hcount : 0 < cfg.lastRuns) (hdirs : cfg.runDirs = []) :
    select s realPath cfg =
      match realPath cfg.lastRunPath with
      | .error why => .error (.config (.unresolved cfg.lastRunPath why))
      | .ok target => lastRuns s target cfg.lastRuns := by
  have hnonneg : ¬ cfg.lastRuns < 0 := by
    rw [Int64.not_lt]
    exact Int64.le_of_lt hcount
  unfold select RunConfig.validate
  simp only [hnonneg, hcount, hdirs, if_true, if_false, ne_eq, not_true_eq_false, and_false]
  rfl

variable {realPath}

theorem select_of_link (hcount : 0 < cfg.lastRuns) (hdirs : cfg.runDirs = []) {target : Bytes}
    (hlink : realPath cfg.lastRunPath = .ok target) :
    select s realPath cfg = lastRuns s target cfg.lastRuns := by
  rw [select_of_count s realPath hcount hdirs, hlink]

variable (realPath)

/-- With a count of runs and no named ones, the selection has a configuration error exactly if the link cannot be
followed or leads to a name without an index. Else it looks back from that index. -/
theorem latest_runs_selected (hcount : 0 < cfg.lastRuns) (hdirs : cfg.runDirs = []) :
    ((∃ e, select s realPath cfg = .error (.config e)) ↔
      (∃ why, realPath cfg.lastRunPath = .error why) ∨
        ∃ target, realPath cfg.lastRunPath = .ok target ∧ ∀ index, ¬ NamesIndex (Path.base target) index) ∧
    ∀ target index, realPath cfg.lastRunPath = .ok target → NamesIndex (Path.base target) index →
      LooksBack s (Path.dir target) index cfg.lastRuns (select s realPath cfg) := by
  cases hlink : realPath cfg.lastRunPath with
  | error why =>
    rw [select_of_count s realPath hcount hdirs, hlink]
    simp
  | ok target =>
    rw [select_of_link s hcount hdirs hlink]
    refine ⟨⟨?_, ?_⟩, ?_⟩
    · rintro ⟨e, he⟩
      refine .inr ⟨target, rfl, fun index hindex => ?_⟩
      rw [lastRuns_of_namesIndex s hindex] at he
      cases hexisting : existing s ((window index cfg.lastRuns).map (runPath (Path.dir target))) <;>
        simp [hexisting, Except.mapError] at he
    · rintro (⟨why, hwhy⟩ | ⟨_, htarget, hunnamed⟩)
      · cases hwhy
      · cases htarget
        exact lastRuns_of_unnamed s hunnamed _
    · rintro _ index ⟨⟩ hindex
      rw [lastRuns_of_namesIndex s hindex]
      exact looksBack_existing (Path.clean_ne_nil _) hindex.nonneg hcount

end Select

/-- Two runs with a gap between them, and a third that cannot be looked up. -/
def gapStore : Memory :=
  { (Memory.empty.putDirectory (utf8 "/p/s2e-out-10")).putDirectory (utf8 "/p/s2e-out-8") with
    faults := [⟨.stat, utf8 "/p/s2e-out-7", utf8 "input/output error"⟩] }

def countBack (count : Int64) : RunConfig := ⟨utf8 "/p", count, []⟩

theorem latest_runs_selected_gap :
    (0 < (countBack 3).lastRuns ∧ (countBack 3).runDirs = []) ∧
    (∃ runs : List Nat,
      select (.memory gapStore) (fun _ => .ok (utf8 "/p/s2e-out-10")) (countBack 3) =
        .ok (runs.map (runPath (utf8 "/p"))) ∧
      runs.Pairwise (· > ·) ∧ 8 ∈ runs ∧ 9 ∉ runs ∧ 10 ∈ runs ∧ ∀ j ∈ runs, 8 ≤ j) ∧
    (∃ e, select (.memory gapStore) (fun _ => .ok (utf8 "/p/s2e-out-10")) (countBack 4) = .error (.file e)) ∧
    ∃ e, select (.memory gapStore) (fun _ => .ok (utf8 "/p/s2e-out-last")) (countBack 3) = .error (.config e) := by
  have hnames : NamesIndex (Path.base (utf8 "/p/s2e-out-10")) 10 := parseRunIndex_eq_ok_iff.1 (by decide +kernel)
  have hunnamed : ∀ index, ¬ NamesIndex (Path.base (utf8 "/p/s2e-out-last")) index := by
    intro index hindex
    have hread := parseRunIndex_eq_ok_iff.2 hindex
    rw [show parseRunIndex (Path.base (utf8 "/p/s2e-out-last")) = .error _ from rfl] at hread
    cases hread
  have hdir : Path.dir (utf8 "/p/s2e-out-10") = utf8 "/p" := by decide +kernel
  have hten : (10 : Int64).toInt = 10 := rfl
  have hthree : (countBack 3).lastRuns.toInt = 3 := rfl
  have hthird := (@latest_runs_selected (.memory gapStore) (fun _ => .ok (utf8 "/p/s2e-out-10")) (countBack 3)
    (by decide) rfl).2 _ 10 rfl hnames
  have hfourth := (@latest_runs_selected (.memory gapStore) (fun _ => .ok (utf8 "/p/s2e-out-10")) (countBack 4)
    (by decide) rfl).2 _ 10 rfl hnames
  have hlast := (@latest_runs_selected (.memory gapStore) (fun _ => .ok (utf8 "/p/s2e-out-last")) (countBack 3)
    (by decide) rfl).1.2 (.inr ⟨_, rfl, hunnamed⟩)
  rw [hdir] at hthird hfourth
  refine ⟨⟨by decide, rfl⟩, ?_, ?_, hlast⟩
  · have hanswers : ∀ j, InWindow 10 (countBack 3).lastRuns j →
        ∀ e, ¬ (Store.memory gapStore).Fails (runPath (utf8 "/p") j) e := by
      rintro j ⟨hlow, hhigh⟩ e hfails
      have hquiet : ∀ j ∈ [8, 9, 10], gapStore.faultAt .stat (runPath (utf8 "/p") j) = .ok () := by decide +kernel
      rw [Store.fails_memory_iff, hquiet j (by simp; omega)] at hfails
      cases hfails
    obtain ⟨runs, hselect, hdescend, hmem, _⟩ := hthird.found hanswers
    refine ⟨runs, hselect, hdescend, (hmem 8).2 ⟨⟨by decide, by decide⟩, by decide +kernel⟩, ?_,
      (hmem 10).2 ⟨⟨by decide, by decide⟩, by decide +kernel⟩, ?_⟩
    · intro hnine
      have hthere := ((hmem 9).1 hnine).2
      revert hthere
      decide +kernel
    · intro j hj
      have hlow := ((hmem j).1 hj).1.1
      omega
  · obtain ⟨j, e, _, _, _, herror⟩ := hfourth.failed ⟨7, .fault (utf8 "input/output error"),
      ⟨by decide, by decide⟩, Store.fails_memory_iff.2 (by decide +kernel)⟩
    exact ⟨e, herror⟩

end RunSelection

end LineCoverage
