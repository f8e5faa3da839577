import LineCoverage.Proofs.Store.Below
import LineCoverage.Proofs.Trace

/-!
# The trace files of a directory

A listing is complete and exact: it gives each trace file below the directory once, by path.
-/

namespace LineCoverage

namespace Bytes

theorem pairwise_lt_mergeSort {l : List Bytes} (h : l.Nodup) : (l.mergeSort (· ≤ ·)).Pairwise (· < ·) := by
  have hsorted : (l.mergeSort (· ≤ ·)).Pairwise fun a b => decide (a ≤ b) = true := by
    refine List.pairwise_mergeSort (fun a b c hab hbc => ?_) (fun a b => ?_) l
    · simp only [decide_eq_true_eq] at hab hbc ⊢
      exact List.le_trans hab hbc
    · simpa using List.le_total a b
  have hdistinct : (l.mergeSort (· ≤ ·)).Pairwise (· ≠ ·) := (List.mergeSort_perm l _).nodup_iff.2 h
  refine (hsorted.and hdistinct).imp ?_
  rintro a b ⟨hle, hne⟩
  exact (List.le_iff_lt_or_eq.1 (of_decide_eq_true hle)).resolve_right hne

end Bytes

namespace Trace

/-! ## Names -/

/-- What a trace file is called. -/
def IsTraceName (name : Bytes) : Prop :=
  ∃ middle ending, name = utf8 "tbcoverage-" ++ middle ++ utf8 ".json" ++ ending ∧ newline ∉ middle ∧
    ending ∈ [[], utf8 ".gz", utf8 ".zst"]

def fileEndings : List Bytes := [utf8 ".json", utf8 ".json.gz", utf8 ".json.zst"]

theorem isFileName_append_iff (rest : Bytes) :
    isFileName (utf8 "tbcoverage-" ++ rest) = true ↔ newline ∉ rest ∧ ∃ e ∈ fileEndings, e <:+ rest := by
  simp [isFileName, fileEndings, Bytes.startsWith, Bytes.endsWith]

theorem isFileName_iff (name : Bytes) : isFileName name = true ↔ IsTraceName name := by
  constructor
  · intro h
    obtain ⟨rest, rfl⟩ : utf8 "tbcoverage-" <+: name := by
      rw [← List.isPrefixOf_iff_prefix]
      simp only [isFileName, Bytes.startsWith, Bool.and_eq_true] at h
      exact h.1.1
    obtain ⟨hline, e, he, middle, rfl⟩ := (isFileName_append_iff rest).1 h
    have hmiddle : newline ∉ middle := fun hmem => hline (List.mem_append_left _ hmem)
    have hending : ∀ e ∈ fileEndings, ∃ ending ∈ [[], utf8 ".gz", utf8 ".zst"], e = utf8 ".json" ++ ending := by decide
    obtain ⟨ending, hmem, rfl⟩ := hending e he
    exact ⟨middle, ending, by simp only [List.append_assoc], hmiddle, hmem⟩
  · rintro ⟨middle, ending, rfl, hline, hending⟩
    have hends : ∀ ending ∈ [[], utf8 ".gz", utf8 ".zst"],
        newline ∉ utf8 ".json" ++ ending ∧ utf8 ".json" ++ ending ∈ fileEndings := by decide
    obtain ⟨hend, hmem⟩ := hends ending hending
    rw [List.append_assoc, List.append_assoc, isFileName_append_iff, List.mem_append, not_or]
    exact ⟨⟨hline, hend⟩, _, hmem, List.suffix_append _ _⟩

theorem isFilePath_iff (path : Bytes) : isFilePath path = true ↔ IsTraceName (Path.base (Path.clean path)) :=
  isFileName_iff _

/-! ## Listings -/

/-- In a store without faults, the listing of a directory gives in ascending order, and each once, the files below it
that have the name of a trace file, whatever the directories on the way are called. Where the store hides nothing these
are all such files whose path leads through the directory. The root also shows what has a path without a leading slash,
so there must be no such thing if it is the root that is listed. There is no listing of a directory that is not there. -/
theorem trace_files_listed {m : Memory} (hbuilt : m.Built) (hfaults : m.faults = []) {dir : Bytes}
    (habs : Path.isAbsolute dir = true) (hclean : Path.clean dir = dir) :
    (dir ∉ m.nodes → list (.memory m) dir = .error (.absent dir)) ∧
    (m.IsDirectory dir → (dir = Memory.root → ∀ k ∈ m.entries dir, Path.isAbsolute k = true) →
      ∃ files, list (.memory m) dir = .ok files ∧ files.Pairwise (· < ·) ∧
        (∀ p, p ∈ files ↔ m.IsFile p ∧ m.Below dir p ∧ IsTraceName (Path.base p)) ∧
        (m.ShowsAll → ∀ p, p ∈ files ↔ m.IsFile p ∧ Path.Within p dir ∧ IsTraceName (Path.base p))) := by
  have htree := hbuilt.isTree
  have hkey := Memory.key_eq_self habs hclean
  constructor
  · intro habsent
    have hvisit : (Store.memory m).filesBelow dir = .error (.absent dir) := by
      rw [Memory.filesBelow_eq_visit, Memory.visit_eq hfaults, hkey, Std.ExtTreeMap.getElem?_eq_none habsent]
    unfold list
    rw [hvisit]
    rfl
  · intro hisDir hroot
    have hdir : m.Straight dir := ⟨hkey, habs, hroot⟩
    obtain ⟨files, hfiles, hnodup, hmem⟩ := hdir.filesBelow htree hfaults hbuilt.shownInDirectories hisDir
    have hlisted : ∀ p, p ∈ (files.filter isFilePath).mergeSort (· ≤ ·) ↔
        m.IsFile p ∧ m.Below dir p ∧ IsTraceName (Path.base p) := by
      intro p
      rw [List.mem_mergeSort, List.mem_filter, hmem, isFilePath_iff, and_assoc]
      refine and_congr_right fun _ => and_congr_right fun hbelow => ?_
      rw [Memory.clean_of_key (hdir.of_below htree hbelow).1.key]
    refine ⟨_, list_of_filesBelow hfiles, Bytes.pairwise_lt_mergeSort (hnodup.filter _), hlisted, fun hall p => ?_⟩
    rw [hlisted]
    refine and_congr_right fun hfile => and_congr_left fun _ => ?_
    rw [Memory.below_iff_within htree hall hdir]
    constructor
    · exact fun h => h.2.2
    · intro hwithin
      obtain ⟨file, hthere, -⟩ := id hfile
      refine ⟨Maps.mem_of_getElem? hthere, ?_, hwithin⟩
      rintro rfl
      exact hfile.not_isDirectory hisDir

section Example

/-- Two trace files, one of them in a directory that is named like one, and another file. -/
def nestedStore : Memory :=
  ((Memory.empty.write (utf8 "/run/1/tbcoverage-a.json.gz.json.zst") []).write
    (utf8 "/run/tbcoverage-0.json/tbcoverage-1.json") []).write (utf8 "/run/debug.txt") []

def nestedFiles : List Bytes :=
  [utf8 "/run/1/tbcoverage-a.json.gz.json.zst", utf8 "/run/tbcoverage-0.json/tbcoverage-1.json"]

theorem trace_files_listed_nestedStore :
    list (.memory nestedStore) (utf8 "/none") = .error (.absent (utf8 "/none")) ∧
      list (.memory nestedStore) (utf8 "/run") = .ok nestedFiles ∧
      ∀ p, p ∈ nestedFiles ↔ nestedStore.IsFile p ∧ Path.Within p (utf8 "/run") ∧ IsTraceName (Path.base p) := by
  have hbuilt : nestedStore.Built := .write (.write (.write .empty _ _) _ _) _ _
  have hfaults : nestedStore.faults = [] := by simp [nestedStore, Memory.empty]
  have hnone : utf8 "/none" ∉ nestedStore.nodes := by decide +kernel
  have hrun : nestedStore.nodes[utf8 "/run"]? = some .directory := by decide +kernel
  have hall : nestedStore.nodes.toList.all (fun e => e.2.listed) = true := by decide +kernel
  have hlist : list (.memory nestedStore) (utf8 "/run") = .ok nestedFiles := by cbv
  have hlisting := fun dir => @trace_files_listed nestedStore hbuilt hfaults dir
  refine ⟨(hlisting _ (by decide) (by decide)).1 hnone, hlist, ?_⟩
  obtain ⟨files, hfiles, -, -, hmem⟩ := (hlisting (utf8 "/run") (by decide) (by decide)).2 ⟨_, hrun, rfl⟩ (by decide)
  rw [hlist] at hfiles
  cases hfiles
  refine hmem fun k node hnode _ => ?_
  exact List.all_eq_true.1 hall _ (Std.ExtTreeMap.mem_toList_iff_getElem?_eq_some.2 hnode)

def twinStore : Memory :=
  (Memory.empty.write (utf8 "/tbcoverage-0.json") []).write (utf8 "tbcoverage-0.json") []

/-- Without the condition on the root a trace file can be listed twice: the root shows two entries of one name, and both
lead to the file with the leading slash. -/
theorem trace_file_listed_twice :
    twinStore.Built ∧ twinStore.faults = [] ∧ Path.isAbsolute Memory.root = true ∧
      Path.clean Memory.root = Memory.root ∧ twinStore.IsDirectory Memory.root ∧
      list (.memory twinStore) Memory.root = .ok [utf8 "/tbcoverage-0.json", utf8 "/tbcoverage-0.json"] ∧
      ¬ [utf8 "/tbcoverage-0.json", utf8 "/tbcoverage-0.json"].Nodup :=
  ⟨.write (.write .empty _ _) _ _, by simp [twinStore, Memory.empty], by decide, by decide,
    ⟨.directory, by decide +kernel, rfl⟩, by cbv, by simp⟩

end Example

end Trace

end LineCoverage
