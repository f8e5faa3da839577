import LineCoverage.Proofs.Maps
import LineCoverage.Proofs.Store.Memory
import LineCoverage.Proofs.Store.Presence
import LineCoverage.Proofs.Tracefile.Writer

/-!
# Whole records are left out

A tracefile is its records one after the other. Leaving out missing source files, or files without an executed line,
leaves the other records as they are.
-/

namespace LineCoverage

namespace Tracefile

/-! ## Records -/

/-- A record of a tracefile: what is counted for its file, and its text. -/
structure WrittenRecord where
  stats : FileStats
  text : Bytes

def WrittenRecord.of (file : Bytes) (lines : LineCount) : WrittenRecord :=
  ⟨⟨file, lines.size, hitLines lines⟩, recordText file lines⟩

def recordsOf (cov : FileLines) : List WrittenRecord := cov.toList.map fun (file, lines) => .of file lines

/-- Records one after the other. Without any there is a test name alone. -/
def joined (records : List WrittenRecord) : Bytes :=
  if records = [] then emptyText else records.flatMap (·.text)

theorem textOf_eq_joined (cov : FileLines) : textOf cov = joined (recordsOf cov) := by
  have hempty : recordsOf cov = [] ↔ cov.isEmpty = true := by
    rw [recordsOf, List.map_eq_nil_iff, ← Std.ExtTreeMap.isEmpty_toList, List.isEmpty_iff]
  unfold textOf joined
  simp only [hempty]
  simp only [recordsOf, List.flatMap_map, WrittenRecord.of]

theorem files_recordsOf (cov : FileLines) : (recordsOf cov).map (·.stats.file) = cov.keys := by
  rw [← Std.ExtTreeMap.map_fst_toList_eq_keys]
  simp [recordsOf, WrittenRecord.of, Function.comp_def]

theorem stats_recordsOf (cov : FileLines) : (recordsOf cov).map (·.stats) = fileStats cov.toList := by
  simp [recordsOf, WrittenRecord.of, fileStats, Function.comp_def]

theorem text_of_mem_recordsOf {cov : FileLines} {r : WrittenRecord} (h : r ∈ recordsOf cov) :
    ∃ data, r.text = utf8 "TN:\nSF:" ++ r.stats.file ++ [newline] ++ data ++
      totals r.stats.linesHit r.stats.linesFound := by
  obtain ⟨⟨file, lines⟩, -, rfl⟩ := List.mem_map.1 h
  refine ⟨(lines.toList.map fun entry => dataLine entry.1 entry.2).flatten, ?_⟩
  simp [WrittenRecord.of, recordText, recordPieces]

theorem recordsOf_filter (cov : FileLines) {keep : Bytes → LineCount → Bool} {keeps : WrittenRecord → Bool}
    (h : ∀ file lines, keeps (.of file lines) = keep file lines) :
    recordsOf (cov.filter keep) = (recordsOf cov).filter keeps := by
  rw [recordsOf, recordsOf, Std.ExtTreeMap.toList_filter, List.filter_map]
  congr 2
  funext f
  exact (h f.1 f.2).symm

/-! ## Missing files -/

theorem isShown_eq (s : Store) (skip : Bool) (file : Bytes) : isShown s skip file = (!skip || s.has file) := by
  unfold isShown Store.exists? Store.has
  cases s.stat file with
  | ok isDir => simp [Except.isOk, Except.toBool]
  | error e => cases h : e.isAbsence <;> simp [Except.isOk, Except.toBool, h]

theorem recordsOf_shown (s : Store) (skip : Bool) (cov : FileLines) :
    recordsOf (shown s skip cov) = (recordsOf cov).filter fun r => !skip || s.has r.stats.file :=
  recordsOf_filter cov fun file _ => (isShown_eq s skip file).symm

theorem recordsOf_existing (s : Store) (cov : FileLines) :
    recordsOf (cov.filter fun file _ => s.has file) = (recordsOf cov).filter fun r => s.has r.stats.file :=
  recordsOf_filter cov fun _ _ => rfl

def Answers (s : Store) (file : Bytes) : Prop := ∀ e, s.stat file = .error e → e.isAbsence = true

theorem Answers.exists? {s : Store} {file : Bytes} (h : Answers s file) : s.exists? file = .ok (s.has file) := by
  unfold Store.exists? Store.has
  cases hstat : s.stat file with
  | ok isDir => rfl
  | error e => simp [h e hstat, Except.isOk, Except.toBool]

theorem answers_of_faults_nil {m : Memory} (h : m.faults = []) (file : Bytes) : Answers (.memory m) file := by
  intro e he
  simp only [Store.stat, Memory.stat, Memory.find?, Memory.faultAt_of_nil h, bind, Except.bind] at he
  cases hnode : m.nodes[Memory.key file]? with
  | none =>
    simp only [hnode, Except.error.injEq] at he
    rw [← he]
    rfl
  | some node => simp [hnode, pure, Except.pure] at he

theorem addFiles_of_answers {s : Store} {files : List (Bytes × LineCount)} (h : ∀ f ∈ files, Answers s f.1)
    (skip : Bool) (e : Encoding) : (Encoding.addFiles s skip e files).2 = none := by
  cases skip with
  | false => exact Encoding.addFiles_unchecked s e files
  | true =>
    induction files generalizing e with
    | nil => rfl
    | cons entry rest ih =>
      obtain ⟨file, lines⟩ := entry
      obtain ⟨hfile, hrest⟩ := List.forall_mem_cons.1 h
      -- A missing file is skipped and the others go on, so only its answer could be a failure.
      simp only [Encoding.addFiles, if_true, hfile.exists?]
      cases s.has file with
      | true => exact ih hrest _
      | false => exact ih hrest _

theorem encode_of_answers {s : Store} {cov : FileLines} (h : ∀ file ∈ cov, Answers s file) (skip : Bool) :
    (encode s skip cov).2 = none := by
  have hfiles : ∀ f ∈ cov.toList, Answers s f.1 := by
    intro f hf
    exact h f.1 (Maps.mem_of_getElem? (Std.ExtTreeMap.mem_toList_iff_getElem?_eq_some.1 hf))
  have hadd := addFiles_of_answers hfiles skip .start
  unfold encode
  rcases hresult : Encoding.addFiles s skip .start cov.toList with ⟨e, failure⟩
  rw [hresult] at hadd
  obtain rfl : failure = none := hadd
  rfl

theorem written_eq_joined {s : Store} {cov : FileLines} (h : ∀ file ∈ cov, Answers s file) (skip : Bool) :
    written (encode s skip cov) = joined ((recordsOf cov).filter fun r => !skip || s.has r.stats.file) := by
  rw [(encode_of_success (encode_of_answers h skip)).1, textOf_eq_joined, recordsOf_shown]

/-! ## Files without an executed line -/

theorem isCovered_iff (lines : LineCount) : LineCount.isCovered lines = decide (hitLines lines ≠ 0) := by
  rw [Bool.eq_iff_iff]
  simp [LineCount.isCovered, hitLines, List.filter_eq_nil_iff, UInt64.pos_iff_ne_zero]

theorem recordsOf_dropUncovered (cov : FileLines) :
    recordsOf cov.dropUncovered = (recordsOf cov).filter fun r => r.stats.linesHit ≠ 0 :=
  recordsOf_filter cov fun _ lines => (isCovered_iff lines).symm

/-! ## What is written and what is skipped -/

theorem stats_of_answers {s : Store} {cov : FileLines} (h : ∀ file ∈ cov, Answers s file) :
    (encode s true cov).1.stats =
      ⟨((recordsOf cov).filter fun r => s.has r.stats.file).map (·.stats),
        cov.keys.filter fun file => !s.has file⟩ := by
  rw [(encode_of_success (encode_of_answers h true)).2, ← stats_recordsOf, recordsOf_shown,
    ← Std.ExtTreeMap.map_fst_toList_eq_keys, List.filter_map]
  simp [isShown_eq, Function.comp_def]

theorem files_filter (s : Store) (cov : FileLines) :
    ((recordsOf cov).filter fun r => s.has r.stats.file).map (·.stats.file) = cov.keys.filter s.has := by
  rw [← files_recordsOf, List.filter_map]
  rfl

/-- Filters leave whole records out, and nothing else. The text of a coverage is its records one after the other, each
with the name and the totals of its file. If look-ups fail only where nothing is, the text without missing files is
that of the coverage without them, and has the records of the other files; each file is written or skipped, in
ascending order, and those that are missing are skipped. After uncovered files are dropped, the text has the records
with a line that was hit, whether missing files are skipped or not. -/
theorem filters_leave_whole_records {s : Store} {cov : FileLines}
    (hstat : ∀ file ∈ cov, ∀ e, s.stat file = .error e → e.isAbsence = true) :
    let records := recordsOf cov
    let full := encode s false cov
    let present := encode s true cov
    let kept := present.1.stats.files.map (·.file)
    let skipped := present.1.stats.skipped
    (full.2 = none ∧ written full = joined records ∧ full.1.stats = ⟨records.map (·.stats), []⟩ ∧
      records.map (·.stats.file) = cov.keys ∧
      ∀ r ∈ records, ∃ data, r.text = utf8 "TN:\nSF:" ++ r.stats.file ++ [newline] ++ data ++
        totals r.stats.linesHit r.stats.linesFound) ∧
    (present.2 = none ∧ written present = written (encode s false (cov.filter fun file _ => s.has file)) ∧
      written present = joined (records.filter fun r => s.has r.stats.file) ∧
      present.1.stats.files = (records.filter fun r => s.has r.stats.file).map (·.stats)) ∧
    ((kept ++ skipped).Perm cov.keys ∧ kept.Pairwise (· < ·) ∧ skipped.Pairwise (· < ·) ∧
      ∀ file, file ∈ skipped ↔ file ∈ cov ∧ s.has file = false) ∧
    ∀ skip, (encode s skip cov.dropUncovered).2 = none ∧
      written (encode s skip cov.dropUncovered) =
        joined (records.filter fun r => (!skip || s.has r.stats.file) && r.stats.linesHit ≠ 0) := by
  have hdropped : ∀ file ∈ cov.dropUncovered, Answers s file := by
    intro file hfile
    obtain ⟨hmem, -⟩ := Std.ExtTreeMap.mem_filter.1 hfile
    exact hstat file hmem
  intro records full present kept skipped
  have hpresent : written present = joined (records.filter fun r => s.has r.stats.file) := by
    simpa using written_eq_joined hstat true
  have hkept : kept = cov.keys.filter s.has := by
    rw [← files_filter]
    simp [kept, present, stats_of_answers hstat]
  have hskipped : skipped = cov.keys.filter fun file => !s.has file :=
    congrArg Stats.skipped (stats_of_answers hstat)
  obtain ⟨hfull, hstats⟩ := encode_unchecked s cov
  refine ⟨⟨hfull, ?_, ?_, files_recordsOf cov, fun r => text_of_mem_recordsOf⟩,
    ⟨encode_of_answers hstat true, ?_, hpresent, congrArg Stats.files (stats_of_answers hstat)⟩,
    ⟨?_, ?_, ?_, ?_⟩, fun skip => ⟨encode_of_answers hdropped skip, ?_⟩⟩
  · rw [written_encode, textOf_eq_joined]
  · rw [hstats, stats_recordsOf]
  · rw [hpresent, written_encode, textOf_eq_joined, recordsOf_existing]
  · rw [hkept, hskipped]
    exact List.filter_append_perm s.has cov.keys
  · rw [hkept]
    exact (Maps.keys_ascending cov).filter _
  · rw [hskipped]
    exact (Maps.keys_ascending cov).filter _
  · intro file
    rw [hskipped, List.mem_filter, Std.ExtTreeMap.mem_keys, Bool.not_eq_true']
  · rw [written_eq_joined hdropped, recordsOf_dropUncovered, List.filter_filter]

/-- One file is there, one has no executed line, and one is missing. -/
def mixedFiles : FileLines :=
  ((Std.ExtTreeMap.insert ∅ (utf8 "a.c") (Std.ExtTreeMap.insert ∅ 1 2)).insert (utf8 "b.c")
    (Std.ExtTreeMap.insert ∅ 3 0)).insert (utf8 "c.c") (Std.ExtTreeMap.insert ∅ 4 1)

def mixedStore : Store := .memory ((Memory.empty.putFile "a.c" []).putFile "b.c" [])

theorem filters_leave_whole_records_mixed :
    (∀ file ∈ mixedFiles, ∀ e, mixedStore.stat file = .error e → e.isAbsence = true) ∧
    utf8 "c.c" ∈ (encode mixedStore true mixedFiles).1.stats.skipped ∧
    written (encode mixedStore true mixedFiles.dropUncovered) =
      utf8 "TN:\nSF:a.c\nDA:1,2\nLH:1\nLF:1\nend_of_record\n" ∧
    written (encode mixedStore false mixedFiles.dropUncovered) =
      utf8 "TN:\nSF:a.c\nDA:1,2\nLH:1\nLF:1\nend_of_record\nTN:\nSF:c.c\nDA:4,1\nLH:1\nLF:1\nend_of_record\n" := by
  have hanswers : ∀ file ∈ mixedFiles, ∀ e, mixedStore.stat file = .error e → e.isAbsence = true :=
    fun file _ => answers_of_faults_nil (by simp [Memory.empty]) file
  obtain ⟨-, -, ⟨-, -, -, hskipped⟩, hdropped⟩ := filters_leave_whole_records hanswers
  refine ⟨hanswers, (hskipped _).2 ⟨by decide +kernel, by decide +kernel⟩, ?_, ?_⟩
  · rw [(hdropped true).2]
    decide +kernel
  · rw [(hdropped false).2]
    decide +kernel

end Tracefile

end LineCoverage
