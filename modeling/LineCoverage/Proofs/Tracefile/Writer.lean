import LineCoverage.Tracefile.Writer
import Mathlib

/-!
# What is written

The buffer loses nothing, so unless a look-up fails the encoder writes the records of all files that are shown,
one after the other.
-/

namespace LineCoverage

namespace Tracefile

/-! ## The buffer -/

namespace Buffer

theorem contents_write (b : Buffer) (piece : Bytes) : (b.write piece).contents = b.contents ++ piece := by
  unfold write
  split
  · simp [contents]
  · split
    · rename_i _ hempty
      simp [contents, hempty]
    · simp only
      split <;> simp [contents]

theorem contents_writeAll (b : Buffer) (pieces : List Bytes) :
    (b.writeAll pieces).contents = b.contents ++ pieces.flatten := by
  unfold writeAll
  induction pieces generalizing b with
  | nil => simp
  | cons piece rest ih => rw [List.foldl_cons, ih, contents_write, List.flatten_cons, List.append_assoc]

end Buffer

/-! ## The encoder -/

/-- Whether a file gets a record: any file does, unless missing ones are skipped. -/
def isShown (s : Store) (skipMissing : Bool) (file : Bytes) : Bool := !skipMissing || s.exists? file = .ok true

/-- The part of a coverage that gets records. -/
def shown (s : Store) (skipMissing : Bool) (cov : FileLines) : FileLines :=
  cov.filter fun file _ => isShown s skipMissing file

theorem shown_unchecked (s : Store) (cov : FileLines) : shown s false cov = cov := by
  unfold shown
  rw [Std.ExtTreeMap.filter_eq_self_iff]
  intro file hfile
  rfl

def fileStats (files : List (Bytes × LineCount)) : List FileStats :=
  files.map fun (file, lines) => ⟨file, lines.size, hitLines lines⟩

namespace Encoding

variable {s : Store} {skip : Bool}

theorem addFiles_cons {e : Encoding} {file : Bytes} {lines : LineCount} {rest : List (Bytes × LineCount)}
    (h : (addFiles s skip e ((file, lines) :: rest)).2 = none) :
    addFiles s skip e ((file, lines) :: rest) =
      addFiles s skip (if isShown s skip file then e.addRecord file lines else e.skipFile file) rest := by
  rw [addFiles] at h ⊢
  cases skip with
  | false => rfl
  | true =>
    simp only [isShown, if_true, Bool.not_true, Bool.false_or, decide_eq_true_eq] at h ⊢
    rcases hfile : s.exists? file with err | found
    · rw [hfile] at h
      cases h
    · cases found <;> simp

theorem addFiles_of_success {e : Encoding} {files : List (Bytes × LineCount)}
    (h : (addFiles s skip e files).2 = none) :
    (addFiles s skip e files).1.buffer.contents =
        e.buffer.contents ++
          (files.filter fun f => isShown s skip f.1).flatMap (fun (file, lines) => recordText file lines) ∧
      (addFiles s skip e files).1.stats =
        ⟨e.stats.files ++ fileStats (files.filter fun f => isShown s skip f.1),
          e.stats.skipped ++ (files.filter fun f => !isShown s skip f.1).map Prod.fst⟩ := by
  induction files generalizing e with
  | nil => simp [addFiles, fileStats]
  | cons entry rest ih =>
    obtain ⟨file, lines⟩ := entry
    have hcons := addFiles_cons h
    rw [hcons] at h ⊢
    obtain ⟨hbuffer, hstats⟩ := ih h
    rw [hbuffer, hstats]
    cases hshown : isShown s skip file with
    | true => simp [hshown, addRecord, Buffer.contents_writeAll, recordText, fileStats]
    | false => simp [hshown, skipFile]

theorem addFiles_unchecked (s : Store) (e : Encoding) (files : List (Bytes × LineCount)) :
    (addFiles s false e files).2 = none := by
  induction files generalizing e with
  | nil => rfl
  | cons entry rest ih => exact ih (e.addRecord entry.1 entry.2)

end Encoding

theorem toList_shown (s : Store) (skip : Bool) (cov : FileLines) :
    (shown s skip cov).toList = cov.toList.filter fun f => isShown s skip f.1 := Std.ExtTreeMap.toList_filter

theorem encode_of_success {s : Store} {skip : Bool} {cov : FileLines} (h : (encode s skip cov).2 = none) :
    written (encode s skip cov) = textOf (shown s skip cov) ∧
      (encode s skip cov).1.stats =
        ⟨fileStats (shown s skip cov).toList, (cov.toList.filter fun f => !isShown s skip f.1).map Prod.fst⟩ := by
  unfold encode at h ⊢
  rcases hadd : Encoding.addFiles s skip .start cov.toList with ⟨e, failure⟩
  rw [hadd] at h
  cases failure with
  | some err => cases h
  | none =>
    obtain ⟨hbuffer, hstats⟩ := Encoding.addFiles_of_success (congrArg Prod.snd hadd)
    rw [hadd, ← toList_shown] at hbuffer hstats
    have hnil : (shown s skip cov).toList = [] ↔ (shown s skip cov).isEmpty = true := by
      rw [← Std.ExtTreeMap.isEmpty_toList, List.isEmpty_iff]
    simp only [Encoding.start, Stats.empty, List.nil_append] at hbuffer hstats
    unfold written Encoding.finish textOf
    by_cases hempty : (shown s skip cov).toList = []
    · have hcontents : e.buffer.contents = [] := by
        rw [hbuffer, hempty]
        rfl
      simp [hstats, fileStats, hempty, hnil.1 hempty, Buffer.contents_write, hcontents]
    · have hfull : (shown s skip cov).isEmpty = false := by
        rw [← Bool.not_eq_true, ← hnil]
        exact hempty
      simp only [hstats, fileStats, List.map_eq_nil_iff, hempty, if_false, hfull]
      exact ⟨hbuffer, trivial⟩

theorem encode_unchecked (s : Store) (cov : FileLines) :
    (encode s false cov).2 = none ∧ (encode s false cov).1.stats = ⟨fileStats cov.toList, []⟩ := by
  have hnone : (encode s false cov).2 = none := by
    have hadd := Encoding.addFiles_unchecked s .start cov.toList
    unfold encode
    rcases hfiles : Encoding.addFiles s false .start cov.toList with ⟨e, failure⟩
    rw [hfiles] at hadd
    obtain rfl : failure = none := hadd
    rfl
  refine ⟨hnone, ?_⟩
  rw [(encode_of_success hnone).2, shown_unchecked]
  simp [isShown]

theorem written_encode (s : Store) (cov : FileLines) : written (encode s false cov) = textOf cov := by
  rw [(encode_of_success (encode_unchecked s cov).1).1, shown_unchecked]

end Tracefile

end LineCoverage
