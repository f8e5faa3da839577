import LineCoverage.Proofs.Maps
import LineCoverage.Proofs.Text.Decimal
import LineCoverage.Proofs.Tracefile.Reader
import LineCoverage.Proofs.Tracefile.Writer

/-!
# Tracefiles are read back

The lines of a record lead the reader from one record to the next, and add exactly the record that was
written. Only file names stand in the way: those that are no line of their own are lost.
-/

namespace LineCoverage

namespace Tracefile

/-! ## The lines of a record -/

def dataText (line : Int64) (count : UInt64) : Bytes :=
  utf8 "DA" ++ ch ':' :: (Decimal.ofInt64 line ++ ch ',' :: Decimal.ofUInt64 count)

def totalText (key : String) (n : Nat) : Bytes := utf8 key ++ ch ':' :: Decimal.ofNat n

def dataTexts (entries : List (Int64 × UInt64)) : List Bytes :=
  entries.map fun (line, count) => dataText line count

def recordLines (file : Bytes) (lines : LineCount) : List Bytes :=
  [utf8 "TN" ++ [ch ':'], utf8 "SF" ++ ch ':' :: file] ++ dataTexts lines.toList ++
    [totalText "LH" (hitLines lines), totalText "LF" lines.size, endMark]

theorem dataLine_eq (line : Int64) (count : UInt64) : dataLine line count = dataText line count ++ [newline] := by
  have htag : utf8 "DA:" = utf8 "DA" ++ [ch ':'] := by decide
  simp [dataLine, dataText, htag]

theorem totals_eq (hit found : Nat) :
    totals hit found = unlines [totalText "LH" hit, totalText "LF" found, endMark] := by
  have hlh : utf8 "LH:" = utf8 "LH" ++ [ch ':'] := by decide
  have hlf : utf8 "\nLF:" = newline :: utf8 "LF" ++ [ch ':'] := by decide
  have hend : utf8 "\nend_of_record\n" = newline :: endMark ++ [newline] := by decide
  simp [totals, totalText, unlines, hlh, hlf, hend]

theorem flatten_dataLines (entries : List (Int64 × UInt64)) :
    (entries.map fun (line, count) => dataLine line count).flatten = unlines (dataTexts entries) := by
  simp only [unlines, dataTexts, dataLine_eq, List.flatMap_map]
  rfl

theorem recordText_eq (file : Bytes) (lines : LineCount) :
    recordText file lines = unlines (recordLines file lines) := by
  have hhead : utf8 "TN:\nSF:" = utf8 "TN" ++ [ch ':', newline] ++ utf8 "SF" ++ [ch ':'] := by decide
  simp only [recordText, recordPieces, List.flatten_append, flatten_dataLines, totals_eq, hhead]
  simp [recordLines, unlines]

/-! ## What the lines are made of -/

theorem isVisible_of_isDigit {b : UInt8} (h : Decimal.isDigit b = true) : Space.isVisible b = true := by
  simp only [Decimal.isDigit, Space.isVisible, Bool.and_eq_true, decide_eq_true_eq, UInt8.le_iff_toNat_le] at *
  simp at *
  omega

theorem isVisible_ofNat (n : Nat) : ∀ b ∈ Decimal.ofNat n, Space.isVisible b = true :=
  fun b hb => isVisible_of_isDigit (Decimal.isDigit_of_mem_ofNat n b hb)

theorem isVisible_dataText (line : Int64) (count : UInt64) :
    ∀ b ∈ dataText line count, Space.isVisible b = true := by
  have htag : ∀ b ∈ utf8 "DA" ++ [ch ':', ch ','], Space.isVisible b = true :=
    List.all_eq_true.1 (by decide)
  intro b hb
  simp only [dataText, List.mem_append, List.mem_cons] at hb
  rcases hb with hb | rfl | hb | rfl | hb
  · exact htag b (by simp [hb])
  · exact htag _ (by simp)
  · rcases Decimal.mem_ofInt64 line b hb with rfl | hb
    · decide
    · exact isVisible_of_isDigit hb
  · exact htag _ (by simp)
  · exact isVisible_ofNat _ b hb

theorem isVisible_totalText {key : String} (hkey : ∀ b ∈ utf8 key, Space.isVisible b = true) (n : Nat) :
    ∀ b ∈ totalText key n, Space.isVisible b = true := by
  intro b hb
  simp only [totalText, List.mem_append, List.mem_cons] at hb
  rcases hb with hb | rfl | hb
  · exact hkey b hb
  · decide
  · exact isVisible_ofNat n b hb

theorem newline_not_mem_of_visible {s : Bytes} (h : ∀ b ∈ s, Space.isVisible b = true) : newline ∉ s := by
  intro hmem
  have := h newline hmem
  revert this
  decide

theorem newline_not_mem_recordLines {file : Bytes} (lines : LineCount) (hfile : newline ∉ file) :
    ∀ l ∈ recordLines file lines, newline ∉ l := by
  intro l hl
  simp only [recordLines, dataTexts, List.mem_append, List.mem_cons, List.mem_map, List.not_mem_nil,
    or_false] at hl
  rcases hl with ((rfl | rfl) | ⟨e, _, rfl⟩) | rfl | rfl | rfl
  · decide
  · have htag : newline ∉ utf8 "SF" ++ [ch ':'] := by decide
    simp only [List.mem_append, List.mem_cons, List.not_mem_nil, or_false, not_or] at htag ⊢
    exact ⟨htag.1, htag.2, hfile⟩
  · exact newline_not_mem_of_visible (isVisible_dataText e.1 e.2)
  · exact newline_not_mem_of_visible (isVisible_totalText (List.all_eq_true.1 (by decide)) _)
  · exact newline_not_mem_of_visible (isVisible_totalText (List.all_eq_true.1 (by decide)) _)
  · decide

/-! ## Reading the lines back -/

theorem addData_text (rec : Record) (line : Int64) (count : UInt64) :
    addData rec (Decimal.ofInt64 line ++ ch ',' :: Decimal.ofUInt64 count) =
      .ok { rec with lines := rec.lines.alter line fun old => some (old.getD 0 + count) } := by
  have hline : ch ',' ∉ Decimal.ofInt64 line := by
    intro h
    rcases Decimal.mem_ofInt64 line _ h with h | h <;> revert h <;> decide
  have hcount : ch ',' ∉ Decimal.ofUInt64 count := by
    intro h
    have := Decimal.isDigit_of_mem_ofNat _ _ h
    revert this
    decide
  unfold addData
  rw [Bytes.splitOn_append_sep _ hline, Bytes.splitOn_eq_singleton hcount]
  simp only [Decimal.signed_ofInt64, Decimal.unsigned_ofUInt64]
  rfl

theorem takes_dataTexts (entries : List (Int64 × UInt64)) (done : List Record) (name : Bytes) (rec : Record) :
    Takes ⟨done, name, some rec⟩ (dataTexts entries)
      ⟨done, name, some { rec with
        lines := entries.foldl (fun t e => t.alter e.1 fun old => some (old.getD 0 + e.2)) rec.lines }⟩ := by
  induction entries generalizing rec with
  | nil => exact .nil _
  | cons entry rest ih =>
    obtain ⟨line, count⟩ := entry
    refine .cons ?_ ?_ (ih { rec with lines := rec.lines.alter line fun old => some (old.getD 0 + count) })
    · have htag : (utf8 "DA").length = 2 := by decide
      have h1 := Decimal.length_ofInt64_le line
      have h2 := Decimal.length_ofNat_le count.toNat count.toNat_lt
      simp only [dataText, Decimal.ofUInt64, List.length_append, List.length_cons, htag, lineLimit]
      omega
    · simp only [Space.trim_of_visible (isVisible_dataText line count)]
      exact step_entry (by decide) rfl (addData_text rec line count)

theorem foldl_alter_toList (lines : LineCount) :
    lines.toList.foldl (fun t e => t.alter e.1 fun old => some (old.getD 0 + e.2)) (∅ : LineCount) = lines := by
  apply Std.ExtTreeMap.ext_getElem?
  intro line
  refine (Maps.getElem?_foldl_alter_of_perm (.refl _) (fun n old => some (old.getD 0 + n)) ∅ line).trans ?_
  cases h : lines[line]? <;> simp

theorem addEntry_hit (rec : Record) {n : Nat} (h : n < signedLimit) :
    addEntry rec (utf8 "LH") (Decimal.ofNat n) = .ok { rec with linesHit := Int64.ofNat n } := by
  unfold addEntry
  rw [if_neg (by decide), if_pos rfl, Decimal.signed_ofNat n h]

theorem addEntry_found (rec : Record) {n : Nat} (h : n < signedLimit) :
    addEntry rec (utf8 "LF") (Decimal.ofNat n) = .ok { rec with linesFound := Int64.ofNat n } := by
  unfold addEntry
  rw [if_neg (by decide), if_neg (by decide), Decimal.signed_ofNat n h]

theorem takes_totalText {st : State} {rec rec' : Record} {key : String} {n : Nat} (hopen : st.current = some rec)
    (hkey : isEntryKey (utf8 key) = true) (hadd : addEntry rec (utf8 key) (Decimal.ofNat n) = .ok rec')
    (hn : n < signedLimit) {rest : List Bytes} {st' : State}
    (hrest : Takes { st with current := some rec' } rest st') : Takes st (totalText key n :: rest) st' := by
  have hkeys : utf8 key = utf8 "DA" ∨ utf8 key = utf8 "LH" ∨ utf8 key = utf8 "LF" := by
    simpa [isEntryKey, or_assoc] using hkey
  have hvisible : ∀ b ∈ utf8 key, Space.isVisible b = true := by
    rw [← List.all_eq_true]
    rcases hkeys with h | h | h <;> rw [h] <;> decide
  have hlen : (utf8 key).length = 2 := by
    rcases hkeys with h | h | h <;> rw [h] <;> decide
  refine .cons ?_ ?_ hrest
  · have := Decimal.length_ofNat_le n (Nat.lt_trans hn (by decide))
    simp only [totalText, List.length_append, List.length_cons, hlen, lineLimit]
    omega
  · rw [Space.trim_of_visible (isVisible_totalText hvisible n)]
    exact step_entry hkey hopen hadd

def recordOf (file : Bytes) (lines : LineCount) : Record :=
  ⟨[], file, lines, Int64.ofNat (hitLines lines), Int64.ofNat lines.size⟩

theorem hitLines_le (lines : LineCount) : hitLines lines ≤ lines.size := by
  unfold hitLines
  rw [← Std.ExtTreeMap.length_toList]
  exact List.length_filter_le _ _

theorem takes_recordLines {file : Bytes} {lines : LineCount} (hfile : Readable file)
    (hsize : lines.size < signedLimit) (done : List Record) :
    Takes ⟨done, [], none⟩ (recordLines file lines) ⟨recordOf file lines :: done, [], none⟩ := by
  have hhit : hitLines lines < signedLimit := Nat.lt_of_le_of_lt (hitLines_le lines) hsize
  have hhead : Takes ⟨done, [], none⟩ [utf8 "TN" ++ [ch ':'], utf8 "SF" ++ ch ':' :: file]
      ⟨done, [], some ⟨[], file, ∅, 0, 0⟩⟩ := by
    refine .cons (by decide) (step_testName _ []) (.cons ?_ ?_ (.nil _))
    · have htag : (utf8 "SF").length = 2 := by decide
      have := hfile.short
      simp only [List.length_append, List.length_cons, htag]
      omega
    · have htrim : Space.trim (utf8 "SF" ++ ch ':' :: file) = utf8 "SF" ++ ch ':' :: file := by
        have htag : utf8 "SF" = [ch 'S', ch 'F'] := by decide
        rw [htag]
        apply Space.trim_eq_self (by decide)
        have hcolon : Space.isVisible (ch ':') = true := by decide
        exact fun h => hfile.trimmed ((Space.endsInSpace_append_cons [ch 'S', ch 'F'] file hcolon).1 h)
      rw [htrim]
      exact step_sourceFile file rfl
  have hdata := takes_dataTexts lines.toList done [] ⟨[], file, ∅, 0, 0⟩
  rw [foldl_alter_toList] at hdata
  refine (hhead.append hdata).append ?_
  refine takes_totalText rfl (by decide) (addEntry_hit _ hhit) hhit ?_
  refine takes_totalText rfl (by decide) (addEntry_found _ hsize) hsize ?_
  exact .cons (by decide) (step_endMark rfl) (.nil _)

theorem takes_files {files : List (Bytes × LineCount)}
    (h : ∀ e ∈ files, Readable e.1 ∧ e.2.size < signedLimit) (done : List Record) :
    Takes ⟨done, [], none⟩ (files.flatMap fun (file, lines) => recordLines file lines)
      ⟨(files.map fun (file, lines) => recordOf file lines).reverse ++ done, [], none⟩ := by
  induction files generalizing done with
  | nil => exact .nil _
  | cons entry rest ih =>
    obtain ⟨file, lines⟩ := entry
    obtain ⟨hfile, hsize⟩ := h (file, lines) List.mem_cons_self
    have hrest := ih (fun e he => h e (List.mem_cons_of_mem _ he)) (recordOf file lines :: done)
    rw [List.flatMap_cons, List.map_cons, List.reverse_cons, List.append_assoc]
    exact (takes_recordLines hfile hsize done).append hrest

/-! ## The round trip -/

theorem parse_textOf {cov : FileLines}
    (hsize : ∀ (file : Bytes) (lines : LineCount), cov[file]? = some lines → lines.size < signedLimit)
    (hfiles : ∀ file ∈ cov, Readable file) :
    parse (textOf cov) = .ok (cov.toList.map fun (file, lines) => recordOf file lines) := by
  have hentries : ∀ e ∈ cov.toList, Readable e.1 ∧ e.2.size < signedLimit := by
    rintro ⟨file, lines⟩ he
    rw [Std.ExtTreeMap.mem_toList_iff_getElem?_eq_some] at he
    refine ⟨hfiles file ?_, hsize file lines he⟩
    rw [Std.ExtTreeMap.mem_iff_isSome_getElem?, he]
    rfl
  rw [parse_eq_ok_iff]
  by_cases hempty : cov.isEmpty = true
  · have hnil : cov.toList = [] := by
      rw [← List.isEmpty_iff, Std.ExtTreeMap.isEmpty_toList]
      exact hempty
    refine ⟨.start, ?_, rfl, by simp [hnil, State.start]⟩
    rw [textOf, if_pos hempty]
    exact .cons (by decide) (step_testName .start []) (.nil _)
  · have hlines : textOf cov = unlines (cov.toList.flatMap fun (file, lines) => recordLines file lines) := by
      rw [textOf, if_neg hempty]
      simp only [recordText_eq, unlines, List.flatMap_assoc]
    have hnewline : ∀ l ∈ cov.toList.flatMap (fun (file, lines) => recordLines file lines), newline ∉ l := by
      intro l hl
      obtain ⟨e, he, hl⟩ := List.mem_flatMap.1 hl
      exact newline_not_mem_recordLines e.2 (hentries e he).1.oneLine l hl
    rw [hlines, linesOf_unlines hnewline]
    exact ⟨_, takes_files hentries [], rfl, by simp⟩

/-- A tracefile is read back as it was written, one record for each file by name, exactly if every file
name is a line of its own: without a newline, without white space at its end, and short enough. -/
theorem parse_written_iff (s : Store) (cov : FileLines)
    (hsize : ∀ (file : Bytes) (lines : LineCount), cov[file]? = some lines → lines.size < 2 ^ 63) :
    (encode s false cov).2 = none ∧ (cov.toList.map Prod.fst).Pairwise (· < ·) ∧
      (parse (written (encode s false cov)) =
          .ok (cov.toList.map fun (file, lines) =>
            ⟨[], file, lines, Int64.ofNat (hitLines lines), Int64.ofNat lines.size⟩) ↔
        ∀ file ∈ cov, newline ∉ file ∧ ¬ Space.EndsInSpace file ∧ file.length < 2 ^ 20 - 3) := by
  refine ⟨(encode_unchecked s cov).1, ?_, ?_⟩
  · rw [Std.ExtTreeMap.map_fst_toList_eq_keys]
    exact Maps.keys_ascending cov
  rw [written_encode]
  constructor
  · intro h file hfile
    have hmem : ∃ lines, (file, lines) ∈ cov.toList := by
      rw [Std.ExtTreeMap.mem_iff_isSome_getElem?, Option.isSome_iff_exists] at hfile
      obtain ⟨lines, hlines⟩ := hfile
      exact ⟨lines, Std.ExtTreeMap.mem_toList_iff_getElem?_eq_some.2 hlines⟩
    obtain ⟨lines, hlines⟩ := hmem
    have hread := readable_of_parse h _ (List.mem_map_of_mem hlines)
    exact ⟨hread.oneLine, hread.trimmed, hread.short⟩
  · intro h
    exact parse_textOf hsize fun file hfile => ⟨(h file hfile).1, (h file hfile).2.1, (h file hfile).2.2⟩

/-- A file with the name of an entry, the greatest count and a line before the first, beside a file
without lines. -/
def trickyFiles : FileLines :=
  ((∅ : FileLines).insert [] ∅).insert (utf8 "DA:1,2")
    (((∅ : LineCount).insert (-7) 0).insert 3 0xFFFFFFFFFFFFFFFF)

theorem trickyFiles_read_back :
    (∀ file ∈ trickyFiles, newline ∉ file ∧ ¬ Space.EndsInSpace file ∧ file.length < 2 ^ 20 - 3) ∧
      parse (written (encode (.memory .empty) false trickyFiles)) =
        .ok (trickyFiles.toList.map fun (file, lines) =>
          ⟨[], file, lines, Int64.ofNat (hitLines lines), Int64.ofNat lines.size⟩) := by
  have hfiles : ∀ file ∈ trickyFiles, newline ∉ file ∧ ¬ Space.EndsInSpace file ∧ file.length < 2 ^ 20 - 3 := by
    intro file hfile
    have hcases : utf8 "DA:1,2" = file ∨ [] = file := by simpa [trickyFiles] using hfile
    rcases hcases with rfl | rfl <;> decide
  refine ⟨hfiles, (parse_written_iff _ _ ?_).2.2.2 hfiles⟩
  intro file lines h
  simp only [trickyFiles, Maps.getElem?_insert_eq] at h
  split at h
  · cases h
    decide
  · split at h
    · cases h
      decide
    · simp at h

end Tracefile

end LineCoverage
