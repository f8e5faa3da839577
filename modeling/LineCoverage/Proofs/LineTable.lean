import LineCoverage.Proofs.Maps
import LineCoverage.Symbols
import LineCoverage.Tracefile.Record

/-!
# From address counts to the text of a tracefile

A line counts as often as all its rows together, and the tracefile shows the lines of a table in order.
-/

namespace LineCoverage

namespace LineTable

/-! ## What a tracefile shows of a table -/

def rowsAt (t : LineTable) (file : Bytes) (line : Int64) : List Row :=
  t.rows.filter fun r => r.file = file ∧ r.line = line

/-- The lines of a file, each once, in ascending order. -/
def linesIn (t : LineTable) (file : Bytes) : List Int64 :=
  Maps.ascending ((t.rows.filter fun r => r.file = file).map (·.line))

/-- The count of a line, modulo 2 ^ 64, if an address counts as often as `weight` says. -/
def total (t : LineTable) (weight : UInt64 → Nat) (file : Bytes) (line : Int64) : UInt64 :=
  UInt64.ofNat ((t.rowsAt file line).map fun r => weight r.address).sum

def entriesOf (t : LineTable) (weight : UInt64 → Nat) (file : Bytes) : List (Int64 × UInt64) :=
  (t.linesIn file).map fun line => (line, t.total weight file line)

/-- The files that are shown: all, or those with a line that counts. -/
def shownFiles (t : LineTable) (weight : UInt64 → Nat) (coveredFilesOnly : Bool) : List Bytes :=
  t.files.filter fun file => !coveredFilesOnly || (t.entriesOf weight file).any fun e => e.2 ≠ 0

def recordOf (file : Bytes) (entries : List (Int64 × UInt64)) : Bytes :=
  utf8 "TN:\n" ++ utf8 "SF:" ++ file ++ utf8 "\n" ++
    entries.flatMap (fun e =>
      utf8 "DA:" ++ Decimal.ofInt64 e.1 ++ utf8 "," ++ Decimal.ofUInt64 e.2 ++ utf8 "\n") ++
    utf8 "LH:" ++ Decimal.ofNat (entries.countP fun e => 0 < e.2) ++ utf8 "\n" ++
    utf8 "LF:" ++ Decimal.ofNat entries.length ++ utf8 "\n" ++
    utf8 "end_of_record\n"

/-- The text of the tracefile: the records of the files that are shown, or a test name alone. -/
def report (t : LineTable) (weight : UInt64 → Nat) (coveredFilesOnly : Bool) : Bytes :=
  match t.shownFiles weight coveredFilesOnly with
  | [] => utf8 "TN:\n"
  | files => files.flatMap fun file => recordOf file (t.entriesOf weight file)

/-! ## What the counts of a table are -/

def addRow (counts : AddressCount) (r : Row) (lines : LineCount) : LineCount :=
  lines.alter r.line fun old => some (old.getD 0 + AddressCount.count counts r.address)

def linesOf (t : LineTable) (counts : AddressCount) (file : Bytes) : LineCount :=
  (t.rows.filter fun r => r.file = file).foldl (fun lines r => addRow counts r lines) ∅

variable (t : LineTable) (counts : AddressCount)

theorem getElem?_coverage (file : Bytes) :
    (t.coverage counts)[file]? =
      if (t.rows.filter fun r => r.file = file) = [] then none else some (t.linesOf counts file) := by
  have hfold := Maps.getElem?_foldl_alter t.rows (fun r => r.file)
    (fun r lines => some (addRow counts r (lines.getD ∅))) (∅ : FileLines) file
  rw [Std.ExtTreeMap.getElem?_empty, Maps.foldl_some_getD] at hfold
  exact hfold

variable {weight : UInt64 → Nat} {counts}

theorem getElem?_linesOf (hcounts : ∀ a, AddressCount.count counts a = UInt64.ofNat (weight a)) (file : Bytes)
    (line : Int64) :
    (t.linesOf counts file)[line]? =
      if t.rowsAt file line = [] then none else some (t.total weight file line) := by
  have hrows : ((t.rows.filter fun r => r.file = file).filter fun r => r.line = line) = t.rowsAt file line := by
    simp only [rowsAt, List.filter_filter, Bool.decide_and, Bool.and_comm]
  have hfold := Maps.getElem?_foldl_alter (t.rows.filter fun r => r.file = file) (fun r => r.line)
    (fun r old => some (old.getD 0 + AddressCount.count counts r.address)) (∅ : LineCount) line
  rw [Std.ExtTreeMap.getElem?_empty, hrows,
    Maps.foldl_some_getD _ (fun (r : Row) n => n + AddressCount.count counts r.address)] at hfold
  have hsum := Maps.foldl_add_word UInt64.ofNat UInt64.ofNat_add (t.rowsAt file line) (fun r => weight r.address) 0
  simp only [← hcounts, Nat.zero_add] at hsum
  refine hfold.trans ?_
  rw [total, ← hsum]
  rfl

theorem toList_linesOf (hcounts : ∀ a, AddressCount.count counts a = UInt64.ofNat (weight a)) (file : Bytes) :
    (t.linesOf counts file).toList = t.entriesOf weight file := by
  apply Maps.toList_eq_map_of_sorted (Maps.pairwise_ascending _)
  intro line n
  have hmem : line ∈ t.linesIn file ↔ t.rowsAt file line ≠ [] := by
    simp [linesIn, rowsAt, List.filter_eq_nil_iff, and_assoc]
  change _ ↔ line ∈ t.linesIn file ∧ _
  rw [getElem?_linesOf t hcounts, hmem, Option.ite_none_left_eq_some, Option.some.injEq, eq_comm (a := n)]

theorem toList_coverage : (t.coverage counts).toList = t.files.map fun file => (file, t.linesOf counts file) := by
  have hfiles : t.files = Maps.ascending (t.rows.map (·.file)) := rfl
  rw [hfiles]
  apply Maps.toList_eq_map_of_sorted (Maps.pairwise_ascending _)
  intro file lines
  have hmem : file ∈ Maps.ascending (t.rows.map (·.file)) ↔ (t.rows.filter fun r => r.file = file) ≠ [] := by
    simp [List.filter_eq_nil_iff]
  rw [getElem?_coverage, hmem, Option.ite_none_left_eq_some, Option.some.injEq, eq_comm (a := lines)]

/-! ## The text -/

theorem recordText_linesOf (hcounts : ∀ a, AddressCount.count counts a = UInt64.ofNat (weight a)) (file : Bytes) :
    Tracefile.recordText file (t.linesOf counts file) = recordOf file (t.entriesOf weight file) := by
  have hhead : utf8 "TN:\nSF:" = utf8 "TN:\n" ++ utf8 "SF:" := by decide
  have hnewline : utf8 "\n" = [newline] := by decide
  have hcomma : utf8 "," = [ch ','] := by decide
  have hfound : utf8 "\nLF:" = newline :: utf8 "LF:" := by decide
  have hend : utf8 "\nend_of_record\n" = newline :: utf8 "end_of_record\n" := by decide
  have hhit : Tracefile.hitLines (t.linesOf counts file) = (t.entriesOf weight file).countP fun e => 0 < e.2 := by
    rw [Tracefile.hitLines, toList_linesOf t hcounts, List.countP_eq_length_filter]
  have hsize : (t.linesOf counts file).size = (t.entriesOf weight file).length := by
    rw [← Std.ExtTreeMap.length_toList, toList_linesOf t hcounts]
  simp only [Tracefile.recordText, Tracefile.recordPieces, toList_linesOf t hcounts, hhit, hsize, recordOf,
    Tracefile.totals, hhead, hfound, hend, hnewline, hcomma]
  simp [Tracefile.dataLine, List.flatMap]

theorem isCovered_linesOf (hcounts : ∀ a, AddressCount.count counts a = UInt64.ofNat (weight a)) (file : Bytes) :
    LineCount.isCovered (t.linesOf counts file) = (t.entriesOf weight file).any fun e => e.2 ≠ 0 := by
  rw [LineCount.isCovered, toList_linesOf t hcounts]
  simp [UInt64.pos_iff_ne_zero]

theorem toList_mapLines (hcounts : ∀ a, AddressCount.count counts a = UInt64.ofNat (weight a)) (only : Bool) :
    (Symbols.mapLines t counts only).toList =
      (t.shownFiles weight only).map fun file => (file, t.linesOf counts file) := by
  unfold Symbols.mapLines shownFiles
  cases only with
  | false =>
    have hall : (t.files.filter fun file => !false || (t.entriesOf weight file).any fun e => e.2 ≠ 0) = t.files :=
      List.filter_eq_self.2 fun file _ => rfl
    rw [hall]
    exact toList_coverage t
  | true =>
    simp only [if_true, FileLines.dropUncovered, Std.ExtTreeMap.toList_filter, toList_coverage, List.filter_map]
    simp [Function.comp_def, isCovered_linesOf t hcounts]

theorem textOf_mapLines (hcounts : ∀ a, AddressCount.count counts a = UInt64.ofNat (weight a)) (only : Bool) :
    Tracefile.textOf (Symbols.mapLines t counts only) = t.report weight only := by
  have hlist := toList_mapLines t hcounts only
  have hempty : (Symbols.mapLines t counts only).isEmpty = (t.shownFiles weight only).isEmpty := by
    rw [← Std.ExtTreeMap.isEmpty_toList, hlist, List.isEmpty_map]
  unfold Tracefile.textOf report
  rw [hempty, hlist]
  cases t.shownFiles weight only with
  | nil => rfl
  | cons file rest => simp [recordText_linesOf t hcounts, List.flatMap_map]

end LineTable

end LineCoverage
