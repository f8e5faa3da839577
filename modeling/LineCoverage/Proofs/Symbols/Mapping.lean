import LineCoverage.Proofs.LineTable

/-!
# From addresses to lines

Symbols that have a line table for a module count each of its lines as often as the rows of the line together,
whatever order the rows come in.
-/

namespace LineCoverage

/-! ## Entries -/

namespace FileLines

/-- The count of a line of a file, if it has one. -/
def entry (cov : FileLines) (file : Bytes) (line : Int64) : Option UInt64 :=
  cov[file]?.bind fun lines => lines[line]?

end FileLines

/-! ## What a table makes of counts -/

namespace LineTable

/-- How often a line counts: as often as all its rows, modulo 2 ^ 64. -/
def lineTotal (t : LineTable) (counts : AddressCount) (file : Bytes) (line : Int64) : Nat :=
  ((t.rowsAt file line).map fun r => (AddressCount.count counts r.address).toNat).sum % 2 ^ 64

variable (t : LineTable) (counts : AddressCount)

theorem count_eq_ofNat (counts : AddressCount) (a : UInt64) :
    AddressCount.count counts a = UInt64.ofNat (AddressCount.count counts a).toNat :=
  UInt64.ofNat_toNat.symm

theorem toNat_total (file : Bytes) (line : Int64) :
    (t.total (fun a => (AddressCount.count counts a).toNat) file line).toNat = t.lineTotal counts file line :=
  UInt64.toNat_ofNat'

theorem rowsAt_ne_nil_iff {file : Bytes} {line : Int64} :
    t.rowsAt file line ≠ [] ↔ ∃ r ∈ t.rows, r.file = file ∧ r.line = line := by
  simp [rowsAt, List.filter_eq_nil_iff]

theorem lineTotal_eq_zero {file : Bytes} {line : Int64} (h : t.rowsAt file line = []) :
    t.lineTotal counts file line = 0 := by
  simp [lineTotal, h]

theorem any_entriesOf_iff (file : Bytes) :
    ((t.entriesOf (fun a => (AddressCount.count counts a).toNat) file).any fun e => e.2 ≠ 0) = true ↔
      ∃ line, t.lineTotal counts file line ≠ 0 := by
  -- A line without rows has no total, so none that counts is missing from the lines of the file.
  have hmem : ∀ line, line ∈ t.linesIn file ↔ t.rowsAt file line ≠ [] := by
    intro line
    simp [linesIn, rowsAt, List.filter_eq_nil_iff, and_assoc]
  have hzero : ∀ line, t.total (fun a => (AddressCount.count counts a).toNat) file line ≠ 0 ↔
      t.lineTotal counts file line ≠ 0 := by
    intro line
    rw [← toNat_total, ne_eq, ne_eq, ← UInt64.toNat_inj]
    rfl
  simp only [entriesOf, List.any_map, List.any_eq_true, Function.comp_apply, decide_eq_true_eq, hmem, hzero]
  constructor
  · rintro ⟨line, -, hline⟩
    exact ⟨line, hline⟩
  · rintro ⟨line, hline⟩
    exact ⟨line, fun hnil => hline (t.lineTotal_eq_zero counts hnil), hline⟩

end LineTable

namespace Symbols

open LineTable

variable (t : LineTable) (counts : AddressCount) (only : Bool)

theorem mem_mapLines (file : Bytes) :
    file ∈ mapLines t counts only ↔
      (∃ r ∈ t.rows, r.file = file) ∧ (only = true → ∃ line, t.lineTotal counts file line ≠ 0) := by
  have hfiles : file ∈ t.files ↔ ∃ r ∈ t.rows, r.file = file := by
    change file ∈ Maps.ascending (t.rows.map (·.file)) ↔ _
    rw [Maps.mem_ascending, List.mem_map]
  have hlist := toList_mapLines t (count_eq_ofNat counts) only
  rw [← Std.ExtTreeMap.mem_keys, ← Std.ExtTreeMap.map_fst_toList_eq_keys, hlist, List.map_map, shownFiles]
  cases only with
  | false => simp [hfiles]
  | true => simp only [List.map_id', Function.comp_def, List.mem_filter, Bool.not_true, Bool.false_or, hfiles,
      any_entriesOf_iff, forall_const]

theorem entry_mapLines_eq_some_iff {file : Bytes} {line : Int64} {n : UInt64} :
    (mapLines t counts only).entry file line = some n ↔
      file ∈ mapLines t counts only ∧ (∃ r ∈ t.rows, r.file = file ∧ r.line = line) ∧
        n.toNat = t.lineTotal counts file line := by
  rw [FileLines.entry, Std.ExtTreeMap.mem_iff_isSome_getElem?]
  cases hfile : (mapLines t counts only)[file]? with
  | none => simp
  | some lines =>
    have hmem := Std.ExtTreeMap.mem_toList_iff_getElem?_eq_some.2 hfile
    rw [toList_mapLines t (count_eq_ofNat counts) only] at hmem
    obtain ⟨_, -, heq⟩ := List.mem_map.1 hmem
    obtain ⟨rfl, rfl⟩ := Prod.mk.inj heq
    rw [Option.bind_some, getElem?_linesOf t (count_eq_ofNat counts), Option.ite_none_left_eq_some,
      ← rowsAt_ne_nil_iff, Option.some.injEq, ← toNat_total, UInt64.toNat_inj, eq_comm (a := n)]
    simp

theorem isSome_entry_mapLines_iff {file : Bytes} {line : Int64} :
    ((mapLines t counts only).entry file line).isSome ↔
      file ∈ mapLines t counts only ∧ ∃ r ∈ t.rows, r.file = file ∧ r.line = line := by
  rw [Option.isSome_iff_exists]
  simp only [entry_mapLines_eq_some_iff]
  constructor
  · rintro ⟨n, hfile, hrow, -⟩
    exact ⟨hfile, hrow⟩
  · rintro ⟨hfile, hrow⟩
    exact ⟨_, hfile, hrow, toNat_total t counts file line⟩

/-! ## The order of the rows -/

theorem coverage_perm {t t' : LineTable} (h : t'.rows.Perm t.rows) : t'.coverage counts = t.coverage counts := by
  have hlines : ∀ file, t'.linesOf counts file = t.linesOf counts file := by
    intro file
    apply Std.ExtTreeMap.ext_getElem?
    intro line
    have hrows : (t'.rowsAt file line).Perm (t.rowsAt file line) := h.filter _
    rw [getElem?_linesOf t' (count_eq_ofNat counts), getElem?_linesOf t (count_eq_ofNat counts), total, total,
      (hrows.map _).sum_eq]
    simp only [← List.isEmpty_iff, hrows.isEmpty_eq]
  apply Std.ExtTreeMap.ext_getElem?
  intro file
  simp only [getElem?_coverage, ← List.isEmpty_iff, (h.filter _).isEmpty_eq, hlines]

theorem mapLines_perm {t t' : LineTable} (h : t'.rows.Perm t.rows) :
    mapLines t' counts only = mapLines t counts only := by
  unfold mapLines
  rw [coverage_perm counts h]

/-! ## Symbols that have a table -/

/-- The symbols have a table for a module: they find its binary, and keep the table of it or can load it. -/
def Has (sym : Symbols) (s : Store) (module : Bytes) (t : LineTable) : Prop :=
  ∃ path, sym.locate s module = .ok path ∧ (sym.lineTable s path).1 = .ok t

theorem coverage_of_has {sym : Symbols} {s : Store} {module : Bytes} {t : LineTable} (h : sym.Has s module t) :
    (sym.coverage s false module counts only).1 = .ok (mapLines t counts only) := by
  obtain ⟨path, hpath, htable⟩ := h
  simp only [coverage, hpath, htable, Bool.false_eq_true, if_false]
  rfl

/-- What symbols make of the address counts of a module. There is an entry for a line exactly if the table has a
row for it and, when only covered files are kept, some line of the file has a total other than zero. Its count is
the sum of the counts of its rows, modulo 2 ^ 64. No file is without entries, symbols that have the same rows in
another order give the same, and without a choice of files they are those of the table. -/
theorem coverage_sums_rows {sym : Symbols} {s : Store} {module : Bytes} {t : LineTable} (h : sym.Has s module t)
    (counts : AddressCount) (only : Bool) :
    ∃ cov, (sym.coverage s false module counts only).1 = .ok cov ∧
      (∀ file line, (cov.entry file line).isSome ↔
        (∃ r ∈ t.rows, r.file = file ∧ r.line = line) ∧
          (only = true → ∃ l, t.lineTotal counts file l ≠ 0)) ∧
      (∀ file line n, cov.entry file line = some n → n.toNat = t.lineTotal counts file line) ∧
      (∀ file, file ∈ cov ↔ ∃ line, (cov.entry file line).isSome) ∧
      (∀ (sym' : Symbols) (s' : Store) (module' : Bytes) (t' : LineTable), t'.rows.Perm t.rows →
        sym'.Has s' module' t' → (sym'.coverage s' false module' counts only).1 = .ok cov) ∧
      (only = false → cov.keys = t.files) := by
  refine ⟨mapLines t counts only, coverage_of_has counts only h, ?_, ?_, ?_, ?_, ?_⟩
  · intro file line
    rw [isSome_entry_mapLines_iff, mem_mapLines]
    constructor
    · rintro ⟨⟨-, hcovered⟩, hrow⟩
      exact ⟨hrow, hcovered⟩
    · rintro ⟨⟨r, hr, hfile, hline⟩, hcovered⟩
      exact ⟨⟨⟨r, hr, hfile⟩, hcovered⟩, r, hr, hfile, hline⟩
  · intro file line n hn
    exact ((entry_mapLines_eq_some_iff t counts only).1 hn).2.2
  · intro file
    simp only [isSome_entry_mapLines_iff]
    constructor
    · intro hfile
      obtain ⟨r, hr, heq⟩ := ((mem_mapLines t counts only file).1 hfile).1
      exact ⟨r.line, hfile, r, hr, heq, rfl⟩
    · rintro ⟨_, hfile, -⟩
      exact hfile
  · intro sym' s' module' t' hperm h'
    rw [coverage_of_has counts only h', mapLines_perm counts only hperm]
  · rintro rfl
    rw [← Std.ExtTreeMap.map_fst_toList_eq_keys]
    simp [mapLines, toList_coverage, Function.comp_def]

/-- A row that comes twice, a second address of the same line, and a file that was not reached. -/
def sharedRows : LineTable := ⟨[⟨16, "a.c", 1⟩, ⟨16, "a.c", 1⟩, ⟨17, "a.c", 1⟩, ⟨18, "b.c", 2⟩]⟩

def keeping (t : LineTable) : Symbols := ⟨[], ⟨1, [("m", t)]⟩⟩

def oneBinary : Store := .memory (Memory.empty.putFile "m" [])

theorem keeping_has (t : LineTable) : (keeping t).Has oneBinary "m" t := ⟨"m", by cbv, rfl⟩

/-- The first three rows count together; the file of the last one is left out. -/
theorem coverage_sums_rows_shared :
    let counts : AddressCount := (Std.ExtTreeMap.insert ∅ 16 3).insert 17 1
    (keeping sharedRows).Has oneBinary "m" sharedRows ∧
    ∃ cov, ((keeping sharedRows).coverage oneBinary false "m" counts true).1 = .ok cov ∧
      (∃ n, cov.entry "a.c" 1 = some n ∧ n.toNat = 7) ∧ utf8 "b.c" ∉ cov ∧
      ((keeping ⟨sharedRows.rows.reverse⟩).coverage oneBinary false "m" counts true).1 = .ok cov := by
  intro counts
  have htotal : sharedRows.lineTotal counts "a.c" 1 = 7 := by decide +kernel
  have hnone : ∀ line, sharedRows.lineTotal counts "b.c" line = 0 := by
    intro line
    by_cases hline : line = 2
    · subst hline
      decide +kernel
    · apply lineTotal_eq_zero
      have hfile : utf8 "a.c" ≠ utf8 "b.c" := by decide
      simp [rowsAt, sharedRows, hfile, Ne.symm hline]
  obtain ⟨cov, hcov, hlines, hcounts, hfiles, horder, -⟩ := coverage_sums_rows (keeping_has sharedRows) counts true
  refine ⟨keeping_has sharedRows, cov, hcov, ?_, ?_, horder _ _ _ _ (List.reverse_perm _) (keeping_has _)⟩
  · have hsome := (hlines "a.c" 1).2 ⟨⟨_, List.mem_cons_self, rfl, rfl⟩, fun _ => ⟨1, by rw [htotal]; decide⟩⟩
    obtain ⟨n, hn⟩ := Option.isSome_iff_exists.1 hsome
    exact ⟨n, hn, (hcounts _ _ _ hn).trans htotal⟩
  · rw [hfiles]
    rintro ⟨line, hsome⟩
    obtain ⟨l, hl⟩ := ((hlines _ _).1 hsome).2 rfl
    exact hl (hnone l)

end Symbols

end LineCoverage
