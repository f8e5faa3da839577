import LineCoverage.Bytes
import Mathlib

/-! # Byte strings: their order, splitting, cutting and endings -/

namespace LineCoverage

namespace Bytes

/-! ## Order -/

theorem compare_byte (a b : UInt8) : (compare a b = .lt ↔ a < b) ∧ (compare a b = .eq ↔ a = b) := by
  simp only [compare, compareOfLessAndEq]
  constructor <;> (split <;> (try split) <;> grind)

theorem compare_eq_lt_iff (a b : Bytes) : compare a b = .lt ↔ a < b := by
  change List.compareLex compare a b = .lt ↔ a < b
  induction a generalizing b with
  | nil => cases b <;> simp [List.compareLex]
  | cons x a ih =>
    cases b with
    | nil => simp [List.compareLex]
    | cons y b =>
      rw [List.compareLex_cons_cons, Ordering.then_eq_lt, List.cons_lt_cons_iff, ih, (compare_byte x y).1,
        (compare_byte x y).2]

theorem mergeSort_eq_of_perm {l l' : List Bytes} (h : l.Perm l') : l.mergeSort (· ≤ ·) = l'.mergeSort (· ≤ ·) := by
  have hsorted : ∀ l : List Bytes, (l.mergeSort (· ≤ ·)).Pairwise (fun a b => decide (a ≤ b) = true) := by
    refine List.pairwise_mergeSort (fun a b c hab hbc => ?_) (fun a b => ?_)
    · simp only [decide_eq_true_eq] at hab hbc ⊢
      exact List.le_trans hab hbc
    · simpa using List.le_total a b
  refine List.Perm.eq_of_pairwise (fun a b _ _ hab hba => ?_) (hsorted l) (hsorted l') ?_
  · simp only [decide_eq_true_eq] at hab hba
    exact List.le_antisymm hab hba
  · exact (List.mergeSort_perm l _).trans (h.trans (List.mergeSort_perm l' _).symm)

/-! ## Splitting -/

variable {sep : UInt8}

@[simp]
theorem splitOn_nil : splitOn sep [] = [[]] := rfl

theorem splitOn_ne_nil (s : Bytes) : splitOn sep s ≠ [] := by
  cases s with
  | nil => simp
  | cons b rest =>
    simp only [splitOn, List.foldr_cons]
    split
    · simp
    · split <;> simp

@[simp]
theorem splitOn_sep (rest : Bytes) : splitOn sep (sep :: rest) = [] :: splitOn sep rest := by
  simp [splitOn]

theorem splitOn_cons {b : UInt8} (h : b ≠ sep) {rest piece : Bytes} {pieces : List Bytes}
    (hrest : splitOn sep rest = piece :: pieces) : splitOn sep (b :: rest) = (b :: piece) :: pieces := by
  unfold splitOn at hrest ⊢
  rw [List.foldr_cons, hrest, if_neg h]

theorem splitOn_append (l rest : Bytes) : splitOn sep (l ++ sep :: rest) = splitOn sep l ++ splitOn sep rest := by
  induction l with
  | nil => simp
  | cons b l ih =>
    by_cases hb : b = sep
    · subst hb
      simp [ih]
    · obtain ⟨piece, pieces, hl⟩ := List.exists_cons_of_ne_nil (@splitOn_ne_nil sep l)
      rw [hl, List.cons_append] at ih
      rw [List.cons_append, splitOn_cons hb ih, splitOn_cons hb hl, List.cons_append]

theorem splitOn_eq_singleton {l : Bytes} (h : sep ∉ l) : splitOn sep l = [l] := by
  induction l with
  | nil => simp
  | cons b l ih =>
    rw [List.mem_cons, not_or] at h
    exact splitOn_cons (Ne.symm h.1) (ih h.2)

theorem splitOn_append_sep {l : Bytes} (rest : Bytes) (h : sep ∉ l) :
    splitOn sep (l ++ sep :: rest) = l :: splitOn sep rest := by
  rw [splitOn_append, splitOn_eq_singleton h, List.singleton_append]

theorem length_splitOn (s : Bytes) : (splitOn sep s).length = s.count sep + 1 := by
  induction s with
  | nil => rfl
  | cons b rest ih =>
    by_cases hb : b = sep
    · subst hb
      simp [ih]
    · obtain ⟨piece, pieces, hrest⟩ := List.exists_cons_of_ne_nil (@splitOn_ne_nil sep rest)
      rw [hrest] at ih
      rw [splitOn_cons hb hrest, List.count_cons_of_ne hb, ← ih]
      rfl

theorem mem_of_mem_splitOn (s : Bytes) : ∀ piece ∈ splitOn sep s, sep ∉ piece ∧ ∀ b ∈ piece, b ∈ s := by
  induction s with
  | nil => simp
  | cons b rest ih =>
    by_cases hb : b = sep
    · subst hb
      simp only [splitOn_sep, List.mem_cons]
      rintro piece (rfl | hpiece)
      · simp
      · exact ⟨(ih piece hpiece).1, fun c hc => .inr ((ih piece hpiece).2 c hc)⟩
    · obtain ⟨piece, pieces, hrest⟩ := List.exists_cons_of_ne_nil (@splitOn_ne_nil sep rest)
      rw [splitOn_cons hb hrest]
      rw [hrest] at ih
      simp only [List.mem_cons]
      rintro p (rfl | hp)
      · have h := ih piece List.mem_cons_self
        simp only [List.mem_cons, not_or]
        refine ⟨⟨Ne.symm hb, h.1⟩, ?_⟩
        rintro c (rfl | hc)
        · exact .inl rfl
        · exact .inr (h.2 c hc)
      · have h := ih p (List.mem_cons_of_mem _ hp)
        exact ⟨h.1, fun c hc => .inr (h.2 c hc)⟩

/-! ## Joining -/

@[simp]
theorem join_nil (sep : Bytes) : join sep [] = [] := rfl

@[simp]
theorem join_singleton (sep piece : Bytes) : join sep [piece] = piece := by simp [join]

theorem join_cons_cons (sep piece next : Bytes) (rest : List Bytes) :
    join sep (piece :: next :: rest) = piece ++ (sep ++ join sep (next :: rest)) := by
  simp [join]

theorem splitOn_join {pieces : List Bytes} (hne : pieces ≠ []) (h : ∀ piece ∈ pieces, sep ∉ piece) :
    splitOn sep (join [sep] pieces) = pieces := by
  induction pieces with
  | nil => exact absurd rfl hne
  | cons piece rest ih =>
    have hpiece := h piece List.mem_cons_self
    cases rest with
    | nil => rw [join_singleton, splitOn_eq_singleton hpiece]
    | cons next rest =>
      rw [join_cons_cons, List.singleton_append, splitOn_append_sep _ hpiece,
        ih (by simp) fun p hp => h p (List.mem_cons_of_mem _ hp)]

theorem join_append_singleton (sep last : Bytes) {pieces : List Bytes} (h : pieces ≠ []) :
    join sep (pieces ++ [last]) = join sep pieces ++ (sep ++ last) := by
  induction pieces with
  | nil => exact absurd rfl h
  | cons piece rest ih =>
    cases rest with
    | nil => simp [join_cons_cons]
    | cons next rest =>
      rw [join_cons_cons, List.append_assoc, List.append_assoc, ← ih (by simp)]
      rfl

theorem join_splitOn (s : Bytes) : join [sep] (splitOn sep s) = s := by
  induction s with
  | nil => rfl
  | cons b rest ih =>
    obtain ⟨piece, pieces, hrest⟩ := List.exists_cons_of_ne_nil (@splitOn_ne_nil sep rest)
    by_cases hb : b = sep
    · subst hb
      rw [splitOn_sep]
      rw [hrest] at ih ⊢
      rw [join_cons_cons, ih]
      rfl
    · rw [splitOn_cons hb hrest]
      rw [hrest] at ih
      cases pieces with
      | nil => simpa using ih
      | cons next pieces =>
        rw [join_cons_cons] at ih ⊢
        rw [List.cons_append, ih]

theorem splitOn_eq_iff {s : Bytes} {pieces : List Bytes} (hne : pieces ≠ []) :
    splitOn sep s = pieces ↔ s = join [sep] pieces ∧ ∀ piece ∈ pieces, sep ∉ piece := by
  constructor
  · rintro rfl
    exact ⟨(join_splitOn s).symm, fun piece hpiece => (mem_of_mem_splitOn s piece hpiece).1⟩
  · rintro ⟨rfl, hpieces⟩
    exact splitOn_join hne hpieces

/-! ## Cutting -/

theorem cut_append {key : Bytes} (value : Bytes) (h : sep ∉ key) :
    cut sep (key ++ sep :: value) = some (key, value) := by
  have hkey : ∀ b ∈ key, decide (b ≠ sep) = true := by
    intro b hb
    simpa using ne_of_mem_of_not_mem hb h
  simp only [cut, List.dropWhile_append_of_pos hkey, List.takeWhile_append_of_pos hkey]
  simp

theorem eq_of_cut_eq_some {s key value : Bytes} (h : cut sep s = some (key, value)) :
    s = key ++ sep :: value ∧ sep ∉ key := by
  unfold cut at h
  split at h
  · cases h
  · rename_i b after hdrop
    obtain ⟨rfl, rfl⟩ : s.takeWhile (· ≠ sep) = key ∧ after = value := by simpa using h
    have hb : b = sep := by
      have hne : s.dropWhile (· ≠ sep) ≠ [] := by rw [hdrop]; exact List.cons_ne_nil _ _
      have hhead := List.head_dropWhile_not _ hne
      simpa only [hdrop, List.head_cons, decide_eq_false_iff_not, Decidable.not_not] using hhead
    refine ⟨?_, fun hmem => ?_⟩
    · rw [← hb, ← hdrop, hb, List.takeWhile_append_dropWhile]
    · simpa using List.mem_takeWhile_imp hmem

/-! ## Endings -/

theorem getLast?_of_suffix {s t : Bytes} (h : s <:+ t) (hs : s ≠ []) : t.getLast? = s.getLast? := by
  obtain ⟨before, rfl⟩ := h
  rw [List.getLast?_append, Option.or_of_isSome (by simpa using hs)]

end Bytes

end LineCoverage
