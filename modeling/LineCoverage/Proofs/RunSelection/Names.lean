import LineCoverage.Proofs.RunSelection
import LineCoverage.Proofs.Text.Numeral

/-!
# Names of run directories

A name gives an index if it has three parts between dashes of which the last is a number that is not negative. It
is the name that the index is written back to only if the other parts are the usual ones and the number is as short
as can be. The name that an index is written to gives that index, unless it is negative: its sign is one dash more.
-/

namespace LineCoverage

open Decimal

namespace RunSelection

/-! ## Reading an index -/

/-- A name of three parts between dashes, the last of which is a number that is not negative. -/
def NamesIndex (name : Bytes) (index : Int64) : Prop :=
  ∃ first second number, name = first ++ ch '-' :: (second ++ ch '-' :: number) ∧
    ch '-' ∉ first ∧ ch '-' ∉ second ∧ ch '-' ∉ number ∧ IsSigned number index ∧ 0 ≤ index

theorem splitOn_three_iff {name first second number : Bytes} :
    name.splitOn (ch '-') = [first, second, number] ↔
      name = first ++ ch '-' :: (second ++ ch '-' :: number) ∧
        ch '-' ∉ first ∧ ch '-' ∉ second ∧ ch '-' ∉ number := by
  rw [Bytes.splitOn_eq_iff (List.cons_ne_nil _ _)]
  simp [Bytes.join_cons_cons]

theorem parseRunIndex_eq_ok_iff {name : Bytes} {index : Int64} :
    parseRunIndex name = .ok index ↔ NamesIndex name index := by
  unfold parseRunIndex
  constructor
  · intro h
    split at h
    · rename_i first second number hsplit
      obtain ⟨hname, hfirst, hsecond, hnumber⟩ := splitOn_three_iff.1 hsplit
      split at h
      · cases h
      · rename_i n hread
        split at h
        · cases h
        · rename_i hnonneg
          cases h
          exact ⟨first, second, number, hname, hfirst, hsecond, hnumber, signed_eq_ok_iff.1 hread,
            Int64.not_lt.1 hnonneg⟩
    · cases h
  · rintro ⟨first, second, number, hname, hfirst, hsecond, hnumber, hsigned, hnonneg⟩
    rw [splitOn_three_iff.2 ⟨hname, hfirst, hsecond, hnumber⟩]
    simp only [signed_eq_ok_iff.2 hsigned]
    rw [if_neg (Int64.not_lt.2 hnonneg)]

theorem NamesIndex.nonneg {name : Bytes} {index : Int64} (h : NamesIndex name index) : 0 ≤ index := by
  obtain ⟨_, _, _, _, _, _, _, _, hnonneg⟩ := h
  exact hnonneg

/-! ## Writing an index -/

theorem nonneg_iff_toInt {n : Int64} : 0 ≤ n ↔ 0 ≤ n.toInt := by
  rw [Int64.le_iff_toInt_le, Int64.toInt_zero]

theorem runDirName_injective {i j : Int64} (h : runDirName i = runDirName j) : i = j := by
  unfold runDirName at h
  have hnumber : ofInt64 i = ofInt64 j := (List.cons.inj (List.append_cancel_left h)).2
  have hread := signed_ofInt64 i
  rw [hnumber, signed_ofInt64] at hread
  exact (Except.ok.inj hread).symm

theorem ofInt64_of_nonneg {index : Int64} {n : Nat} (h : index.toInt = n) : ofInt64 index = ofNat n := by
  unfold ofInt64
  rw [h]
  rfl

/-- The usual parts with a number that is as short as can be. -/
def IsRunDirName (name : Bytes) : Prop := ∃ digits, name = runDirStem ++ ch '-' :: digits ∧ IsShortest digits

theorem splitOn_runDirStem {number : Bytes} (h : ch '-' ∉ number) :
    (runDirStem ++ ch '-' :: number).splitOn (ch '-') = [utf8 "s2e", utf8 "out", number] := by
  have hstem : runDirStem.splitOn (ch '-') = [utf8 "s2e", utf8 "out"] := by decide
  rw [Bytes.splitOn_append, hstem, Bytes.splitOn_eq_singleton h]
  rfl

theorem dash_not_mem_digits {digits : Bytes} (h : IsNumeral digits) : ch '-' ∉ digits := by
  intro hdash
  have hdigit := h.2 _ hdash
  rw [isDigit_sign.1] at hdigit
  cases hdigit

theorem toInt_of_numeral {digits : Bytes} {index : Int64} (hnumeral : IsNumeral digits) (h : IsSigned digits index) :
    index.toInt = valueFrom 0 digits := by
  have hdigit := hnumeral.2
  obtain ⟨digits', _, ⟨rfl | rfl, hvalue⟩ | ⟨rfl, hvalue⟩⟩ := h
  · exact hvalue
  · have hplus := hdigit _ List.mem_cons_self
    rw [isDigit_sign.2] at hplus
    cases hplus
  · have hminus := hdigit _ List.mem_cons_self
    rw [isDigit_sign.1] at hminus
    cases hminus

theorem ofInt64_eq_ofNat {index : Int64} (h : 0 ≤ index) : ofInt64 index = ofNat index.toInt.toNat := by
  have hle := nonneg_iff_toInt.1 h
  apply ofInt64_of_nonneg
  omega

theorem namesIndex_runDirName {index : Int64} (h : 0 ≤ index) : NamesIndex (runDirName index) index := by
  have hdash : ch '-' ∉ ofInt64 index := by
    rw [ofInt64_eq_ofNat h]
    exact dash_not_mem_digits ⟨ofNat_ne_nil _, isDigit_of_mem_ofNat _⟩
  have hsplit := splitOn_three_iff.1 (splitOn_runDirStem hdash)
  exact ⟨_, _, _, hsplit.1, hsplit.2.1, hsplit.2.2.1, hsplit.2.2.2, signed_eq_ok_iff.1 (signed_ofInt64 index), h⟩

theorem runDirName_eq_iff {name : Bytes} {index : Int64} (h : NamesIndex name index) :
    name = runDirName index ↔ IsRunDirName name := by
  constructor
  · rintro rfl
    refine ⟨ofNat index.toInt.toNat, ?_, isShortest_ofNat _⟩
    rw [runDirName, ofInt64_eq_ofNat h.nonneg]
  · rintro ⟨digits, rfl, hshortest⟩
    obtain ⟨first, second, number, hname, hfirst, hsecond, hnumber, hsigned, _⟩ := h
    have hsplit := splitOn_three_iff.2 ⟨hname, hfirst, hsecond, hnumber⟩
    rw [splitOn_runDirStem (dash_not_mem_digits hshortest.1)] at hsplit
    simp only [List.cons.injEq, and_true] at hsplit
    obtain ⟨-, -, rfl⟩ := hsplit
    rw [runDirName, ofInt64_of_nonneg (toInt_of_numeral hshortest.1 hsigned), ofNat_valueFrom hshortest]

/-! ## Two dashes -/

/-- The name has exactly two dashes, and the text stands behind the second one. -/
def BehindSecondDash (name text : Bytes) : Prop :=
  name.count (ch '-') = 2 ∧ ∃ front, name = front ++ ch '-' :: text ∧ front.count (ch '-') = 1

/-- One or more digits that are worth `value`, perhaps with a plus sign in front. -/
def IsIndexText (text : Bytes) (value : Nat) : Prop :=
  ∃ digits, (text = digits ∨ text = ch '+' :: digits) ∧ IsNumeral digits ∧ value = valueFrom 0 digits

theorem parseRunIndex_eq_badRunName_iff {name : Bytes} :
    parseRunIndex name = .error (.badRunName name) ↔ name.count (ch '-') ≠ 2 := by
  have hlength := @Bytes.length_splitOn (ch '-') name
  unfold parseRunIndex
  split
  · rename_i hsplit
    rw [hsplit] at hlength
    have hcount : name.count (ch '-') = 2 := by simpa using hlength.symm
    simp only [hcount, ne_eq, not_true_eq_false, iff_false]
    intro h
    split at h
    · cases h
    · split at h <;> cases h
  · rename_i hsplit
    simp only [true_iff]
    intro hcount
    obtain ⟨first, second, number, heq⟩ := List.length_eq_three.1 (by rw [hlength, hcount])
    exact hsplit first second number heq

theorem behindSecondDash_iff {name text : Bytes} :
    BehindSecondDash name text ↔ ∃ first second, name = first ++ ch '-' :: (second ++ ch '-' :: text) ∧
      ch '-' ∉ first ∧ ch '-' ∉ second ∧ ch '-' ∉ text := by
  constructor
  · rintro ⟨htwo, front, rfl, hone⟩
    -- The one dash in front of the second is the first, and it parts what stands there in two.
    have hdash : ch '-' ∈ front := List.count_pos_iff.1 (by omega)
    obtain ⟨first, second, rfl, hfirst⟩ := List.eq_append_cons_of_mem hdash
    simp only [List.count_append, List.count_cons_self] at htwo hone
    refine ⟨first, second, by simp, hfirst, ?_, ?_⟩
    · apply List.count_eq_zero.1
      omega
    · apply List.count_eq_zero.1
      omega
  · rintro ⟨first, second, rfl, hfirst, hsecond, htext⟩
    rw [← List.count_eq_zero] at hfirst hsecond htext
    refine ⟨?_, first ++ ch '-' :: second, by simp, ?_⟩
    · simp [hfirst, hsecond, htext]
    · simp [hfirst, hsecond]

theorem isIndexText_iff {text : Bytes} {index : Int64} (h : ch '-' ∉ text) :
    IsSigned text index ∧ 0 ≤ index ↔ ∃ value : Nat, IsIndexText text value ∧ index.toInt = value := by
  constructor
  · rintro ⟨⟨digits, hdigits, ⟨htext, hvalue⟩ | ⟨rfl, _⟩⟩, _⟩
    · exact ⟨valueFrom 0 digits, ⟨digits, htext, hdigits, rfl⟩, hvalue⟩
    · exact absurd List.mem_cons_self h
  · rintro ⟨_, ⟨digits, htext, hdigits, rfl⟩, hvalue⟩
    refine ⟨⟨digits, hdigits, .inl ⟨htext, hvalue⟩⟩, ?_⟩
    rw [nonneg_iff_toInt]
    omega

theorem namesIndex_iff {name : Bytes} {index : Int64} :
    NamesIndex name index ↔
      ∃ text, ∃ value : Nat, BehindSecondDash name text ∧ IsIndexText text value ∧ index.toInt = value := by
  constructor
  · rintro ⟨first, second, number, hname, hfirst, hsecond, hnumber, hsigned, hnonneg⟩
    obtain ⟨value, htext, hvalue⟩ := (isIndexText_iff hnumber).1 ⟨hsigned, hnonneg⟩
    exact ⟨number, value, behindSecondDash_iff.2 ⟨first, second, hname, hfirst, hsecond, hnumber⟩, htext, hvalue⟩
  · rintro ⟨text, value, hbehind, htext, hvalue⟩
    obtain ⟨first, second, hname, hfirst, hsecond, hdash⟩ := behindSecondDash_iff.1 hbehind
    obtain ⟨hsigned, hnonneg⟩ := (isIndexText_iff hdash).2 ⟨value, htext, hvalue⟩
    exact ⟨first, second, text, hname, hfirst, hsecond, hdash, hsigned, hnonneg⟩

theorem count_dash_runDirName {index : Int64} (h : ¬ 0 ≤ index) : (runDirName index).count (ch '-') = 3 := by
  rw [nonneg_iff_toInt] at h
  have hstem : runDirStem.count (ch '-') = 1 := by decide
  unfold runDirName ofInt64
  cases hindex : index.toInt with
  | ofNat n =>
    rw [hindex] at h
    exact absurd (Int.natCast_nonneg n) h
  | negSucc n =>
    have hdigits : (ofNat (n + 1)).count (ch '-') = 0 := by
      apply List.count_eq_zero.2
      exact dash_not_mem_digits ⟨ofNat_ne_nil (n + 1), isDigit_of_mem_ofNat (n + 1)⟩
    simp [ofInt, hstem, hdigits]

/-- The name that is made for an index gives it back if it is not negative, and has a dash too many otherwise. A name
gives an index exactly if it has two dashes and nothing behind the second one but a numeral below `2 ^ 63`, with or
without a plus sign. The value of the numeral is the index. -/
theorem run_names_decode :
    (∀ index : Int64, parseRunIndex (runDirName index) =
      if 0 ≤ index then .ok index else .error (.badRunName (runDirName index))) ∧
    ∀ name : Bytes,
      ((∃ index, parseRunIndex name = .ok index) ↔
        ∃ text value, BehindSecondDash name text ∧ IsIndexText text value ∧ value < 2 ^ 63) ∧
      ∀ index, parseRunIndex name = .ok index ↔
        ∃ text, ∃ value : Nat, BehindSecondDash name text ∧ IsIndexText text value ∧ index.toInt = value := by
  have hdecode : ∀ name index, parseRunIndex name = .ok index ↔
      ∃ text, ∃ value : Nat, BehindSecondDash name text ∧ IsIndexText text value ∧ index.toInt = value :=
    fun _ _ => parseRunIndex_eq_ok_iff.trans namesIndex_iff
  refine ⟨fun index => ?_, fun name => ⟨?_, hdecode name⟩⟩
  · split
    · rename_i hnonneg
      exact parseRunIndex_eq_ok_iff.2 (namesIndex_runDirName hnonneg)
    · rename_i hnegative
      apply parseRunIndex_eq_badRunName_iff.2
      rw [count_dash_runDirName hnegative]
      decide
  · constructor
    · rintro ⟨index, hindex⟩
      obtain ⟨text, value, hbehind, htext, hvalue⟩ := (hdecode name index).1 hindex
      have hlt := index.toInt_lt
      exact ⟨text, value, hbehind, htext, by omega⟩
    · rintro ⟨text, value, hbehind, htext, hlt⟩
      refine ⟨Int64.ofNat value, (hdecode name _).2 ⟨text, value, hbehind, htext, ?_⟩⟩
      exact Int64.toInt_ofNat_of_lt (by omega)

example : parseRunIndex (utf8 "run-out-+07") = .ok 7 := by decide

end RunSelection

end LineCoverage
