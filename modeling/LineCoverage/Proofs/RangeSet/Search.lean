import LineCoverage.Proofs.RangeSet.Views

/-!
# The order of the ranges and the searches that rest on it

After any additions the ranges ascend with gaps between them, and none is empty but perhaps the last. So the
two tests by which an addition finds its place, once true, stay true along the list: halving the list finds
the same places as going through it, and all that lies between them is joined.
-/

namespace LineCoverage

namespace RangeSet

/-! ## Searching by halves -/

/-- Looks for the first index from `low` on, and below `high`, at which the test is true: it looks at the
middle and goes on in one of the halves. -/
def searchBetween (test : Nat → Bool) (low high : Nat) : Nat :=
  if low < high then
    if test ((low + high) / 2) then searchBetween test low ((low + high) / 2)
    else searchBetween test ((low + high) / 2 + 1) high
  else low
termination_by high - low

def searchByHalves (test : Range → Bool) (ranges : List Range) : Nat :=
  searchBetween (fun k => ranges[k]?.any test) 0 ranges.length

/-- A test that is true of a range is true of all ranges behind it. -/
def StaysTrue (test : Range → Bool) (ranges : List Range) : Prop :=
  ∀ k l (hl : l < ranges.length) (hkl : k ≤ l), test (ranges[k]) = true → test (ranges[l]) = true

theorem staysTrue_of_pairwise {test : Range → Bool} {ranges : List Range}
    (h : ranges.Pairwise fun r q => test r = true → test q = true) : StaysTrue test ranges := by
  intro k l hl hkl htest
  rcases Nat.lt_or_eq_of_le hkl with hlt | rfl
  · exact List.pairwise_iff_getElem.1 h k l (by omega) hl hlt htest
  · exact htest

/-- Below `low` the test is false and from `high` on it is true: each step keeps that, so that it holds where
the two meet. -/
theorem searchBetween_splits (test : Nat → Bool) (low high size : Nat)
    (hmono : ∀ k l, k ≤ l → l < size → test k = true → test l = true) (hle : low ≤ high) (hsize : high ≤ size)
    (hlow : ∀ k < low, test k = false) (hhigh : ∀ k, high ≤ k → k < size → test k = true) :
    searchBetween test low high ≤ size ∧ (∀ k < searchBetween test low high, test k = false) ∧
      ∀ k, searchBetween test low high ≤ k → k < size → test k = true := by
  fun_induction searchBetween test low high with
  | case1 low high hlt htest ih =>
    refine ih (by omega) (by omega) hlow ?_
    intro k hk hksize
    exact hmono _ k hk hksize htest
  | case2 low high hlt htest ih =>
    refine ih (by omega) hsize ?_ hhigh
    intro k hk
    -- A true test below the middle would make the middle true.
    by_contra htrue
    exact htest (hmono k _ (by omega) (by omega) (by simpa using htrue))
  | case3 low high hge =>
    obtain rfl : low = high := by omega
    exact ⟨hsize, hlow, hhigh⟩

theorem searchByHalves_eq_findIdx {test : Range → Bool} {ranges : List Range} (h : StaysTrue test ranges) :
    searchByHalves test ranges = ranges.findIdx test := by
  have hat : ∀ k (hk : k < ranges.length), ranges[k]?.any test = test (ranges[k]) := by
    intro k hk
    rw [List.getElem?_eq_getElem hk, Option.any_some]
  have hmono : ∀ k l, k ≤ l → l < ranges.length → ranges[k]?.any test = true → ranges[l]?.any test = true := by
    intro k l hkl hl htest
    rw [hat l hl]
    rw [hat k (by omega)] at htest
    exact h k l hl hkl htest
  have hsplits := searchBetween_splits (fun k => ranges[k]?.any test) 0 ranges.length ranges.length hmono
    (Nat.zero_le _) (Nat.le_refl _) (by simp) (by omega)
  rw [← searchByHalves] at hsplits
  obtain ⟨hle, hbefore, hbehind⟩ := hsplits
  symm
  rcases Nat.lt_or_eq_of_le hle with hlt | heq
  · rw [List.findIdx_eq hlt]
    constructor
    · rw [← hat _ hlt]
      exact hbehind _ (Nat.le_refl _) hlt
    · intro k hk
      rw [← hat k (by omega)]
      exact hbefore k hk
  · rw [heq, List.findIdx_eq_length]
    intro r hr
    obtain ⟨k, hk, rfl⟩ := List.getElem_of_mem hr
    rw [← hat k hk]
    exact hbefore k (by omega)

/-! ## The tests of an addition -/

theorem staysTrue_reaching {ranges : List Range} (h : Apart ranges) (start : UInt64) :
    StaysTrue (fun r => start ≤ r.stop) ranges := by
  apply staysTrue_of_pairwise
  refine h.gaps.imp_of_mem ?_
  intro r q _ hq hgap hreach
  have := (h.proper q hq).le
  simp only [decide_eq_true_eq] at hreach ⊢
  grind

theorem staysTrue_after {ranges : List Range} (h : Apart ranges) (stop : UInt64) :
    StaysTrue (fun r => stop < r.start) ranges := by
  apply staysTrue_of_pairwise
  refine h.gaps.imp_of_mem ?_
  intro r q hr _ hgap hafter
  have := (h.proper r hr).le
  simp only [decide_eq_true_eq] at hafter ⊢
  grind

/-- What an addition relies on when it looks for its place among the ranges: both of its tests stay true once
they are, so that halving finds both places; the first place is not behind the second; and what it reads
between them is there. -/
structure FindsPlace (ranges : List Range) (new : Range) : Prop where
  reaching_staysTrue : StaysTrue (fun r => new.start ≤ r.stop) ranges
  reaching_byHalves : searchByHalves (fun r => new.start ≤ r.stop) ranges = firstReaching ranges new.start
  after_staysTrue : StaysTrue (fun r => new.stop < r.start) ranges
  after_byHalves : searchByHalves (fun r => new.stop < r.start) ranges = firstAfter ranges new.stop
  reaching_le_after : firstReaching ranges new.start ≤ firstAfter ranges new.stop
  after_le_length : firstAfter ranges new.stop ≤ ranges.length
  insert_of_eq : firstReaching ranges new.start = firstAfter ranges new.stop →
    insertRange ranges new =
      ranges.take (firstReaching ranges new.start) ++ new :: ranges.drop (firstReaching ranges new.start)
  join_of_ne : firstReaching ranges new.start ≠ firstAfter ranges new.stop →
    0 < firstAfter ranges new.stop ∧
    ∃ first last, ranges[firstReaching ranges new.start]? = some first ∧
      ranges[firstAfter ranges new.stop - 1]? = some last ∧
      insertRange ranges new = ranges.take (firstReaching ranges new.start) ++
        ⟨min new.start first.start, max new.stop last.stop⟩ :: ranges.drop (firstAfter ranges new.stop)

theorem findsPlace_of_apart {ranges : List Range} {new : Range} (hnew : new.start ≤ new.stop) (h : Apart ranges) :
    FindsPlace ranges new := by
  have hreaching := staysTrue_reaching h new.start
  have hafter := staysTrue_after h new.stop
  obtain ⟨before, touched, behind, hc⟩ := exists_cut ranges new h
  have hi := firstReaching_of_cut hnew h hc
  have hj := firstAfter_of_cut hnew h hc
  have hinsert := insertRange_eq_of_cut hnew h hc
  have hranges := hc.ranges_eq
  refine ⟨hreaching, searchByHalves_eq_findIdx hreaching, hafter, searchByHalves_eq_findIdx hafter, ?_, ?_, ?_, ?_⟩
  · rw [hi, hj, List.length_append]
    omega
  · rw [hj, hranges]
    simp
  · intro heq
    have hnone : touched = [] := by
      rw [← List.length_eq_zero_iff]
      rw [hi, hj, List.length_append] at heq
      omega
    rw [hinsert, hi, hranges, hnone, List.append_nil, List.take_left, List.drop_left]
    rfl
  · intro hne
    rw [hi, hj] at hne
    -- Two different places have a range between them: the first and the last that the new one touches.
    cases touched with
    | nil => simp at hne
    | cons first more =>
      rw [hi, hj]
      refine ⟨by simp, first, more.getLastD first, ?_, ?_, ?_⟩
      · rw [hranges]
        simp
      · rw [hranges, List.getElem?_append_left (by simp), ← List.getLast?_eq_getElem?, List.getLast?_append_cons,
          List.getLast?_cons, List.getLastD_eq_getLast?]
      · rw [hinsert, hranges, List.drop_left, List.append_assoc, List.take_left]
        rfl

/-! ## After any additions -/

/-- The ranges of any sequence of additions ascend with a gap between each two, and each has an address but
perhaps the last, which may be the empty range at the last address. So the next addition finds its place by
halving, and reads no range that is not there. -/
theorem ranges_in_order (calls : List (UInt64 × UInt64)) :
    let ranges := (ofAdds calls).ranges
    (∀ k (h : k + 1 < ranges.length), (ranges[k]).stop < (ranges[k + 1]).start) ∧
    (∀ k (h : k < ranges.length), (ranges[k]).start < (ranges[k]).stop ∨
      k + 1 = ranges.length ∧ ranges[k] = ⟨lastAddress, lastAddress⟩) ∧
    ∀ start size, size ≠ 0 →
      ((ofAdds calls).add start size).ranges = insertRange ranges ⟨start, blockStop start size⟩ ∧
      FindsPlace ranges ⟨start, blockStop start size⟩ := by
  intro ranges
  have hapart : Apart ranges := apart_ofAdds calls
  have hgaps : ∀ k (h : k + 1 < ranges.length), (ranges[k]).stop < (ranges[k + 1]).start := by
    intro k h
    exact List.pairwise_iff_getElem.1 hapart.gaps k (k + 1) (by omega) h (by omega)
  refine ⟨hgaps, ?_, ?_⟩
  · intro k h
    rcases hapart.proper _ (List.getElem_mem h) with hproper | hempty
    · exact .inl hproper
    · refine .inr ⟨?_, hempty⟩
      -- Nothing begins behind the last address.
      by_contra hmore
      have hgap := hgaps k (by omega)
      have hle := le_lastAddress (ranges[k + 1]).start
      rw [hempty] at hgap
      grind
  · intro start size hsize
    refine ⟨?_, findsPlace_of_apart (block_proper start size hsize).le hapart⟩
    unfold add
    rw [if_neg hsize]

/-- Two ranges and the empty one at the last address, before an addition that joins the two. -/
theorem ranges_in_order_bridge :
    (ofAdds [(20, 5), (0, 5), (lastAddress, 1)]).ranges = [⟨0, 5⟩, ⟨20, 25⟩, ⟨lastAddress, lastAddress⟩] ∧
    FindsPlace [⟨0, 5⟩, ⟨20, 25⟩, ⟨lastAddress, lastAddress⟩] ⟨5, 20⟩ ∧
    insertRange [⟨0, 5⟩, ⟨20, 25⟩, ⟨lastAddress, lastAddress⟩] ⟨5, 20⟩ =
      [⟨0, 25⟩, ⟨lastAddress, lastAddress⟩] := by
  have hranges : (ofAdds [(20, 5), (0, 5), (lastAddress, 1)]).ranges =
      [⟨0, 5⟩, ⟨20, 25⟩, ⟨lastAddress, lastAddress⟩] := by decide
  have hplace := ((ranges_in_order [(20, 5), (0, 5), (lastAddress, 1)]).2.2 5 15 (by decide)).2
  rw [hranges] at hplace
  exact ⟨hranges, hplace, by decide⟩

end RangeSet

end LineCoverage
