import LineCoverage.Proofs.RangeSet.Views

/-!
# The ranges do not tell in which order they were added

Ranges that are apart are told by two sets: the addresses they hold, and those they hold or end at. The second
set tells the empty range at the last address from nothing. An addition adds to both sets what depends on its
block alone, so that the order of the additions and their repetitions are forgotten.
-/

namespace LineCoverage

/-- Whether the range holds the address or ends at it. -/
def Range.Spans (r : Range) (a : UInt64) : Prop := r.start ≤ a ∧ a ≤ r.stop

namespace RangeSet

def Spanned (ranges : List Range) (a : UInt64) : Prop := ∃ r ∈ ranges, r.Spans a

theorem spanned_append (xs ys : List Range) (a : UInt64) :
    Spanned (xs ++ ys) a ↔ Spanned xs a ∨ Spanned ys a := by
  simp only [Spanned, List.mem_append, or_and_right, exists_or]

theorem spanned_cons (r : Range) (rest : List Range) (a : UInt64) :
    Spanned (r :: rest) a ↔ r.Spans a ∨ Spanned rest a := by
  simp [Spanned]

/-! ## Two sets tell the ranges -/

theorem Apart.tail {r : Range} {rest : List Range} (h : Apart (r :: rest)) : Apart rest :=
  ⟨fun q hq => h.proper q (List.mem_cons_of_mem _ hq), (List.pairwise_cons.1 h.gaps).2⟩

theorem Apart.spanned_start {r : Range} {rest : List Range} (h : Apart (r :: rest)) : Spanned (r :: rest) r.start :=
  ⟨r, List.mem_cons_self, UInt64.le_refl _, (h.proper r List.mem_cons_self).le⟩

theorem spans_of_holds (r : Range) (a : UInt64) (h : r.Holds a) : r.Spans a := ⟨h.1, UInt64.le_of_lt h.2⟩

theorem spanned_of_covers {ranges : List Range} {a : UInt64} (h : Covers ranges a) : Spanned ranges a := by
  obtain ⟨r, hr, ha⟩ := h
  exact ⟨r, hr, spans_of_holds r a ha⟩

theorem stop_lt_of_spanned {r : Range} {rest : List Range} (h : Apart (r :: rest)) {a : UInt64}
    (ha : Spanned rest a) : r.stop < a := by
  obtain ⟨q, hq, hstart, -⟩ := ha
  have := (List.pairwise_cons.1 h.gaps).1 q hq
  grind

theorem start_le_of_spanned {r : Range} {rest : List Range} (h : Apart (r :: rest)) {a : UInt64}
    (ha : Spanned (r :: rest) a) : r.start ≤ a := by
  rcases (spanned_cons r rest a).1 ha with hr | hrest
  · exact hr.1
  · have h1 := stop_lt_of_spanned h hrest
    have h2 := (h.proper r List.mem_cons_self).le
    grind

theorem exists_tail_iff {Has : Range → UInt64 → Prop} (hspans : ∀ q a, Has q a → q.Spans a) {r : Range}
    {rest : List Range} (h : Apart (r :: rest)) (a : UInt64) :
    (∃ q ∈ rest, Has q a) ↔ (∃ q ∈ r :: rest, Has q a) ∧ r.stop < a := by
  constructor
  · rintro ⟨q, hq, ha⟩
    exact ⟨⟨q, List.mem_cons_of_mem _ hq, ha⟩, stop_lt_of_spanned h ⟨q, hq, hspans q a ha⟩⟩
  · rintro ⟨⟨q, hq, ha⟩, hstop⟩
    rcases List.mem_cons.1 hq with rfl | hq
    · exact absurd (hspans q a ha).2 (by grind)
    · exact ⟨q, hq, ha⟩

/-- A range that begins where the first one does cannot end behind it: the end of the first range is in a gap. -/
theorem stop_le_of_covers {r q : Range} {rest more : List Range} (hr : Apart (r :: rest))
    (hstart : q.start = r.start) (hcovers : ∀ a, Covers (q :: more) a → Covers (r :: rest) a) :
    q.stop ≤ r.stop := by
  by_contra hlt
  have hle := (hr.proper r List.mem_cons_self).le
  have hq : q.Holds r.stop := ⟨by grind, by grind⟩
  rcases (covers_cons r rest r.stop).1 (hcovers _ ((covers_cons ..).2 (.inl hq))) with hself | hrest
  · exact absurd hself.2 (by grind)
  · have := stop_lt_of_spanned hr (spanned_of_covers hrest)
    grind

theorem eq_of_apart {ranges ranges' : List Range} (h : Apart ranges) (h' : Apart ranges')
    (hcovers : ∀ a, Covers ranges a ↔ Covers ranges' a) (hspanned : ∀ a, Spanned ranges a ↔ Spanned ranges' a) :
    ranges = ranges' := by
  induction ranges generalizing ranges' with
  | nil =>
    cases ranges' with
    | nil => rfl
    | cons q more => simpa [Spanned] using (hspanned _).2 h'.spanned_start
  | cons r rest ih =>
    cases ranges' with
    | nil => simpa [Spanned] using (hspanned _).1 h.spanned_start
    | cons q more =>
      have hstart : q.start = r.start :=
        UInt64.le_antisymm (start_le_of_spanned h' ((hspanned _).1 h.spanned_start))
          (start_le_of_spanned h ((hspanned _).2 h'.spanned_start))
      have hstop : q.stop = r.stop :=
        UInt64.le_antisymm (stop_le_of_covers h hstart fun a => (hcovers a).2)
          (stop_le_of_covers h' hstart.symm fun a => (hcovers a).1)
      obtain rfl : q = r := by
        cases q
        cases r
        simp_all
      -- The tails have the same two sets: what lies behind the end of the first range.
      rw [ih h.tail h'.tail]
      · intro a
        have hbehind := exists_tail_iff spans_of_holds h a
        have hbehind' := exists_tail_iff spans_of_holds h' a
        exact hbehind.trans ((and_congr_left' (hcovers a)).trans hbehind'.symm)
      · intro a
        have hbehind := exists_tail_iff (fun _ _ => id) h a
        have hbehind' := exists_tail_iff (fun _ _ => id) h' a
        exact hbehind.trans ((and_congr_left' (hspanned a)).trans hbehind'.symm)

/-! ## What an addition adds to them -/

theorem joined_spans {new : Range} {touched : List Range} (h : Apart touched)
    (ht : ∀ r ∈ touched, new.start ≤ r.stop ∧ r.start ≤ new.stop) (a : UInt64) :
    (joined new touched).Spans a ↔ new.Spans a ∨ Spanned touched a := by
  cases touched with
  | nil => simp [joined, Spanned]
  | cons first more =>
    have hlast : more.getLastD first ∈ first :: more := List.getLastD_mem_cons
    have h1 := ht first List.mem_cons_self
    have h2 := ht _ hlast
    unfold Spanned
    simp only [joined, Range.Spans]
    constructor
    · rintro ⟨hlow, hhigh⟩
      by_cases h3 : a < new.start
      · exact .inr ⟨first, List.mem_cons_self, by grind, by grind⟩
      by_cases h4 : a ≤ new.stop
      · exact .inl ⟨by grind, h4⟩
      · exact .inr ⟨_, hlast, by grind, by grind⟩
    · rintro (⟨hlow, hhigh⟩ | ⟨r, hr, hlow, hhigh⟩)
      · constructor <;> grind
      · have h3 := bounds_of_apart h r hr
        constructor <;> grind

theorem spanned_insertRange {ranges : List Range} {new : Range} (hnew : new.start ≤ new.stop)
    (h : Apart ranges) (a : UInt64) :
    Spanned (insertRange ranges new) a ↔ new.Spans a ∨ Spanned ranges a := by
  obtain ⟨before, touched, behind, hc⟩ := exists_cut ranges new h
  rw [insertRange_eq_of_cut hnew h hc]
  have happ := hc.apart_touched h
  obtain ⟨rfl, -, htouched, -⟩ := hc
  rw [spanned_append, spanned_cons, joined_spans happ htouched, spanned_append, spanned_append]
  grind

theorem spanned_add {s : RangeSet} (h : Apart s.ranges) (start size a : UInt64) :
    Spanned (s.add start size).ranges a ↔
      (size ≠ 0 ∧ start ≤ a ∧ a ≤ blockStop start size) ∨ Spanned s.ranges a := by
  unfold add
  split
  · rename_i hsize
    simp [hsize]
  · rename_i hsize
    rw [spanned_insertRange (block_proper start size hsize).le h]
    simp [Range.Spans, hsize]

theorem ofAdds_append (calls : List (UInt64 × UInt64)) (call : UInt64 × UInt64) :
    ofAdds (calls ++ [call]) = (ofAdds calls).add call.1 call.2 := by
  simp [ofAdds]

theorem spanned_ofAdds (calls : List (UInt64 × UInt64)) (a : UInt64) :
    Spanned (ofAdds calls).ranges a ↔
      ∃ call ∈ calls, call.2 ≠ 0 ∧ call.1 ≤ a ∧ a ≤ blockStop call.1 call.2 := by
  induction calls using List.reverseRecOn with
  | nil => simp [ofAdds, RangeSet.empty, Spanned]
  | append_singleton calls call ih =>
    rw [ofAdds_append, spanned_add (apart_ofAdds calls), ih]
    simp only [List.mem_append, List.mem_singleton, or_and_right, exists_or, exists_eq_left]
    exact or_comm

/-! ## The history is forgotten -/

theorem ofAdds_eq_of_mem_iff {calls calls' : List (UInt64 × UInt64)} (h : ∀ call, call ∈ calls ↔ call ∈ calls') :
    (ofAdds calls).ranges = (ofAdds calls').ranges := by
  apply eq_of_apart (apart_ofAdds calls) (apart_ofAdds calls')
  · intro a
    simp only [covers_ofAdds, h]
  · intro a
    simp only [spanned_ofAdds, h]

/-- Two sequences of the same additions, in whatever order and however often each is repeated, lead to the same
ranges, and to repeat an addition changes nothing. -/
theorem history_forgotten {calls calls' : List (UInt64 × UInt64)} (h : ∀ call, call ∈ calls ↔ call ∈ calls') :
    (ofAdds calls).ranges = (ofAdds calls').ranges ∧
    ∀ call ∈ calls, ((ofAdds calls).add call.1 call.2).ranges = (ofAdds calls).ranges := by
  refine ⟨ofAdds_eq_of_mem_iff h, ?_⟩
  intro call hcall
  rw [← ofAdds_append]
  apply ofAdds_eq_of_mem_iff
  intro other
  rw [List.mem_append, List.mem_singleton]
  constructor
  · rintro (hother | rfl)
    · exact hother
    · exact hcall
  · exact .inl

/-- A block at the last address, one that wraps around, three that make up one range, and an empty one. -/
def tangled : List (UInt64 × UInt64) :=
  [(lastAddress, 1), (0, 5), (10, 5), (5, 5), (7, 0), (lastAddress - 9, 100)]

def tangledAgain : List (UInt64 × UInt64) :=
  [(lastAddress - 9, 100), (10, 5), (7, 0), (5, 5), (10, 5), (lastAddress, 1), (0, 5), (0, 5)]

theorem history_forgotten_tangled :
    (ofAdds tangled).ranges = [⟨0, 15⟩, ⟨lastAddress - 9, lastAddress⟩] ∧
    (ofAdds tangled).ranges = (ofAdds tangledAgain).ranges ∧
    ∀ call ∈ tangled, ((ofAdds tangled).add call.1 call.2).ranges = (ofAdds tangled).ranges := by
  refine ⟨by decide, history_forgotten ?_⟩
  intro call
  simp only [tangled, tangledAgain, List.mem_cons, List.not_mem_nil, or_false]
  tauto

end RangeSet

end LineCoverage
