import LineCoverage.Proofs.Maps
import LineCoverage.RangeSet

/-!
# Range sets hold the addresses of their blocks

Adding a block keeps the ranges in order and apart, and adds exactly the addresses of the block.
-/

namespace LineCoverage

namespace Range

/-- A range that holds an address, or the empty one at the end of the address space, which a block
at the last address leaves behind. -/
def Proper (r : Range) : Prop := r.start < r.stop ∨ r = ⟨RangeSet.lastAddress, RangeSet.lastAddress⟩

def Holds (r : Range) (a : UInt64) : Prop := r.start ≤ a ∧ a < r.stop

instance (r : Range) (a : UInt64) : Decidable (r.Holds a) := inferInstanceAs (Decidable (_ ∧ _))

theorem Proper.le {r : Range} (h : r.Proper) : r.start ≤ r.stop := by
  rcases h with h | rfl
  · exact UInt64.le_of_lt h
  · exact UInt64.le_refl _

end Range

namespace RangeSet

theorem toNat_lastAddress : lastAddress.toNat = 0xFFFFFFFFFFFFFFFF := rfl

theorem le_lastAddress (a : UInt64) : a ≤ lastAddress := by
  have := a.toNat_lt
  rw [UInt64.le_iff_toNat_le, toNat_lastAddress]
  omega

/-- Ranges in ascending order that neither overlap nor touch. -/
structure Apart (ranges : List Range) : Prop where
  proper : ∀ r ∈ ranges, r.Proper
  gaps : ranges.Pairwise fun r q => r.stop < q.start

/-- Whether some range holds the address. -/
def Covers (ranges : List Range) (a : UInt64) : Prop := ∃ r ∈ ranges, r.Holds a

instance (ranges : List Range) (a : UInt64) : Decidable (Covers ranges a) :=
  inferInstanceAs (Decidable (∃ r ∈ ranges, r.Holds a))

theorem apart_nil : Apart [] := ⟨by simp, .nil⟩

/-! ## Where a new range comes to stand -/

/-- How a new range cuts a list of ranges: into those that end before it, those it overlaps or touches,
and those that begin behind it. -/
structure Cut (new : Range) (ranges before touched behind : List Range) : Prop where
  ranges_eq : ranges = before ++ touched ++ behind
  before_lt : ∀ r ∈ before, r.stop < new.start
  touches : ∀ r ∈ touched, new.start ≤ r.stop ∧ r.start ≤ new.stop
  lt_behind : ∀ r ∈ behind, new.stop < r.start

theorem exists_cut (ranges : List Range) (new : Range) (h : Apart ranges) :
    ∃ before touched behind, Cut new ranges before touched behind := by
  induction ranges with
  | nil => exact ⟨[], [], [], ⟨rfl, by simp, by simp, by simp⟩⟩
  | cons r rest ih =>
    obtain ⟨hr, hrest⟩ := List.forall_mem_cons.1 h.proper
    obtain ⟨hgap, hgaps⟩ := List.pairwise_cons.1 h.gaps
    obtain ⟨before, touched, behind, ⟨rfl, hbefore, htouched, hbehind⟩⟩ := ih ⟨hrest, hgaps⟩
    by_cases h1 : r.stop < new.start
    · exact ⟨r :: before, touched, behind, rfl, by simpa using ⟨h1, hbefore⟩, htouched, hbehind⟩
    -- From here on nothing ends before the new range: what follows begins after `r` ends.
    have hnone : before = [] := by
      rw [List.eq_nil_iff_forall_not_mem]
      intro q hq
      have h2 := hbefore q hq
      have h3 := hgap q (by simp [hq])
      have h4 := (hrest q (by simp [hq])).le
      grind
    subst hnone
    by_cases h2 : r.start ≤ new.stop
    · exact ⟨[], r :: touched, behind, rfl, by simp, by simpa using ⟨⟨by grind, h2⟩, htouched⟩, hbehind⟩
    · have hnone : touched = [] := by
        rw [List.eq_nil_iff_forall_not_mem]
        intro q hq
        have h3 := (htouched q hq).2
        have h4 := hgap q (by simp [hq])
        have h5 := hr.le
        grind
      subst hnone
      exact ⟨[], [], r :: behind, rfl, by simp, by simp, by simpa using ⟨by grind, hbehind⟩⟩

theorem Cut.apart_touched {new : Range} {ranges before touched behind : List Range}
    (hc : Cut new ranges before touched behind) (h : Apart ranges) : Apart touched := by
  obtain ⟨rfl, -, -, -⟩ := hc
  refine ⟨fun r hr => h.proper r (by simp [hr]), h.gaps.sublist ?_⟩
  exact (List.sublist_append_right before touched).trans (List.sublist_append_left _ behind)

/-- What the new range becomes when it is joined with those it touches. -/
def joined (new : Range) : List Range → Range
  | [] => new
  | first :: more => ⟨min new.start first.start, max new.stop (more.getLastD first).stop⟩

theorem findIdx_append_length {α : Type} (p : α → Bool) (xs ys : List α)
    (hx : ∀ x ∈ xs, p x = false) (hy : ∀ y ∈ ys, p y = true) : (xs ++ ys).findIdx p = xs.length := by
  rw [List.findIdx_append, List.findIdx_eq_length_of_false hx]
  cases ys with
  | nil => simp
  | cons y rest => simp [hy y (by simp), List.findIdx_cons]

theorem firstReaching_of_cut {new : Range} {ranges before touched behind : List Range}
    (hnew : new.start ≤ new.stop) (h : Apart ranges) (hc : Cut new ranges before touched behind) :
    firstReaching ranges new.start = before.length := by
  obtain ⟨rfl, hbefore, htouched, hbehind⟩ := hc
  unfold firstReaching
  rw [List.append_assoc]
  apply findIdx_append_length
  · intro r hr
    have := hbefore r hr
    simp only [decide_eq_false_iff_not]
    grind
  · intro r hr
    simp only [decide_eq_true_eq]
    rcases List.mem_append.1 hr with hr | hr
    · exact (htouched r hr).1
    · have h1 := hbehind r hr
      have h2 := (h.proper r (by simp [hr])).le
      grind

theorem firstAfter_of_cut {new : Range} {ranges before touched behind : List Range}
    (hnew : new.start ≤ new.stop) (h : Apart ranges) (hc : Cut new ranges before touched behind) :
    firstAfter ranges new.stop = (before ++ touched).length := by
  obtain ⟨rfl, hbefore, htouched, hbehind⟩ := hc
  unfold firstAfter
  apply findIdx_append_length
  · intro r hr
    simp only [decide_eq_false_iff_not]
    rcases List.mem_append.1 hr with hr | hr
    · have h1 := hbefore r hr
      have h2 := (h.proper r (by simp [hr])).le
      grind
    · have := (htouched r hr).2
      grind
  · intro r hr
    simpa using hbehind r hr

theorem insertRange_eq_of_cut {new : Range} {ranges before touched behind : List Range}
    (hnew : new.start ≤ new.stop) (h : Apart ranges) (hc : Cut new ranges before touched behind) :
    insertRange ranges new = before ++ joined new touched :: behind := by
  have hi := firstReaching_of_cut hnew h hc
  have hj := firstAfter_of_cut hnew h hc
  obtain ⟨rfl, -, -, -⟩ := hc
  unfold insertRange
  simp only [hi, hj, List.take_left', List.drop_left']
  rw [List.append_assoc, List.take_left, List.drop_left]
  cases touched with
  | nil => simp [joined]
  | cons first more => simp [joined]

/-! ## What a joined range holds -/

@[grind =]
theorem min_word (a b : UInt64) : min a b = if a ≤ b then a else b := rfl

@[grind =]
theorem max_word (a b : UInt64) : max a b = if a ≤ b then b else a := rfl

theorem bounds_of_apart {first : Range} {more : List Range} (h : Apart (first :: more)) :
    ∀ r ∈ first :: more, first.start ≤ r.start ∧ r.stop ≤ (more.getLastD first).stop := by
  induction more generalizing first with
  | nil => simp
  | cons second more ih =>
    obtain ⟨hp, hps⟩ := List.forall_mem_cons.1 h.proper
    obtain ⟨hgap, hgaps⟩ := List.pairwise_cons.1 h.gaps
    have hrest := ih ⟨hps, hgaps⟩
    have hfirst := hp.le
    rw [List.getLastD_cons]
    intro r hr
    rcases List.mem_cons.1 hr with rfl | hr
    · have h1 := hgap second (by simp)
      have h2 := hrest second (by simp)
      have h3 := (hps second (by simp)).le
      exact ⟨UInt64.le_refl _, by grind⟩
    · have h1 := hgap r hr
      exact ⟨by grind, (hrest r hr).2⟩

theorem joined_holds {new : Range} {touched : List Range} (h : Apart touched)
    (ht : ∀ r ∈ touched, new.start ≤ r.stop ∧ r.start ≤ new.stop) (a : UInt64) :
    (joined new touched).Holds a ↔ new.Holds a ∨ Covers touched a := by
  cases touched with
  | nil => simp [joined, Covers]
  | cons first more =>
    have hlast : more.getLastD first ∈ first :: more := List.getLastD_mem_cons
    have h1 := ht first (by simp)
    have h2 := ht _ hlast
    unfold Covers
    simp only [joined, Range.Holds]
    constructor
    · rintro ⟨hlow, hhigh⟩
      by_cases h3 : a < new.start
      · exact .inr ⟨first, by simp, by grind, by grind⟩
      by_cases h4 : a < new.stop
      · exact .inl ⟨by grind, h4⟩
      · exact .inr ⟨_, hlast, by grind, by grind⟩
    · rintro (⟨hlow, hhigh⟩ | ⟨r, hr, hlow, hhigh⟩)
      · constructor <;> grind
      · have h3 := bounds_of_apart h r hr
        constructor <;> grind

theorem joined_proper {new : Range} {touched : List Range} (hnew : new.Proper)
    (h : ∀ r ∈ touched, r.Proper) : (joined new touched).Proper := by
  cases touched with
  | nil => exact hnew
  | cons first more =>
    have hlast := h _ List.getLastD_mem_cons
    have hfirst := h first (by simp)
    have h1 := le_lastAddress new.start
    have h2 := le_lastAddress new.stop
    have h3 := le_lastAddress first.start
    simp only [joined]
    generalize more.getLastD first = last at *
    unfold Range.Proper at *
    grind

theorem lt_joined_start {new : Range} {touched : List Range} {a : UInt64} (h : a < new.start)
    (ht : ∀ r ∈ touched, a < r.start) : a < (joined new touched).start := by
  cases touched with
  | nil => exact h
  | cons first more =>
    have := ht first (by simp)
    simp only [joined]
    grind

theorem joined_stop_lt {new : Range} {touched : List Range} {a : UInt64} (h : new.stop < a)
    (ht : ∀ r ∈ touched, r.stop < a) : (joined new touched).stop < a := by
  cases touched with
  | nil => exact h
  | cons first more =>
    have := ht _ List.getLastD_mem_cons
    simp only [joined]
    grind

/-! ## Adding a block -/

theorem apart_insertRange {ranges : List Range} {new : Range} (hnew : new.Proper) (h : Apart ranges) :
    Apart (insertRange ranges new) := by
  obtain ⟨before, touched, behind, hc⟩ := exists_cut ranges new h
  rw [insertRange_eq_of_cut hnew.le h hc]
  obtain ⟨rfl, hbefore, htouched, hbehind⟩ := hc
  obtain ⟨hproper, hgaps⟩ := h
  simp only [List.pairwise_append, List.mem_append] at hgaps
  obtain ⟨⟨hgaps1, -, hgaps12⟩, hgaps3, hgaps123⟩ := hgaps
  constructor
  · intro r hr
    simp only [List.mem_append, List.mem_cons] at hr
    rcases hr with hr | rfl | hr
    · exact hproper r (by simp [hr])
    · exact joined_proper hnew fun q hq => hproper q (by simp [hq])
    · exact hproper r (by simp [hr])
  · rw [List.pairwise_append, List.pairwise_cons]
    refine ⟨hgaps1, ⟨?_, hgaps3⟩, ?_⟩
    · intro q hq
      exact joined_stop_lt (hbehind q hq) fun r hr => hgaps123 r (.inr hr) q hq
    · intro r hr q hq
      rcases List.mem_cons.1 hq with rfl | hq
      · exact lt_joined_start (hbefore r hr) (hgaps12 r hr)
      · exact hgaps123 r (.inl hr) q hq

theorem covers_append (xs ys : List Range) (a : UInt64) :
    Covers (xs ++ ys) a ↔ Covers xs a ∨ Covers ys a := by
  simp only [Covers, List.mem_append, or_and_right, exists_or]

theorem covers_cons (r : Range) (rest : List Range) (a : UInt64) :
    Covers (r :: rest) a ↔ r.Holds a ∨ Covers rest a := by
  simp [Covers]

theorem covers_insertRange {ranges : List Range} {new : Range} (hnew : new.start ≤ new.stop)
    (h : Apart ranges) (a : UInt64) :
    Covers (insertRange ranges new) a ↔ new.Holds a ∨ Covers ranges a := by
  obtain ⟨before, touched, behind, hc⟩ := exists_cut ranges new h
  rw [insertRange_eq_of_cut hnew h hc]
  have happ := hc.apart_touched h
  obtain ⟨rfl, -, htouched, -⟩ := hc
  rw [covers_append, covers_cons, joined_holds happ htouched, covers_append, covers_append]
  grind

/-! ## Blocks -/

/-- The addresses of a block, as numbers: `size` of them from `start` on. The last address of the
space is never one of them. -/
def InBlock (start size a : UInt64) : Prop :=
  a ≠ lastAddress ∧ start.toNat ≤ a.toNat ∧ a.toNat < start.toNat + size.toNat

instance (start size a : UInt64) : Decidable (InBlock start size a) :=
  inferInstanceAs (Decidable (_ ∧ _))

theorem toNat_blockStop (start size : UInt64) :
    (blockStop start size).toNat = min (start.toNat + size.toNat) 0xFFFFFFFFFFFFFFFF := by
  have h1 := start.toNat_lt
  have h2 := size.toNat_lt
  unfold blockStop
  split
  · rename_i h
    rw [UInt64.lt_iff_toNat_lt, UInt64.toNat_add] at h
    rw [toNat_lastAddress]
    omega
  · rename_i h
    rw [UInt64.lt_iff_toNat_lt, UInt64.toNat_add] at h
    rw [UInt64.toNat_add]
    omega

theorem holds_block_iff (start size a : UInt64) :
    (Range.mk start (blockStop start size)).Holds a ↔ InBlock start size a := by
  have ha := a.toNat_lt
  have hlast : a ≠ lastAddress ↔ a.toNat ≠ 0xFFFFFFFFFFFFFFFF := by
    rw [ne_eq, ← UInt64.toNat_inj, toNat_lastAddress]
  simp only [Range.Holds, InBlock, UInt64.le_iff_toNat_le, UInt64.lt_iff_toNat_lt, toNat_blockStop, hlast]
  omega

theorem block_proper (start size : UInt64) (h : size ≠ 0) :
    (Range.mk start (blockStop start size)).Proper := by
  have h1 := start.toNat_lt
  have h2 : 0 < size.toNat := by
    rw [Nat.pos_iff_ne_zero, ne_eq, ← UInt64.toNat_zero, UInt64.toNat_inj]
    exact h
  have hstop := toNat_blockStop start size
  by_cases hs : start.toNat = 0xFFFFFFFFFFFFFFFF
  · right
    rw [Range.mk.injEq, ← UInt64.toNat_inj, ← UInt64.toNat_inj, hstop, toNat_lastAddress]
    omega
  · left
    simp only [UInt64.lt_iff_toNat_lt, hstop]
    omega

theorem apart_add {s : RangeSet} (h : Apart s.ranges) (start size : UInt64) :
    Apart (s.add start size).ranges := by
  unfold add
  split
  · exact h
  · rename_i hsize
    exact apart_insertRange (block_proper start size hsize) h

theorem covers_add {s : RangeSet} (h : Apart s.ranges) (start size a : UInt64) :
    Covers (s.add start size).ranges a ↔ InBlock start size a ∨ Covers s.ranges a := by
  unfold add
  split
  · rename_i hsize
    have : ¬ InBlock start size a := by
      rintro ⟨-, h1, h2⟩
      rw [hsize, UInt64.toNat_zero] at h2
      omega
    simp [this]
  · rename_i hsize
    rw [covers_insertRange (block_proper start size hsize).le h, holds_block_iff]

/-! ## Going through the addresses -/

theorem foldAddresses_insert (acc : Std.ExtTreeMap UInt64 UInt64) (count addr stop a : UInt64) :
    (foldAddresses (fun counts x => counts.insert x count) acc addr stop)[a]? =
      if addr ≤ a ∧ a < stop then some count else acc[a]? := by
  fun_induction foldAddresses (fun (counts : Std.ExtTreeMap UInt64 UInt64) x => counts.insert x count) acc addr stop with
  | case1 acc addr h ih =>
    rw [ih, Maps.getElem?_insert_eq]
    have h1 : addr + 1 ≤ a ↔ addr < a := by
      have h2 : addr.toNat < stop.toNat := h
      have h3 := stop.toNat_lt
      rw [UInt64.le_iff_toNat_le, UInt64.lt_iff_toNat_lt, UInt64.toNat_add, UInt64.toNat_one]
      omega
    by_cases h2 : addr = a <;> grind
  | case2 acc addr h => grind

end RangeSet

end LineCoverage
