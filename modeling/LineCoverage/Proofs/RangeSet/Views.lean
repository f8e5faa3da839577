import LineCoverage.Proofs.Coverage

/-!
# Three views of a range set

Looking an address up, going through all addresses and adding up the lengths of the ranges tell of the same
set: the addresses of the blocks that were added.
-/

namespace LineCoverage

namespace RangeSet

/-- The set after a sequence of additions, each a start and a size. -/
def ofAdds (calls : List (UInt64 × UInt64)) : RangeSet :=
  calls.foldl (fun s call => s.add call.1 call.2) .empty

theorem ofAdds_eq_ofBlocks (calls : List (UInt64 × UInt64)) :
    ofAdds calls = ofBlocks (calls.map fun call => ⟨call.1, 0, call.2⟩) := by
  unfold ofAdds ofBlocks
  rw [List.foldl_map]

/-! ## Looking up -/

theorem contains_iff_covers {ranges : List Range} (h : Apart ranges) (a : UInt64) :
    contains ⟨ranges⟩ a = true ↔ Covers ranges a := by
  induction ranges with
  | nil => simp [contains, Covers]
  | cons r rest ih =>
    obtain ⟨hproper, hrest⟩ := List.forall_mem_cons.1 h.proper
    obtain ⟨hgap, hgaps⟩ := List.pairwise_cons.1 h.gaps
    rw [covers_cons]
    by_cases hstop : a < r.stop
    · have hlate : ¬ Covers rest a := by
        rintro ⟨q, hq, hstart, -⟩
        have := hgap q hq
        grind
      simp [contains, hstop, hlate, Range.Holds]
    · have hmiss : ¬ r.Holds a := fun hr => hstop hr.2
      have hskip : contains ⟨r :: rest⟩ a = contains ⟨rest⟩ a := by simp [contains, hstop]
      rw [hskip, ih ⟨hrest, hgaps⟩]
      simp [hmiss]

/-! ## Going through -/

/-- The addresses at which the expansion of a range stops, in order. -/
def visited (r : Range) : List UInt64 := foldAddresses (fun seen a => seen ++ [a]) [] r.start r.stop

theorem foldAddresses_eq_foldl {α : Type} (f : α → UInt64 → α) (acc : α) (addr stop : UInt64) :
    foldAddresses f acc addr stop =
      ((List.range' addr.toNat (stop.toNat - addr.toNat)).map UInt64.ofNat).foldl f acc := by
  fun_induction foldAddresses f acc addr stop with
  | case1 acc addr h ih =>
    have hlt : addr.toNat < stop.toNat := h
    have hstop := stop.toNat_lt
    have hnext : (addr + 1).toNat = addr.toNat + 1 := by
      rw [UInt64.toNat_add, UInt64.toNat_one]
      omega
    have hcount : stop.toNat - addr.toNat = stop.toNat - (addr.toNat + 1) + 1 := by omega
    rw [ih, hnext, hcount, List.range'_succ, List.map_cons, List.foldl_cons, UInt64.ofNat_toNat]
  | case2 acc addr h =>
    have hle : stop.toNat ≤ addr.toNat := by
      rw [UInt64.lt_iff_toNat_lt] at h
      omega
    rw [Nat.sub_eq_zero_of_le hle]
    rfl

theorem visited_eq (r : Range) :
    visited r = (List.range' r.start.toNat (r.stop.toNat - r.start.toNat)).map UInt64.ofNat := by
  unfold visited
  rw [foldAddresses_eq_foldl]
  generalize (List.range' r.start.toNat (r.stop.toNat - r.start.toNat)).map UInt64.ofNat = addresses
  rw [List.foldl_append_eq_append, List.nil_append, ← List.flatMap_def, List.flatMap_singleton']

theorem length_visited (r : Range) : (visited r).length = r.stop.toNat - r.start.toNat := by
  simp [visited_eq]

theorem toNat_ofNat_of_mem {r : Range} {n : Nat}
    (h : n ∈ List.range' r.start.toNat (r.stop.toNat - r.start.toNat)) : (UInt64.ofNat n).toNat = n := by
  have hstop := r.stop.toNat_lt
  rw [List.mem_range'_1] at h
  exact UInt64.toNat_ofNat_of_lt' (Nat.lt_trans (by omega) hstop)

theorem mem_visited {r : Range} {a : UInt64} : a ∈ visited r ↔ r.Holds a := by
  rw [visited_eq, List.mem_map, Range.Holds, UInt64.le_iff_toNat_le, UInt64.lt_iff_toNat_lt]
  constructor
  · rintro ⟨n, hn, rfl⟩
    rw [toNat_ofNat_of_mem hn]
    rw [List.mem_range'_1] at hn
    omega
  · intro h
    exact ⟨a.toNat, List.mem_range'_1.2 (by omega), UInt64.ofNat_toNat⟩

theorem nodup_visited (r : Range) : (visited r).Nodup := by
  rw [visited_eq]
  refine List.Nodup.map_on ?_ List.nodup_range'
  intro m hm n hn h
  rw [← toNat_ofNat_of_mem hm, ← toNat_ofNat_of_mem hn, h]

theorem nodup_flatMap_visited {ranges : List Range} (h : Apart ranges) : (ranges.flatMap visited).Nodup := by
  rw [List.nodup_flatMap]
  refine ⟨fun r _ => nodup_visited r, h.gaps.imp ?_⟩
  intro r q hgap a hr hq
  have h1 := (mem_visited.1 hr).2
  have h2 := (mem_visited.1 hq).1
  grind

theorem next_le_stop {r : Range} {a : UInt64} (h : a ∈ visited r) : a.toNat + 1 < 2 ^ 64 ∧ a + 1 ≤ r.stop := by
  have hlt : a.toNat < r.stop.toNat := (mem_visited.1 h).2
  have hstop := r.stop.toNat_lt
  refine ⟨by omega, ?_⟩
  rw [UInt64.le_iff_toNat_le, UInt64.toNat_add, UInt64.toNat_one, Nat.mod_eq_of_lt (by omega)]
  omega

/-! ## Adding up -/

/-- The lengths of the ranges, added up without a bound. -/
def total (ranges : List Range) : Nat := (ranges.map fun r => r.stop.toNat - r.start.toNat).sum

@[simp]
theorem total_nil : total [] = 0 := rfl

@[simp]
theorem total_cons (r : Range) (rest : List Range) :
    total (r :: rest) = r.stop.toNat - r.start.toNat + total rest := rfl

theorem total_append (xs ys : List Range) : total (xs ++ ys) = total xs + total ys := by
  simp [total]

theorem length_flatMap_visited (ranges : List Range) : (ranges.flatMap visited).length = total ranges := by
  rw [List.length_flatMap, total]
  simp only [length_visited]

theorem add_total_lt {ranges : List Range} (h : Apart ranges) {low : Nat} (hlow : low < 2 ^ 64)
    (hstart : ∀ r ∈ ranges, low ≤ r.start.toNat) : low + total ranges < 2 ^ 64 := by
  induction ranges generalizing low with
  | nil => simpa using hlow
  | cons r rest ih =>
    obtain ⟨hproper, hrest⟩ := List.forall_mem_cons.1 h.proper
    obtain ⟨hgap, hgaps⟩ := List.pairwise_cons.1 h.gaps
    have hle := UInt64.le_iff_toNat_le.1 hproper.le
    have hbehind := ih ⟨hrest, hgaps⟩ r.stop.toNat_lt fun q hq => Nat.le_of_lt (UInt64.lt_iff_toNat_lt.1 (hgap q hq))
    have hfirst := hstart r List.mem_cons_self
    rw [total_cons]
    omega

theorem total_lt {ranges : List Range} (h : Apart ranges) : total ranges < 2 ^ 64 := by
  have := add_total_lt h (by decide : 0 < 2 ^ 64) fun r _ => Nat.zero_le _
  omega

theorem toNat_length {r : Range} (h : r.Proper) : (r.stop - r.start).toNat = r.stop.toNat - r.start.toNat :=
  UInt64.toNat_sub_of_le _ _ h.le

theorem toNat_foldl_lengths {ranges : List Range} (h : ∀ r ∈ ranges, r.Proper) {n : UInt64}
    (hn : n.toNat + total ranges < 2 ^ 64) :
    (ranges.foldl (fun n r => n + (r.stop - r.start)) n).toNat = n.toNat + total ranges := by
  induction ranges generalizing n with
  | nil => rfl
  | cons r rest ih =>
    obtain ⟨hproper, hrest⟩ := List.forall_mem_cons.1 h
    rw [total_cons] at hn
    have hsum : (n + (r.stop - r.start)).toNat = n.toNat + (r.stop.toNat - r.start.toNat) := by
      rw [UInt64.toNat_add, toNat_length hproper]
      exact Nat.mod_eq_of_lt (by omega)
    rw [List.foldl_cons, ih hrest (by omega), hsum, total_cons]
    omega

theorem toNat_size {ranges : List Range} (h : Apart ranges) : (size ⟨ranges⟩).toNat = total ranges := by
  have hlt := total_lt h
  unfold size
  rw [toNat_foldl_lengths h.proper (by simpa using hlt)]
  simp

theorem Apart.of_append {before behind : List Range} (h : Apart (before ++ behind)) : Apart before :=
  ⟨fun r hr => h.proper r (List.mem_append_left _ hr), (List.pairwise_append.1 h.gaps).1⟩

theorem mem_addressCount {s : RangeSet} {count a : UInt64} : a ∈ s.addressCount count ↔ Covers s.ranges a := by
  rw [Std.ExtTreeMap.mem_iff_isSome_getElem?, getElem?_addressCount]
  split <;> simp_all

theorem size_addressCount {ranges : List Range} (h : Apart ranges) (count : UInt64) :
    (addressCount ⟨ranges⟩ count).size = total ranges := by
  have hperm : (addressCount ⟨ranges⟩ count).keys.Perm (ranges.flatMap visited) := by
    rw [List.perm_ext_iff_of_nodup Std.ExtTreeMap.nodup_keys (nodup_flatMap_visited h)]
    intro a
    rw [Std.ExtTreeMap.mem_keys, mem_addressCount, List.mem_flatMap]
    simp only [mem_visited]
    rfl
  rw [← Std.ExtTreeMap.length_keys, hperm.length_eq, length_flatMap_visited]

/-! ## All views -/

theorem apart_ofAdds (calls : List (UInt64 × UInt64)) : Apart (ofAdds calls).ranges := by
  rw [ofAdds_eq_ofBlocks]
  exact apart_ofBlocks _

theorem covers_ofAdds (calls : List (UInt64 × UInt64)) (a : UInt64) :
    Covers (ofAdds calls).ranges a ↔ ∃ call ∈ calls, InBlock call.1 call.2 a := by
  rw [ofAdds_eq_ofBlocks, covers_ofBlocks]
  simp [Reached]

/-- After any additions, looking an address up, expanding the set and its size agree with the set of the
addresses that were added: the last address never is one, and a block that runs past it ends there. The sum of
the lengths wraps nowhere, neither in a length nor on the way, and neither does a step of the expansion, which
leads at most to the end of its range. -/
theorem views_agree (calls : List (UInt64 × UInt64)) (a count : UInt64) :
    let s := ofAdds calls
    (s.contains a = true ↔ a ∈ s.addressCount count) ∧
    (a ∈ s.addressCount count ↔
      a.toNat ≠ 2 ^ 64 - 1 ∧
        ∃ call ∈ calls, call.1.toNat ≤ a.toNat ∧ a.toNat < call.1.toNat + call.2.toNat) ∧
    (∀ n, (s.addressCount count)[a]? = some n → n = count) ∧
    s.size.toNat = (s.addressCount count).size ∧
    (∀ before r behind, s.ranges = before ++ r :: behind →
      r.start ≤ r.stop ∧ (size ⟨before⟩).toNat + (r.stop - r.start).toNat < 2 ^ 64) ∧
    ∀ r ∈ s.ranges, ∀ b ∈ visited r, b.toNat + 1 < 2 ^ 64 ∧ b + 1 ≤ r.stop := by
  intro s
  have hapart : Apart s.ranges := apart_ofAdds calls
  have hlast : a ≠ lastAddress ↔ a.toNat ≠ 2 ^ 64 - 1 := by
    rw [ne_eq, ← UInt64.toNat_inj, toNat_lastAddress]
    exact Iff.rfl
  refine ⟨?_, ?_, ?_, ?_, ?_, ?_⟩
  · rw [mem_addressCount]
    exact contains_iff_covers hapart a
  · rw [mem_addressCount, covers_ofAdds]
    simp only [InBlock, hlast]
    grind
  · intro n hn
    rw [getElem?_addressCount] at hn
    split at hn
    · exact (Option.some.inj hn).symm
    · cases hn
  · rw [size_addressCount hapart]
    exact toNat_size hapart
  · intro before r behind hsplit
    rw [hsplit] at hapart
    have hr : r.Proper := hapart.proper r (by simp)
    have hsum := total_lt hapart
    rw [total_append, total_cons] at hsum
    rw [toNat_size hapart.of_append, toNat_length hr]
    exact ⟨hr.le, by omega⟩
  · intro r _ b hb
    exact next_le_stop hb

end RangeSet

end LineCoverage
