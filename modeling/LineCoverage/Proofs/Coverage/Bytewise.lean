import LineCoverage.Proofs.Coverage

/-!
# Blocks expanded address by address

What the ranges stand for is the expansion that goes through every block and sets its addresses to one, one after
the other. The two agree but for the last address of the space: no range can end behind it, so that a block that
comes up to it loses it.
-/

namespace LineCoverage

def Block.addresses (b : Block) : List UInt64 :=
  (List.range b.size.toNat).map fun k => b.start + UInt64.ofNat k

def expandBytewise (blocks : List Block) : AddressCount :=
  (blocks.flatMap Block.addresses).foldl (fun counts a => counts.insert a 1) ∅

/-- A block that does not run past the end of the address space. -/
def Block.Fits (b : Block) : Prop := b.start.toNat + b.size.toNat ≤ 2 ^ 64

instance (b : Block) : Decidable b.Fits := inferInstanceAs (Decidable (_ ≤ _))

namespace Block

theorem toNat_start_add {b : Block} (h : b.Fits) {k : Nat} (hk : k < b.size.toNat) :
    (b.start + UInt64.ofNat k).toNat = b.start.toNat + k := by
  unfold Fits at h
  have hsmall : k < 2 ^ 64 := by omega
  rw [UInt64.toNat_add, UInt64.toNat_ofNat_of_lt' hsmall]
  exact Nat.mod_eq_of_lt (by omega)

theorem mem_addresses {b : Block} (h : b.Fits) {a : UInt64} :
    a ∈ b.addresses ↔ ∃ k < b.size.toNat, a.toNat = b.start.toNat + k := by
  simp only [addresses, List.mem_map, List.mem_range]
  refine exists_congr fun k => and_congr_right fun hk => ?_
  rw [← toNat_start_add h hk, UInt64.toNat_inj]
  exact eq_comm

/-- Of the addresses of a block the ranges miss the last one of the space, and no other. -/
theorem inBlock_iff {b : Block} (h : b.Fits) {a : UInt64} :
    RangeSet.InBlock b.start b.size a ↔ a ≠ RangeSet.lastAddress ∧ a ∈ b.addresses := by
  unfold RangeSet.InBlock
  rw [mem_addresses h]
  refine and_congr_right fun _ => ?_
  constructor
  · rintro ⟨hlow, hhigh⟩
    exact ⟨a.toNat - b.start.toNat, by omega, by omega⟩
  · rintro ⟨k, hk, ha⟩
    omega

theorem last_mem_addresses {b : Block} (h : b.Fits) :
    RangeSet.lastAddress ∈ b.addresses ↔ ¬ b.start.toNat + b.size.toNat < 2 ^ 64 := by
  have hstart := b.start.toNat_lt
  unfold Fits at h
  rw [mem_addresses h, RangeSet.toNat_lastAddress]
  constructor
  · rintro ⟨k, hk, hlast⟩
    omega
  · intro htop
    exact ⟨0xFFFFFFFFFFFFFFFF - b.start.toNat, by omega, by omega⟩

end Block

theorem getElem?_setAll (addresses : List UInt64) (counts : AddressCount) (a : UInt64) :
    (addresses.foldl (fun counts a => counts.insert a 1) counts)[a]? =
      if a ∈ addresses then some 1 else counts[a]? := by
  induction addresses generalizing counts with
  | nil => simp
  | cons first rest ih =>
    rw [List.foldl_cons, ih, Maps.getElem?_insert_eq]
    by_cases hrest : a ∈ rest <;> by_cases hfirst : first = a <;> grind

theorem getElem?_expandBytewise (blocks : List Block) (a : UInt64) :
    (expandBytewise blocks)[a]? = if ∃ b ∈ blocks, a ∈ b.addresses then some 1 else none := by
  unfold expandBytewise
  rw [getElem?_setAll]
  simp only [List.mem_flatMap, Std.ExtTreeMap.getElem?_empty]

theorem getElem?_expandBlocks_of_fits {blocks : List Block} (h : ∀ b ∈ blocks, b.Fits) (a : UInt64) :
    (expandBlocks blocks)[a]? =
      if a ≠ RangeSet.lastAddress ∧ ∃ b ∈ blocks, a ∈ b.addresses then some 1 else none := by
  have hreached : Reached blocks a ↔ a ≠ RangeSet.lastAddress ∧ ∃ b ∈ blocks, a ∈ b.addresses := by
    unfold Reached
    constructor
    · rintro ⟨b, hb, hin⟩
      obtain ⟨hne, hmem⟩ := (Block.inBlock_iff (h b hb)).1 hin
      exact ⟨hne, b, hb, hmem⟩
    · rintro ⟨hne, b, hb, hmem⟩
      exact ⟨b, hb, (Block.inBlock_iff (h b hb)).2 ⟨hne, hmem⟩⟩
  rw [getElem?_expandBlocks]
  simp only [hreached]

theorem expandBlocks_eq_erase {blocks : List Block} (h : ∀ b ∈ blocks, b.Fits) :
    expandBlocks blocks = (expandBytewise blocks).erase RangeSet.lastAddress := by
  apply Std.ExtTreeMap.ext_getElem?
  intro a
  rw [getElem?_expandBlocks_of_fits h, Std.ExtTreeMap.getElem?_erase, getElem?_expandBytewise]
  simp only [Std.LawfulEqCmp.compare_eq_iff_eq]
  by_cases hlast : RangeSet.lastAddress = a
  · simp [hlast]
  · simp [hlast, Ne.symm hlast]

theorem expandBlocks_eq_bytewise_iff {blocks : List Block} (h : ∀ b ∈ blocks, b.Fits) :
    expandBlocks blocks = expandBytewise blocks ↔ ∀ b ∈ blocks, RangeSet.lastAddress ∉ b.addresses := by
  constructor
  · intro heq b hb hmem
    have hlost := getElem?_expandBlocks_of_fits h RangeSet.lastAddress
    rw [heq, getElem?_expandBytewise, if_pos ⟨b, hb, hmem⟩] at hlost
    simp at hlost
  · intro habsent
    apply Std.ExtTreeMap.ext_getElem?
    intro a
    have hne : (∃ b ∈ blocks, a ∈ b.addresses) → a ≠ RangeSet.lastAddress := by
      rintro ⟨b, hb, hmem⟩ rfl
      exact habsent b hb hmem
    rw [getElem?_expandBlocks_of_fits h, getElem?_expandBytewise]
    simp only [and_iff_right_of_imp hne]

/-- For blocks within the address space, the ranges expand to the byte-by-byte expansion without the last address.
The two are equal exactly if no block comes up to the end of the space. -/
theorem expandBlocks_bytewise_but_last {blocks : List Block}
    (h : ∀ b ∈ blocks, b.start.toNat + b.size.toNat ≤ 2 ^ 64) :
    (∀ (a n : UInt64), (expandBytewise blocks)[a]? = some n ↔
      n = 1 ∧ ∃ b ∈ blocks, ∃ k < b.size.toNat, a.toNat = b.start.toNat + k) ∧
    expandBlocks blocks = (expandBytewise blocks).erase RangeSet.lastAddress ∧
    (expandBlocks blocks = expandBytewise blocks ↔ ∀ b ∈ blocks, b.start.toNat + b.size.toNat < 2 ^ 64) := by
  refine ⟨?_, expandBlocks_eq_erase h, ?_⟩
  · intro a n
    have hmem : (∃ b ∈ blocks, a ∈ b.addresses) ↔
        ∃ b ∈ blocks, ∃ k < b.size.toNat, a.toNat = b.start.toNat + k :=
      exists_congr fun b => and_congr_right fun hb => Block.mem_addresses (h b hb)
    rw [getElem?_expandBytewise, ← hmem]
    split
    · rename_i hsome
      simp [hsome, eq_comm]
    · rename_i hnone
      simp [hnone]
  · rw [expandBlocks_eq_bytewise_iff h]
    refine forall₂_congr fun b hb => ?_
    rw [Block.last_mem_addresses (h b hb), not_not]

/-- The last four bytes of the address space, at which a block ends without wrapping around. -/
def topBlock : Block := ⟨RangeSet.lastAddress - 3, RangeSet.lastAddress, 4⟩

theorem expandBlocks_bytewise_but_last_top :
    (∀ b ∈ [⟨16, 17, 2⟩, topBlock], b.start.toNat + b.size.toNat ≤ 2 ^ 64) ∧
    expandBlocks [⟨16, 17, 2⟩, topBlock] = (expandBytewise [⟨16, 17, 2⟩, topBlock]).erase RangeSet.lastAddress ∧
    expandBlocks [⟨16, 17, 2⟩] = expandBytewise [⟨16, 17, 2⟩] :=
  ⟨by decide, (expandBlocks_bytewise_but_last (by decide)).2.1,
    (expandBlocks_bytewise_but_last (by decide)).2.2.2 (by decide)⟩

/-- A block of four bytes that does not run past the end of the space comes out with three. -/
theorem expandBlocks_loses_last :
    topBlock.start.toNat + topBlock.size.toNat ≤ 2 ^ 64 ∧
    (expandBytewise [topBlock])[RangeSet.lastAddress]? = some 1 ∧
    (expandBlocks [topBlock])[RangeSet.lastAddress]? = none ∧
    ¬ ∀ blocks : List Block, (∀ b ∈ blocks, b.start.toNat + b.size.toNat ≤ 2 ^ 64) →
      expandBlocks blocks = expandBytewise blocks := by
  have hfits : ∀ b ∈ [topBlock], b.start.toNat + b.size.toNat ≤ 2 ^ 64 := by decide
  have hbytewise : (expandBytewise [topBlock])[RangeSet.lastAddress]? = some 1 := by
    rw [getElem?_expandBytewise]
    decide
  have hlost : (expandBlocks [topBlock])[RangeSet.lastAddress]? = none := by
    rw [getElem?_expandBlocks_of_fits hfits]
    simp
  refine ⟨by decide, hbytewise, hlost, ?_⟩
  intro hall
  rw [hall _ hfits, hbytewise] at hlost
  cases hlost

end LineCoverage
