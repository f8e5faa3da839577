import LineCoverage.Coverage
import LineCoverage.Proofs.RangeSet

/-!
# What counts hold

The count of an address after blocks are expanded, counts are added up and runs are merged.
-/

namespace LineCoverage

/-- Whether one of the blocks has the address. -/
def Reached (blocks : List Block) (a : UInt64) : Prop :=
  ∃ b ∈ blocks, RangeSet.InBlock b.start b.size a

instance (blocks : List Block) (a : UInt64) : Decidable (Reached blocks a) :=
  inferInstanceAs (Decidable (∃ b ∈ blocks, RangeSet.InBlock b.start b.size a))

theorem not_reached_nil (a : UInt64) : ¬ Reached [] a := by simp [Reached]

/-! ## Blocks -/

namespace RangeSet

theorem foldl_add_spec (blocks : List Block) (s : RangeSet) (h : Apart s.ranges) :
    Apart (blocks.foldl (fun s b => s.add b.start b.size) s).ranges ∧
      ∀ a, Covers (blocks.foldl (fun s b => s.add b.start b.size) s).ranges a ↔
        Reached blocks a ∨ Covers s.ranges a := by
  induction blocks generalizing s with
  | nil => exact ⟨h, fun a => by simp [not_reached_nil]⟩
  | cons b rest ih =>
    obtain ⟨hapart, hcovers⟩ := ih (s.add b.start b.size) (apart_add h b.start b.size)
    refine ⟨hapart, fun a => ?_⟩
    rw [List.foldl_cons, hcovers, covers_add h]
    simp only [Reached, List.mem_cons, exists_eq_or_imp]
    grind

theorem apart_ofBlocks (blocks : List Block) : Apart (ofBlocks blocks).ranges :=
  (foldl_add_spec blocks .empty apart_nil).1

theorem covers_ofBlocks (blocks : List Block) (a : UInt64) :
    Covers (ofBlocks blocks).ranges a ↔ Reached blocks a := by
  unfold ofBlocks
  rw [(foldl_add_spec blocks .empty apart_nil).2 a]
  simp [RangeSet.empty, Covers]

theorem foldl_insert_spec (ranges : List Range) (acc : AddressCount) (count a : UInt64) :
    (ranges.foldl (fun acc r => foldAddresses (fun counts x => counts.insert x count) acc r.start r.stop)
      acc)[a]? = if Covers ranges a then some count else acc[a]? := by
  induction ranges generalizing acc with
  | nil => simp [Covers]
  | cons r rest ih =>
    rw [List.foldl_cons, ih, foldAddresses_insert]
    have h := covers_cons r rest a
    unfold Range.Holds at h
    grind

theorem getElem?_addressCount (s : RangeSet) (count a : UInt64) :
    (s.addressCount count)[a]? = if Covers s.ranges a then some count else none := by
  unfold addressCount fold
  rw [foldl_insert_spec]
  simp

end RangeSet

theorem getElem?_expandBlocks (blocks : List Block) (a : UInt64) :
    (expandBlocks blocks)[a]? = if Reached blocks a then some 1 else none := by
  unfold expandBlocks
  rw [RangeSet.getElem?_addressCount]
  simp only [RangeSet.covers_ofBlocks]

/-! ## Adding up -/

theorem AddressCount.getElem?_add (counts more : AddressCount) (a : UInt64) :
    (AddressCount.add counts more)[a]? =
      match more[a]? with
      | none => counts[a]?
      | some n => some (counts[a]?.getD 0 + n) := by
  unfold AddressCount.add AddressCount.bump
  rw [Std.ExtTreeMap.foldl_eq_foldl_toList]
  refine (Maps.getElem?_foldl_alter_of_perm (List.Perm.refl more.toList)
    (fun n old => some (old.getD 0 + n)) counts a).trans ?_
  cases more[a]? <;> rfl

namespace ModuleCoverage

/-- The count of an address of a module, if there is one. -/
def seen (cov : ModuleCoverage) (module : Bytes) (a : UInt64) : Option UInt64 :=
  cov[module]?.bind fun counts => counts[a]?

theorem seen_empty (module : Bytes) (a : UInt64) : seen ∅ module a = none := by
  simp [seen]

/-- What the counts of a module become when the blocks of a run are added. -/
def withRun (blocks : List Block) : Option AddressCount → Option AddressCount
  | none => some (expandBlocks blocks)
  | some old => some (AddressCount.add old (expandBlocks blocks))

theorem addBlocks_eq_alter (cov : ModuleCoverage) (module : Bytes) (blocks : List Block) :
    cov.addBlocks module blocks = cov.alter module (withRun blocks) := by
  unfold addBlocks merge
  congr 1

theorem isSome_withRun (blocks : List Block) (old : Option AddressCount) :
    (withRun blocks old).isSome = true := by
  cases old <;> rfl

/-- One run counts an address once, however many of its blocks have it. -/
theorem bind_withRun (blocks : List Block) (old : Option AddressCount) (a : UInt64) :
    ((withRun blocks old).bind fun counts => counts[a]?) =
      if Reached blocks a then some ((old.bind fun counts => counts[a]?).getD 0 + 1)
      else old.bind fun counts => counts[a]? := by
  cases old with
  | none =>
    simp only [withRun, Option.bind_some, Option.bind_none, getElem?_expandBlocks]
    rfl
  | some counts =>
    simp only [withRun, Option.bind_some, AddressCount.getElem?_add, getElem?_expandBlocks]
    by_cases h : Reached blocks a <;> simp [h]

end ModuleCoverage

end LineCoverage
