import LineCoverage.Proofs.Coverage

/-!
# Merging in any order

A sequence of merges adds up what each of them brings, whichever module comes first and whether it was known before.
So the order of the merges does not matter, and nothing that is in a coverage leaves it again.
-/

namespace LineCoverage

namespace ModuleCoverage

def mergeAll (cov : ModuleCoverage) (merges : List (Bytes × AddressCount)) : ModuleCoverage :=
  merges.foldl (fun cov m => cov.merge m.1 m.2) cov

/-- What the entries bring to the count of an address, added up without a bound. -/
def contributed (entries : List (Bytes × AddressCount)) (module : Bytes) (a : UInt64) : Nat :=
  ((entries.filter fun e => e.1 = module).map fun e => (AddressCount.count e.2 a).toNat).sum

/-- The addresses that the entries bring, each with its module. -/
def places (entries : List (Bytes × AddressCount)) : List (Bytes × UInt64) :=
  entries.flatMap fun e => e.2.keys.map fun a => (e.1, a)

/-! ## One merge -/

theorem mem_merge (cov : ModuleCoverage) (module : Bytes) (counts : AddressCount) (m : Bytes) :
    m ∈ cov.merge module counts ↔ m ∈ cov ∨ module = m := by
  unfold merge
  rw [Std.ExtTreeMap.mem_iff_isSome_getElem?, Std.ExtTreeMap.mem_iff_isSome_getElem?, Maps.getElem?_alter_eq]
  by_cases h : module = m
  · cases cov[m]? <;> simp [h]
  · simp [h]

theorem seen_merge (cov : ModuleCoverage) (module : Bytes) (counts : AddressCount) (m : Bytes) (a : UInt64) :
    (cov.merge module counts).seen m a =
      if module = m then
        match counts[a]? with
        | none => cov.seen m a
        | some n => some ((cov.seen m a).getD 0 + n)
      else cov.seen m a := by
  unfold seen merge
  rw [Maps.getElem?_alter_eq]
  by_cases h : module = m
  · simp only [h, if_true]
    cases cov[m]? with
    | none => cases hc : counts[a]? <;> simp [hc]
    | some old => cases hc : counts[a]? <;> simp [AddressCount.getElem?_add, hc]
  · simp [h]

theorem isSome_seen_merge (cov : ModuleCoverage) (module : Bytes) (counts : AddressCount) (m : Bytes) (a : UInt64) :
    ((cov.merge module counts).seen m a).isSome ↔ (cov.seen m a).isSome ∨ module = m ∧ a ∈ counts := by
  rw [seen_merge, Std.ExtTreeMap.mem_iff_isSome_getElem?]
  by_cases h : module = m
  · cases counts[a]? <;> simp [h]
  · simp [h]

theorem toNat_seen_merge (cov : ModuleCoverage) (module : Bytes) (counts : AddressCount) (m : Bytes) (a : UInt64) :
    (((cov.merge module counts).seen m a).getD 0).toNat =
      (((cov.seen m a).getD 0).toNat + if module = m then (AddressCount.count counts a).toNat else 0) % 2 ^ 64 := by
  have hlt := ((cov.seen m a).getD 0).toNat_lt
  unfold AddressCount.count
  rw [seen_merge, Std.ExtTreeMap.getD_eq_getD_getElem?]
  by_cases h : module = m
  · cases counts[a]? with
    | none => simp [h, Nat.mod_eq_of_lt hlt]
    | some n => simp [h]
  · simp [h, Nat.mod_eq_of_lt hlt]

/-! ## What entries bring -/

theorem contributed_cons (e : Bytes × AddressCount) (rest : List (Bytes × AddressCount)) (m : Bytes) (a : UInt64) :
    contributed (e :: rest) m a =
      (if e.1 = m then (AddressCount.count e.2 a).toNat else 0) + contributed rest m a := by
  unfold contributed
  by_cases h : e.1 = m <;> simp [h]

theorem contributed_append (xs ys : List (Bytes × AddressCount)) (m : Bytes) (a : UInt64) :
    contributed (xs ++ ys) m a = contributed xs m a + contributed ys m a := by
  simp [contributed]

theorem contributed_perm {xs ys : List (Bytes × AddressCount)} (h : xs.Perm ys) (m : Bytes) (a : UInt64) :
    contributed xs m a = contributed ys m a := by
  unfold contributed
  exact ((h.filter _).map _).sum_eq

theorem contributed_toList (cov : ModuleCoverage) (m : Bytes) (a : UInt64) :
    contributed cov.toList m a = ((cov.seen m a).getD 0).toNat := by
  unfold contributed seen AddressCount.count
  rw [Maps.filter_entries_of_perm (List.Perm.refl cov.toList)]
  cases cov[m]? with
  | none => rfl
  | some counts => simp [Std.ExtTreeMap.getD_eq_getD_getElem?]

theorem mem_iff_mem_toList (cov : ModuleCoverage) (m : Bytes) : m ∈ cov ↔ ∃ e ∈ cov.toList, e.1 = m := by
  rw [← Std.ExtTreeMap.mem_keys, ← Std.ExtTreeMap.map_fst_toList_eq_keys, List.mem_map]

theorem isSome_seen_iff (cov : ModuleCoverage) (m : Bytes) (a : UInt64) :
    (cov.seen m a).isSome ↔ ∃ e ∈ cov.toList, e.1 = m ∧ a ∈ e.2 := by
  unfold seen
  rw [Option.isSome_bind, Option.any_eq_true]
  constructor
  · rintro ⟨counts, hm, ha⟩
    exact ⟨(m, counts), Std.ExtTreeMap.mem_toList_iff_getElem?_eq_some.2 hm, rfl,
      Std.ExtTreeMap.mem_iff_isSome_getElem?.2 ha⟩
  · rintro ⟨⟨_, counts⟩, hmem, rfl, ha⟩
    exact ⟨counts, Std.ExtTreeMap.mem_toList_iff_getElem?_eq_some.1 hmem,
      Std.ExtTreeMap.mem_iff_isSome_getElem?.1 ha⟩

/-! ## Any number of merges -/

theorem mem_mergeAll (merges : List (Bytes × AddressCount)) (cov : ModuleCoverage) (m : Bytes) :
    m ∈ cov.mergeAll merges ↔ m ∈ cov ∨ ∃ e ∈ merges, e.1 = m := by
  induction merges generalizing cov with
  | nil => simp [mergeAll]
  | cons e rest ih =>
    have h := ih (cov.merge e.1 e.2)
    unfold mergeAll at h ⊢
    rw [List.foldl_cons, h, mem_merge, or_assoc]
    simp only [List.mem_cons, exists_eq_or_imp]

theorem isSome_seen_mergeAll (merges : List (Bytes × AddressCount)) (cov : ModuleCoverage) (m : Bytes) (a : UInt64) :
    ((cov.mergeAll merges).seen m a).isSome ↔ (cov.seen m a).isSome ∨ ∃ e ∈ merges, e.1 = m ∧ a ∈ e.2 := by
  induction merges generalizing cov with
  | nil => simp [mergeAll]
  | cons e rest ih =>
    have h := ih (cov.merge e.1 e.2)
    unfold mergeAll at h ⊢
    rw [List.foldl_cons, h, isSome_seen_merge, or_assoc]
    simp only [List.mem_cons, exists_eq_or_imp]

theorem toNat_seen_mergeAll (merges : List (Bytes × AddressCount)) (cov : ModuleCoverage) (m : Bytes) (a : UInt64) :
    (((cov.mergeAll merges).seen m a).getD 0).toNat =
      (((cov.seen m a).getD 0).toNat + contributed merges m a) % 2 ^ 64 := by
  induction merges generalizing cov with
  | nil => exact (Nat.mod_eq_of_lt (UInt64.toNat_lt _)).symm
  | cons e rest ih =>
    have h := ih (cov.merge e.1 e.2)
    unfold mergeAll at h ⊢
    rw [List.foldl_cons, h, toNat_seen_merge, contributed_cons, Nat.mod_add_mod, Nat.add_assoc]

theorem mergeAll_append (cov : ModuleCoverage) (before between : List (Bytes × AddressCount)) :
    cov.mergeAll (before ++ between) = (cov.mergeAll before).mergeAll between := by
  unfold mergeAll
  rw [List.foldl_append]

theorem seen_le_mergeAll {cov : ModuleCoverage} {merges : List (Bytes × AddressCount)} {m : Bytes} {a : UInt64}
    (h : ((cov.seen m a).getD 0).toNat + contributed merges m a < 2 ^ 64) :
    (cov.seen m a).getD 0 ≤ ((cov.mergeAll merges).seen m a).getD 0 := by
  rw [UInt64.le_iff_toNat_le, toNat_seen_mergeAll, Nat.mod_eq_of_lt h]
  omega

/-! ## The order does not matter -/

theorem eq_of_seen {cov cov' : ModuleCoverage} (hmem : ∀ m, m ∈ cov ↔ m ∈ cov')
    (hseen : ∀ m a, cov.seen m a = cov'.seen m a) : cov = cov' := by
  apply Std.ExtTreeMap.ext_getElem?
  intro m
  have hm := hmem m
  rw [Std.ExtTreeMap.mem_iff_isSome_getElem?, Std.ExtTreeMap.mem_iff_isSome_getElem?] at hm
  have hs := hseen m
  unfold seen at hs
  cases h : cov[m]? with
  | none => 
    cases h' : cov'[m]? with
    | none => rfl
    | some counts' => simp [h, h'] at hm
  | some counts =>
    cases h' : cov'[m]? with
    | none => simp [h, h'] at hm
    | some counts' =>
      congr 1
      apply Std.ExtTreeMap.ext_getElem?
      intro a
      simpa [h, h'] using hs a

theorem mergeAll_perm (cov : ModuleCoverage) {merges merges' : List (Bytes × AddressCount)} (h : merges.Perm merges') :
    cov.mergeAll merges = cov.mergeAll merges' := by
  apply eq_of_seen
  · intro m
    simp only [mem_mergeAll, h.mem_iff]
  · intro m a
    have hsome : ((cov.mergeAll merges).seen m a).isSome ↔ ((cov.mergeAll merges').seen m a).isSome := by
      simp only [isSome_seen_mergeAll, h.mem_iff]
    have hcount : ((cov.mergeAll merges).seen m a).getD 0 = ((cov.mergeAll merges').seen m a).getD 0 := by
      rw [← UInt64.toNat_inj, toNat_seen_mergeAll, toNat_seen_mergeAll, contributed_perm h]
    cases hs : (cov.mergeAll merges).seen m a <;> cases hs' : (cov.mergeAll merges').seen m a <;> simp_all

/-! ## The number of addresses -/

theorem mem_places {entries : List (Bytes × AddressCount)} {m : Bytes} {a : UInt64} :
    (m, a) ∈ places entries ↔ ∃ e ∈ entries, e.1 = m ∧ a ∈ e.2 := by
  simp only [places, List.mem_flatMap, List.mem_map, Prod.mk.injEq, Std.ExtTreeMap.mem_keys]
  grind

theorem addresses_eq_length (cov : ModuleCoverage) : cov.addresses = (places cov.toList).length := by
  unfold addresses places
  rw [Std.ExtTreeMap.foldl_eq_foldl_toList, List.length_flatMap]
  simp only [List.length_map, Std.ExtTreeMap.length_keys]
  rw [List.sum_eq_foldl, List.foldl_map]

theorem nodup_places (cov : ModuleCoverage) : (places cov.toList).Nodup := by
  unfold places
  rw [List.nodup_flatMap]
  have hnames : cov.toList.Pairwise fun e e' => e.1 ≠ e'.1 := List.pairwise_map.1 (Maps.nodup_names_toList cov)
  constructor
  · intro e _
    exact Std.ExtTreeMap.nodup_keys.map fun a a' h => (Prod.mk.inj h).2
  · refine hnames.imp ?_
    intro e e' hne p hp hp'
    obtain ⟨a, -, rfl⟩ := List.mem_map.1 hp
    obtain ⟨a', -, heq⟩ := List.mem_map.1 hp'
    exact hne (Prod.mk.inj heq).1.symm

theorem addresses_mergeAll (cov : ModuleCoverage) (merges : List (Bytes × AddressCount)) :
    (cov.mergeAll merges).addresses = (places (cov.toList ++ merges)).toFinset.card := by
  rw [addresses_eq_length, ← List.toFinset_card_of_nodup (nodup_places _)]
  congr 1
  ext ⟨m, a⟩
  rw [List.mem_toFinset, List.mem_toFinset, mem_places, mem_places, ← isSome_seen_iff, isSome_seen_mergeAll,
    isSome_seen_iff]
  simp only [List.mem_append, or_and_right, exists_or]

/-! ## All merges together -/

/-- Merges in another order give the same coverage. It has the modules and addresses that it began with or that a
merge has brought, each with the sum of what they brought, modulo the bound of the counts, and its addresses are
counted once each. From one moment of the run to a later one no module and no address is lost, and the count of an
address does not fall unless its contributions together come up to the bound. -/
theorem merges_commute_and_grow (cov : ModuleCoverage) {merges merges' : List (Bytes × AddressCount)}
    (h : merges.Perm merges') :
    let entries := cov.toList ++ merges
    let merged := cov.mergeAll merges
    cov.mergeAll merges' = merged ∧
    (∀ m, m ∈ merged ↔ ∃ e ∈ entries, e.1 = m) ∧
    (∀ m counts, merged[m]? = some counts → ∀ a,
      (a ∈ counts ↔ ∃ e ∈ entries, e.1 = m ∧ a ∈ e.2) ∧
      (AddressCount.count counts a).toNat = contributed entries m a % 2 ^ 64) ∧
    merged.addresses = (places entries).toFinset.card ∧
    ∀ before between after, merges = before ++ between ++ after → ∀ m a,
      (m ∈ cov.mergeAll before → m ∈ cov.mergeAll (before ++ between)) ∧
      (((cov.mergeAll before).seen m a).isSome → ((cov.mergeAll (before ++ between)).seen m a).isSome) ∧
      (contributed entries m a < 2 ^ 64 →
        ((cov.mergeAll before).seen m a).getD 0 ≤ ((cov.mergeAll (before ++ between)).seen m a).getD 0) := by
  intro entries merged
  refine ⟨(mergeAll_perm cov h).symm, ?_, ?_, addresses_mergeAll cov merges, ?_⟩
  · intro m
    rw [mem_mergeAll, mem_iff_mem_toList]
    simp only [entries, List.mem_append, or_and_right, exists_or]
  · intro m counts hm a
    have hseen : merged.seen m a = counts[a]? := by simp [seen, hm]
    rw [Std.ExtTreeMap.mem_iff_isSome_getElem?, AddressCount.count, Std.ExtTreeMap.getD_eq_getD_getElem?, ← hseen]
    constructor
    · rw [isSome_seen_mergeAll, isSome_seen_iff]
      simp only [entries, List.mem_append, or_and_right, exists_or]
    · rw [toNat_seen_mergeAll, contributed_append, contributed_toList]
  · rintro before between after rfl m a
    rw [mergeAll_append]
    refine ⟨fun hm => (mem_mergeAll ..).2 (.inl hm), fun ha => (isSome_seen_mergeAll ..).2 (.inl ha), ?_⟩
    intro htotal
    simp only [entries, contributed_append, contributed_toList] at htotal
    apply seen_le_mergeAll
    rw [toNat_seen_mergeAll, Nat.mod_eq_of_lt (by omega)]
    omega

/-- Two runs of one module that share an address, and an empty one of another module between them. -/
def twoRuns : List (Bytes × AddressCount) :=
  let first : AddressCount := (Std.ExtTreeMap.insert ∅ 10 1).insert 11 2
  let second : AddressCount := (Std.ExtTreeMap.insert ∅ 11 3).insert 12 0
  [("m", first), ("n", ∅), ("m", second)]

theorem merges_commute_and_grow_twoRuns :
    twoRuns.Perm twoRuns.reverse ∧
    mergeAll ∅ twoRuns.reverse = mergeAll ∅ twoRuns ∧
    (mergeAll ∅ twoRuns).addresses = 3 ∧
    contributed twoRuns "m" 11 = 5 ∧
    ((mergeAll ∅ (twoRuns.take 1)).seen "m" 11).getD 0 ≤ ((mergeAll ∅ twoRuns).seen "m" 11).getD 0 := by
  have hperm : twoRuns.Perm twoRuns.reverse := twoRuns.reverse_perm.symm
  obtain ⟨hsame, -, -, haddresses, halong⟩ := merges_commute_and_grow ∅ hperm
  refine ⟨hperm, hsame, haddresses.trans (by decide +kernel), by decide +kernel, ?_⟩
  exact (halong (twoRuns.take 1) (twoRuns.drop 1) [] rfl "m" 11).2.2 (by decide +kernel)

end ModuleCoverage

end LineCoverage
