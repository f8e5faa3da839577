import LineCoverage.Proofs.Coverage.Merging
import LineCoverage.Proofs.Symbols.Cache
import LineCoverage.Proofs.Symbols.Mapping

/-!
# Merging and mapping commute

A line counts as often as its addresses, and a merge adds the counts of addresses. So it does not matter whether runs
are merged before they are mapped to lines or after.
-/

namespace LineCoverage

namespace FileLines

/-- The lines of each part and no others, each counted as often as in all parts together, modulo 2 ^ 64. -/
structure SumOf (cov : FileLines) (parts : List FileLines) : Prop where
  lines : ∀ part ∈ parts, ∀ file line, (part.entry file line).isSome ↔ (cov.entry file line).isSome
  counts : ∀ file line n, cov.entry file line = some n →
    n.toNat = (parts.map fun part => ((part.entry file line).getD 0).toNat).sum % 2 ^ 64

theorem SumOf.entry_pair {cov first second : FileLines} (h : cov.SumOf [first, second]) {file : Bytes} {line : Int64}
    {x y : UInt64} (hx : first.entry file line = some x) (hy : second.entry file line = some y) :
    cov.entry file line = some (x + y) := by
  have hsome := (h.lines first List.mem_cons_self file line).1 (by rw [hx]; rfl)
  obtain ⟨n, hn⟩ := Option.isSome_iff_exists.1 hsome
  have hcount := h.counts file line n hn
  simp only [List.map_cons, hx, hy, Option.getD_some, List.map_nil, List.sum_cons, List.sum_nil, Nat.add_zero] at hcount
  rw [hn, Option.some.injEq, ← UInt64.toNat_inj, hcount, UInt64.toNat_add]

end FileLines

/-! ## Merged counts -/

namespace AddressCount

/-- Every address counts as often as in all runs together, modulo 2 ^ 64. -/
def SumOf (counts : AddressCount) (runs : List AddressCount) : Prop :=
  ∀ a, (count counts a).toNat = (runs.map fun run => (count run a).toNat).sum % 2 ^ 64

theorem sumOf_add (a b : AddressCount) : (add a b).SumOf [a, b] := by
  intro x
  simp only [count, Std.ExtTreeMap.getD_eq_getD_getElem?, getElem?_add]
  cases hb : b[x]? <;> simp [hb]

end AddressCount

namespace ModuleCoverage

def runsOf (module : Bytes) (merges : List (Bytes × AddressCount)) : List AddressCount :=
  (merges.filter fun e => e.1 = module).map Prod.snd

theorem exists_mergeAll {module : Bytes} {merges : List (Bytes × AddressCount)} (h : runsOf module merges ≠ []) :
    ∃ merged, (mergeAll ∅ merges)[module]? = some merged ∧ merged.SumOf (runsOf module merges) := by
  have hmem : module ∈ mergeAll ∅ merges := by
    rw [mem_mergeAll]
    right
    simpa [runsOf, List.filter_eq_nil_iff] using h
  rw [Std.ExtTreeMap.mem_iff_isSome_getElem?] at hmem
  obtain ⟨merged, hmerged⟩ := Option.isSome_iff_exists.1 hmem
  refine ⟨merged, hmerged, fun a => ?_⟩
  have hseen : (mergeAll ∅ merges).seen module a = merged[a]? := by simp [seen, hmerged]
  have hcount := toNat_seen_mergeAll merges ∅ module a
  rw [hseen, seen_empty] at hcount
  rw [AddressCount.count, Std.ExtTreeMap.getD_eq_getD_getElem?, hcount]
  simp [contributed, runsOf, Function.comp_def]

end ModuleCoverage

namespace LineTable

theorem sum_map_mod {α : Type} (l : List α) (f : α → Nat) (m : Nat) :
    (l.map fun a => f a % m).sum % m = (l.map f).sum % m := by
  rw [List.sum_nat_mod (l.map f), List.map_map]
  rfl

theorem lineTotal_of_sum (t : LineTable) {merged : AddressCount} {runs : List AddressCount}
    (h : merged.SumOf runs) (file : Bytes) (line : Int64) :
    t.lineTotal merged file line = (runs.map fun run => t.lineTotal run file line).sum % 2 ^ 64 := by
  -- All sums by rows, then by runs, are summed by runs first; each inner sum may wrap on its own.
  have hswap := Multiset.sum_map_sum_map (t.rowsAt file line : Multiset Row) (runs : Multiset AddressCount)
    (f := fun r run => (AddressCount.count run r.address).toNat)
  simp only [Multiset.map_coe, Multiset.sum_coe] at hswap
  simp only [lineTotal, h _]
  rw [sum_map_mod, sum_map_mod, hswap]

end LineTable

namespace Symbols

open LineTable

theorem toNat_entry_mapLines (t : LineTable) (counts : AddressCount) (file : Bytes) (line : Int64) :
    (((mapLines t counts false).entry file line).getD 0).toNat = t.lineTotal counts file line := by
  cases hentry : (mapLines t counts false).entry file line with
  | some n => exact ((entry_mapLines_eq_some_iff t counts false).1 hentry).2.2
  | none =>
    have hrow : ¬ ∃ r ∈ t.rows, r.file = file ∧ r.line = line := by
      rintro ⟨r, hr, hfile, hline⟩
      have hsome := (isSome_entry_mapLines_iff t counts false).2
        ⟨(mem_mapLines t counts false file).2 ⟨⟨r, hr, hfile⟩, by simp⟩, r, hr, hfile, hline⟩
      rw [hentry] at hsome
      cases hsome
    rw [← rowsAt_ne_nil_iff, not_not] at hrow
    rw [t.lineTotal_eq_zero counts hrow]
    rfl

theorem sumOf_mapLines (t : LineTable) {merged : AddressCount} {runs : List AddressCount}
    (h : merged.SumOf runs) : (mapLines t merged false).SumOf (runs.map fun run => mapLines t run false) := by
  constructor
  · intro part hpart file line
    obtain ⟨run, -, rfl⟩ := List.mem_map.1 hpart
    simp [isSome_entry_mapLines_iff, mem_mapLines]
  · intro file line n hn
    rw [((entry_mapLines_eq_some_iff t merged false).1 hn).2.2, lineTotal_of_sum t h, List.map_map]
    simp only [Function.comp_def, toNat_entry_mapLines]

/-! ## Questions about one module -/

def Question.about (module : Bytes) (counts : AddressCount) : Question := ⟨false, module, counts, false⟩

variable {sym : Symbols} {s : Store} {module : Bytes} {t : LineTable}

theorem Has.ask (h : sym.Has s module t) (hkeeps : 0 < sym.tables.capacity) (counts : AddressCount) :
    ((Question.about module counts).ask s sym).1 = .ok (mapLines t counts false) ∧
      ((Question.about module counts).ask s sym).2.Has s module t ∧
      0 < ((Question.about module counts).ask s sym).2.tables.capacity := by
  refine ⟨coverage_of_has counts false h, ?_⟩
  obtain ⟨path, hpath, htable⟩ := h
  have hnext : ((Question.about module counts).ask s sym).2 = { sym with tables := sym.tables.insert path t } := by
    have hsym : ((Question.about module counts).ask s sym).2 = (sym.lineTable s path).2 := by
      simp [Question.ask, Question.about, coverage, hpath]
    rw [hsym]
    rcases lineTable_cases sym s path with ⟨t', -, heq⟩ | ⟨e, -, heq⟩
    · rw [heq] at htable ⊢
      cases htable
      rfl
    · rw [heq] at htable
      cases htable
  rw [hnext]
  refine ⟨⟨path, hpath, ?_⟩, hkeeps⟩
  simp [lineTable, Cache.find?_insert_self hkeeps]

theorem Has.askAll (h : sym.Has s module t) (hkeeps : 0 < sym.tables.capacity) (runs : List AddressCount) :
    (Symbols.askAll s sym (runs.map (Question.about module))).1 = runs.map fun run => .ok (mapLines t run false) := by
  induction runs generalizing sym with
  | nil => rfl
  | cons run rest ih =>
    obtain ⟨hanswer, hnext, hcapacity⟩ := h.ask hkeeps run
    simp only [List.map_cons, Symbols.askAll, hanswer, ih hnext hcapacity]

/-- It does not matter whether runs are merged first or mapped to lines first. The merged counts of two runs of a
module have the same lines as each of the runs, and count them as often as both together, modulo 2 ^ 64. The same holds
for all runs of the module in a sequence of merges, whatever else is merged in between. Symbols that keep tables also
answer so when they are asked for one run after the other. -/
theorem merging_commutes_with_mapping (h : sym.Has s module t) :
    let mapped (run : AddressCount) := ((Question.about module run).ask s sym).1
    (∀ (target : ModuleCoverage) (a b : AddressCount), target[module]? = some a →
      ∃ merged covA covB cov, (target.merge module b)[module]? = some merged ∧
        mapped a = .ok covA ∧ mapped b = .ok covB ∧ mapped merged = .ok cov ∧ cov.SumOf [covA, covB]) ∧
    (∀ merges : List (Bytes × AddressCount), ModuleCoverage.runsOf module merges ≠ [] →
      ∃ merged covs cov, (ModuleCoverage.mergeAll ∅ merges)[module]? = some merged ∧
        (ModuleCoverage.runsOf module merges).map mapped = covs.map .ok ∧ mapped merged = .ok cov ∧
        cov.SumOf covs) ∧
    (0 < sym.tables.capacity →
      ∀ runs : List AddressCount, (Symbols.askAll s sym (runs.map (Question.about module))).1 = runs.map mapped) := by
  intro mapped
  have hmapped : mapped = fun run => .ok (mapLines t run false) := funext fun run => coverage_of_has run false h
  rw [hmapped]
  refine ⟨fun target a b ha => ?_, fun merges hruns => ?_, fun hkeeps runs => h.askAll hkeeps runs⟩
  · refine ⟨AddressCount.add a b, _, _, _, ?_, rfl, rfl, rfl, sumOf_mapLines t (AddressCount.sumOf_add a b)⟩
    rw [ModuleCoverage.merge, Maps.getElem?_alter_eq, if_pos rfl, ha]
  · obtain ⟨merged, hmerged, hcounts⟩ := ModuleCoverage.exists_mergeAll hruns
    refine ⟨merged, _, _, hmerged, ?_, rfl, sumOf_mapLines t hcounts⟩
    rw [List.map_map]
    rfl

/-- Two runs of a module whose counts wrap together, alone and with a run of another module between them. Line 1 counts
2 ^ 64 - 2 times in the first run, 4 times in the second, and so twice in both. -/
theorem merging_commutes_with_mapping_shared :
    let a : AddressCount := Std.ExtTreeMap.insert ∅ 16 18446744073709551615
    let b : AddressCount := (Std.ExtTreeMap.insert ∅ 16 1).insert 17 2
    let merges : List (Bytes × AddressCount) := [("m", a), ("n", b), ("m", b)]
    let mapped (run : AddressCount) := ((Question.about "m" run).ask oneBinary (keeping sharedRows)).1
    (keeping sharedRows).Has oneBinary "m" sharedRows ∧
    (∃ merged covA covB cov, (ModuleCoverage.merge (Std.ExtTreeMap.insert ∅ (utf8 "m") a) "m" b)[utf8 "m"]? =
        some merged ∧
      mapped a = .ok covA ∧ mapped b = .ok covB ∧ mapped merged = .ok cov ∧ cov.SumOf [covA, covB] ∧
      covA.entry "a.c" 1 = some 18446744073709551614 ∧ covB.entry "a.c" 1 = some 4 ∧ cov.entry "a.c" 1 = some 2) ∧
    (∃ merged covs cov, (ModuleCoverage.mergeAll ∅ merges)[utf8 "m"]? = some merged ∧
      [a, b].map mapped = covs.map .ok ∧ mapped merged = .ok cov ∧ cov.SumOf covs ∧ cov.entry "a.c" 1 = some 2) ∧
    (Symbols.askAll oneBinary (keeping sharedRows) ([a, b].map (Question.about "m"))).1 = [a, b].map mapped := by
  intro a b merges mapped
  have hruns : ModuleCoverage.runsOf "m" merges = [a, b] := rfl
  obtain ⟨htwo, hmany, hasked⟩ := merging_commutes_with_mapping (keeping_has sharedRows)
  have hentryA : (mapLines sharedRows a false).entry "a.c" 1 = some 18446744073709551614 := by decide +kernel
  have hentryB : (mapLines sharedRows b false).entry "a.c" 1 = some 4 := by decide +kernel
  have hmapped : ∀ run, mapped run = .ok (mapLines sharedRows run false) := fun run =>
    coverage_of_has run false (keeping_has sharedRows)
  refine ⟨keeping_has sharedRows, ?_, ?_, hasked (by decide) [a, b]⟩
  · obtain ⟨merged, covA, covB, cov, hmerged, hA, hB, hcov, hsum⟩ :=
      htwo (Std.ExtTreeMap.insert ∅ (utf8 "m") a) a b (by simp)
    obtain rfl := Except.ok.inj ((hmapped a).symm.trans hA)
    obtain rfl := Except.ok.inj ((hmapped b).symm.trans hB)
    exact ⟨merged, _, _, cov, hmerged, hA, hB, hcov, hsum, hentryA, hentryB, hsum.entry_pair hentryA hentryB⟩
  · obtain ⟨merged, covs, cov, hmerged, hcovs, hcov, hsum⟩ := hmany merges (by simp [hruns])
    rw [hruns] at hcovs
    have hboth : covs = [mapLines sharedRows a false, mapLines sharedRows b false] := by
      apply List.map_injective_iff.2 fun x y h => Except.ok.inj h
      rw [← hcovs]
      change [mapped a, mapped b] = _
      rw [hmapped, hmapped]
      rfl
    refine ⟨merged, covs, cov, hmerged, hcovs, hcov, hsum, ?_⟩
    rw [hboth] at hsum
    exact hsum.entry_pair hentryA hentryB

end Symbols

end LineCoverage
