import LineCoverage.Program
import LineCoverage.Proofs.Report.Run
import LineCoverage.Proofs.Report.Writing
import LineCoverage.Proofs.Symbols

/-!
# Modules in turn

What a module's turn does to a memory store without faults when no pages are rendered: it writes its own
tracefile or nothing. No later turn touches a tracefile that has an owner.
-/

namespace LineCoverage

/-! ## The text of a tracefile -/

namespace Tracefile

theorem head_textOf (cov : FileLines) : IsReported (textOf cov) := by
  unfold textOf
  split
  · exact .inr ⟨utf8 "N:\n", by decide⟩
  · rename_i hempty
    cases hlist : cov.toList with
    | nil =>
      rw [← Std.ExtTreeMap.isEmpty_toList, hlist] at hempty
      exact absurd rfl hempty
    | cons entry rest =>
      have hhead : utf8 "TN:\nSF:" = ch 'T' :: utf8 "N:\nSF:" := by decide
      simp only [List.flatMap_cons, recordText, recordPieces, List.cons_append, List.nil_append, List.flatten_cons,
        hhead]
      exact .inr ⟨_, rfl⟩

end Tracefile

namespace Report

/-! ## One turn -/

section Writing

variable {σ : Type} (cfg : Config) (tools : Tools σ)

/-- A module that cannot be written changes no file. One that is written gets a tracefile that no module
had before, and nothing else changes but for empty directories. -/
theorem writeModule_memory {p : Progress σ} {m : Memory} (hhtml : cfg.html = false) (hstore : p.store = .memory m)
    (hfaults : m.faults = []) (module : Bytes) (cov : FileLines) :
    let turn := writeModule cfg tools p module cov
    turn.2.world = p.world ∧ turn.2.canceled = p.canceled ∧
    ((turn.1.error ≠ none ∧ (p.owners[infoPath cfg module]? = none → m.readOnly = true) ∧ turn.2.store = p.store ∧
        (turn.2.owners = p.owners ∨ turn.2.owners = p.owners.insert (infoPath cfg module) module)) ∨
      (p.owners[infoPath cfg module]? = none ∧ turn.1.error = none ∧ turn.1.infoPath = infoPath cfg module ∧
        turn.2.owners = p.owners.insert (infoPath cfg module) module ∧
        ∃ m', turn.2.store = .memory m' ∧ m'.faults = [] ∧
          m'.contentAt (infoPath cfg module) = some (Tracefile.textOf cov) ∧
          ∀ k, infoPath cfg module ≠ k → Memory.Keeps (m.contentAt k) (m'.contentAt k))) := by
  obtain ⟨owners', m', r, hattempt⟩ := exists_attempt cfg module cov p.owners m
  obtain ⟨log, hwrite⟩ := writeModule_plain tools p hhtml hstore hattempt
  obtain ⟨hfaults', _⟩ := hattempt.refusals
  have hnone : ∀ m₁ : Memory, m₁.faults = [] →
      Tracefile.fillError m₁ (infoPath cfg module) (Tracefile.encode (.memory m₁) cfg.html cov).2 = none := by
    intro m₁ hm₁
    rw [Tracefile.fillError_eq_none_iff, hhtml]
    exact ⟨(Tracefile.encode_unchecked _ _).1, Memory.faultAt_of_nil hm₁ _ _, Memory.faultAt_of_nil hm₁ _ _⟩
  simp only [hwrite]
  refine ⟨rfl, rfl, ?_⟩
  cases hattempt with
  | taken howner => exact .inl ⟨by simp [plainResult, ModuleResult.stopped], by simp [howner], hstore.symm, .inl rfl⟩
  | noDirectory hfree hrefused =>
    refine .inl ⟨by simp [plainResult, ModuleResult.stopped], fun _ => ?_, hstore.symm, .inr rfl⟩
    rw [Memory.makeDirs_eq hfaults] at hrefused
    by_contra hwritable
    simp [hwritable] at hrefused
  | noFile hfree hmade hrefused =>
    obtain rfl := Memory.eq_of_makeDirs hmade
    rw [Memory.makeDirs_eq hfaults] at hmade
    rw [Memory.create_eq (by simpa using hfaults)] at hrefused
    cases hread : m.readOnly <;> simp [hread] at hmade hrefused
  | broken hfree hmade hcreate hfill =>
    obtain rfl := Memory.eq_of_makeDirs hmade
    obtain rfl := Memory.eq_of_create hcreate
    rw [hnone _ (by simpa using hfaults)] at hfill
    cases hfill
  | saved hfree hmade hcreate hfill =>
    refine .inr ⟨hfree, rfl, rfl, rfl, _, rfl, hfaults'.trans hfaults, ?_, fun k hk => ?_⟩
    · rw [contentAt_saved hcreate hfill, hhtml, Tracefile.written_encode]
    · have hkey : Memory.key (infoPath cfg module) ≠ k := by rwa [key_infoPath]
      rw [Tracefile.contentAt_filled_of_ne _ _ hkey, Memory.eq_of_create hcreate, Memory.eq_of_makeDirs hmade]
      exact (Memory.keeps_putDirectory m cfg.outputPath k).trans (Memory.keeps_putFile _ [] hkey)

end Writing

/-- A report on its way, since it began with the store `m₀`: nothing canceled it, no fault has turned up,
what it wrote is no binary, each tracefile with an owner has a clean path, and every kept line table is
that of a binary of `m₀`. -/
structure Underway (m₀ : Memory) (p : Progress Symbols) : Prop where
  going : p.canceled = false
  store : ∃ m, p.store = .memory m ∧ m.faults = [] ∧ Memory.Descends m₀ m
  owned : ∀ path ∈ p.owners, Memory.key path = path
  faithful : p.world.Faithful m₀

/-- Later on, tracefiles that have an owner are as they were. -/
def Later (p q : Progress Symbols) : Prop :=
  ∀ path content, path ∈ p.owners → p.store.fileContent path = .ok content →
    path ∈ q.owners ∧ q.store.fileContent path = .ok content

theorem Later.refl (p : Progress Symbols) : Later p p := fun _ _ howner hcontent => ⟨howner, hcontent⟩

theorem Later.trans {p q r : Progress Symbols} (hpq : Later p q) (hqr : Later q r) : Later p r := by
  intro path content howner hcontent
  obtain ⟨howner', hcontent'⟩ := hpq path content howner hcontent
  exact hqr path content howner' hcontent'

section Turns

variable {cfg : Config} {m₀ : Memory} {p : Progress Symbols} (env : List (Bytes × Bytes))

theorem writeModule_underway (tools : Tools Symbols) (h : Underway m₀ p) (hhtml : cfg.html = false)
    (module : Bytes) (cov : FileLines) :
    let turn := writeModule cfg tools p module cov
    Underway m₀ turn.2 ∧ Later p turn.2 ∧
      (turn.1.error = none → turn.1.infoPath ∈ turn.2.owners ∧
        turn.2.store.fileContent turn.1.infoPath = .ok (Tracefile.textOf cov)) := by
  obtain ⟨m, hstore, hfaults, hdescends⟩ := h.store
  have howned : ∀ path ∈ p.owners.insert (infoPath cfg module) module, Memory.key path = path := by
    intro path hpath
    rcases mem_insert_owners.1 hpath with rfl | hpath
    · exact key_infoPath cfg module
    · exact h.owned path hpath
  obtain ⟨hworld, hcanceled, hcase⟩ := writeModule_memory cfg tools hhtml hstore hfaults module cov
  simp only
  rcases hcase with ⟨herror, _, hsame, howners⟩ | ⟨hfree, _, hpath, howners, m', hm', hfaults', hcontent, hkeeps⟩
  · refine ⟨⟨hcanceled.trans h.going, ⟨m, hsame.trans hstore, hfaults, hdescends⟩, ?_, ?_⟩, ?_,
      fun hnone => absurd hnone herror⟩
    · rcases howners with howners | howners <;> rw [howners]
      · exact h.owned
      · exact howned
    · rw [hworld]
      exact h.faithful
    · intro path content howner hread
      rw [hsame]
      refine ⟨?_, hread⟩
      rcases howners with howners | howners <;> rw [howners]
      · exact howner
      · exact mem_insert_owners.2 (.inr howner)
  · refine ⟨⟨hcanceled.trans h.going, ⟨m', hm', hfaults', fun k => ?_⟩, ?_, ?_⟩, ?_, fun _ => ⟨?_, ?_⟩⟩
    · by_cases hk : infoPath cfg module = k
      · subst hk
        exact .inr ⟨_, hcontent, Tracefile.head_textOf cov⟩
      · exact hdescends.keeps (hkeeps k hk)
    · rw [howners]
      exact howned
    · rw [hworld]
      exact h.faithful
    · intro path content howner hread
      rw [howners, hm']
      refine ⟨mem_insert_owners.2 (.inr howner), ?_⟩
      have hother : infoPath cfg module ≠ path := by
        rintro rfl
        rw [Std.ExtTreeMap.mem_iff_isSome_getElem?, hfree] at howner
        cases howner
      rw [hstore, Memory.fileContent_eq_ok_iff hfaults, h.owned path howner] at hread
      rw [Memory.fileContent_eq_ok_iff hfaults', h.owned path howner]
      have hkeep := hkeeps path hother
      rw [hread] at hkeep
      exact hkeep.eq_some
    · rw [howners, hpath]
      exact mem_insert_owners.2 (.inl rfl)
    · rw [hm', hpath, Memory.fileContent_eq_ok_iff hfaults', key_infoPath]
      exact hcontent

theorem Underway.note (h : Underway m₀ p) (log : List LogEntry) : Underway m₀ (p.note log) :=
  ⟨h.going, h.store, h.owned, h.faithful⟩

def mapped (cfg : Config) (p : Progress Symbols) (module : Bytes) (counts : AddressCount) : Progress Symbols :=
  { p with world := (p.world.coverage p.store false module counts cfg.coveredFilesOnly).2 }.emit
    ((p.world.coverageLog p.store false module counts cfg.coveredFilesOnly).map .log)

theorem reportModule_eq (p : Progress Symbols) (module : Bytes) (counts : AddressCount) :
    reportModule cfg (Program.tools env cfg) p module counts =
      match (p.world.coverage p.store false module counts cfg.coveredFilesOnly).1 with
      | .error e => (.stopped module .mapping [] (.resolution module (.symbols e)), mapped cfg p module counts)
      | .ok cov => writeModule cfg (Program.tools env cfg) (mapped cfg p module counts) module cov := by
  have hgoing : (p.canceled || false) = p.canceled := Bool.or_false _
  unfold reportModule mapped
  simp only [Program.tools, hgoing]
  cases (p.world.coverage p.store false module counts cfg.coveredFilesOnly).1 <;> rfl

theorem mapped_underway (h : Underway m₀ p) (h₀ : m₀.faults = []) (module : Bytes) (counts : AddressCount) :
    Underway m₀ (mapped cfg p module counts) ∧ Later p (mapped cfg p module counts) := by
  obtain ⟨m, hstore, hfaults, hdescends⟩ := h.store
  refine ⟨⟨h.going, ⟨m, hstore, hfaults, hdescends⟩, h.owned, ?_⟩, .refl p⟩
  change (p.world.coverage p.store false module counts cfg.coveredFilesOnly).2.Faithful m₀
  rw [hstore]
  exact Symbols.coverage_faithful h₀ hfaults hdescends h.faithful module counts cfg.coveredFilesOnly

theorem table_of_coverage (h : Underway m₀ p) (h₀ : m₀.faults = []) {module : Bytes} {counts : AddressCount}
    {only : Bool} {cov : FileLines} (hcov : (p.world.coverage p.store false module counts only).1 = .ok cov) :
    ∃ path table, p.world.locate p.store module = .ok path ∧ (p.world.lineTable p.store path).1 = .ok table ∧
      Symbols.load (.memory m₀) path = .ok table ∧ cov = Symbols.mapLines table counts only := by
  obtain ⟨m, hstore, hfaults, hdescends⟩ := h.store
  rcases Symbols.coverage_eq p.store module counts only with ⟨e, heq⟩ | ⟨path, hlocate, heq⟩
  · rw [heq] at hcov
    cases hcov
  · rw [heq] at hcov
    cases htable : (p.world.lineTable p.store path).1 with
    | error e =>
      rw [htable] at hcov
      cases hcov
    | ok table =>
      rw [htable] at hcov
      refine ⟨path, table, hlocate, htable, ?_, by simpa [Except.map] using hcov.symm⟩
      rw [hstore] at htable
      exact (Symbols.lineTable_faithful h₀ hfaults hdescends h.faithful path).2 table htable

/-- One turn. A module that comes out well was mapped by the table of its binary, and its tracefile holds
what the table makes of its counts. -/
theorem reportModule_underway (h : Underway m₀ p) (h₀ : m₀.faults = []) (hhtml : cfg.html = false)
    (module : Bytes) (counts : AddressCount) :
    let turn := reportModule cfg (Program.tools env cfg) p module counts
    Underway m₀ turn.2 ∧ Later p turn.2 ∧
      (turn.1.error = none → ∃ path table, p.world.locate p.store module = .ok path ∧
        (p.world.lineTable p.store path).1 = .ok table ∧ Symbols.load (.memory m₀) path = .ok table ∧
        turn.1.infoPath ∈ turn.2.owners ∧
        turn.2.store.fileContent turn.1.infoPath =
          .ok (Tracefile.textOf (Symbols.mapLines table counts cfg.coveredFilesOnly))) := by
  obtain ⟨hmapped, hlater⟩ := @mapped_underway cfg m₀ p h h₀ module counts
  simp only [reportModule_eq]
  cases hcov : (p.world.coverage p.store false module counts cfg.coveredFilesOnly).1 with
  | error e => exact ⟨hmapped, hlater, fun hnone => by cases hnone⟩
  | ok cov =>
    obtain ⟨hunderway, hkept, hwritten⟩ :=
      writeModule_underway (Program.tools env cfg) hmapped hhtml module cov
    obtain ⟨path, table, hlocate, htable, hload, rfl⟩ := table_of_coverage h h₀ hcov
    refine ⟨hunderway, hlater.trans hkept, fun hnone => ?_⟩
    exact ⟨path, table, hlocate, htable, hload, hwritten hnone⟩

/-- The line table that the symbols have for a module when it has its turn, and where they found it. -/
def TableAt (cfg : Config) (tools : Tools Symbols) (p : Progress Symbols) (modules : List (Bytes × AddressCount))
    (module path : Bytes) (table : LineTable) : Prop :=
  ∃ before counts after, modules = before ++ (module, counts) :: after ∧
    (reportModules cfg tools p before).2.2.world.locate (reportModules cfg tools p before).2.2.store module =
      .ok path ∧
    ((reportModules cfg tools p before).2.2.world.lineTable (reportModules cfg tools p before).2.2.store path).1 =
      .ok table

/-- All turns. Every tracefile of a module that came out well stays as it was written. -/
theorem reportModules_underway (h : Underway m₀ p) (h₀ : m₀.faults = []) (hhtml : cfg.html = false)
    (modules : List (Bytes × AddressCount)) :
    let last := reportModules cfg (Program.tools env cfg) p modules
    Underway m₀ last.2.2 ∧ Later p last.2.2 ∧
      ∀ r ∈ last.1, r.error = none → ∃ counts path table,
        (r.module, counts) ∈ modules ∧ TableAt cfg (Program.tools env cfg) p modules r.module path table ∧
        Symbols.load (.memory m₀) path = .ok table ∧
        last.2.2.store.fileContent r.infoPath =
          .ok (Tracefile.textOf (Symbols.mapLines table counts cfg.coveredFilesOnly)) := by
  induction modules generalizing p with
  | nil => exact ⟨h, .refl p, fun r hr => by cases hr⟩
  | cons entry rest ih =>
    obtain ⟨module, counts⟩ := entry
    obtain ⟨hturn, hlater, hwritten⟩ := reportModule_underway env h h₀ hhtml module counts
    obtain ⟨hlast, hkept, hresults⟩ :=
      ih (hturn.note (failureLog (reportModule cfg (Program.tools env cfg) p module counts).1))
    simp only [reportModules_cons cfg (Program.tools env cfg) module counts rest h.going]
    refine ⟨hlast, hlater.trans hkept, fun r hr hok => ?_⟩
    rcases List.mem_cons.1 hr with rfl | hr
    · obtain ⟨path, table, hlocate, htable, hload, howner, hcontent⟩ := hwritten hok
      refine ⟨counts, path, table, ?_, ?_, hload, (hkept _ _ howner hcontent).2⟩
      · rw [(reportModule_keeps cfg (Program.tools env cfg) p module counts).1]
        exact List.mem_cons_self
      · rw [(reportModule_keeps cfg (Program.tools env cfg) p module counts).1]
        exact ⟨[], counts, rest, rfl, hlocate, htable⟩
    · obtain ⟨counts', path, table, hmem, ⟨before, counts'', after, hsplit, hlocate, htable⟩, hload, hcontent⟩ :=
        hresults r hr hok
      refine ⟨counts', path, table, List.mem_cons_of_mem _ hmem,
        ⟨(module, counts) :: before, counts'', after, by rw [hsplit]; rfl, ?_⟩, hload, hcontent⟩
      rw [reportModules_cons cfg (Program.tools env cfg) module counts before h.going]
      exact ⟨hlocate, htable⟩

end Turns

end Report

end LineCoverage
