import LineCoverage.Proofs.Report.Run
import LineCoverage.Proofs.Report.Writing

/-!
# Modules do not disturb each other

Two reports that differ in what the resolver says of one module give the same results and the same tracefiles
to all modules with another base name. What carries over from turn to turn is that the two stores refuse the
same, and agree on all tracefiles but that of the one module.
-/

namespace LineCoverage

/-! ## Stores that refuse the same -/

/-- Two stores that were told to refuse the same. -/
structure Memory.RefuseAlike (m₁ m₂ : Memory) : Prop where
  faults : m₁.faults = m₂.faults
  readOnly : m₁.readOnly = m₂.readOnly

namespace Memory.RefuseAlike

variable {m₁ m₂ m' : Memory} {path : Bytes} {e : FileError}

theorem faultAt (h : RefuseAlike m₁ m₂) (op : FileOp) (path : Bytes) : m₁.faultAt op path = m₂.faultAt op path := by
  unfold Memory.faultAt
  rw [h.faults]

theorem check (h : RefuseAlike m₁ m₂) (op : FileOp) (path : Bytes) : m₁.check op path = m₂.check op path := by
  unfold Memory.check checkWritable
  rw [h.faultAt, h.readOnly]

theorem map_eq_error {check : Except FileError Unit} {a : Memory} (h : check.map (fun _ => a) = .error e)
    (b : Memory) : check.map (fun _ => b) = .error e := by
  cases check with
  | error e' => exact h
  | ok _ => cases h

theorem map_eq_ok {check : Except FileError Unit} {a : Memory} (h : check.map (fun _ => a) = .ok m') (b : Memory) :
    check.map (fun _ => b) = .ok b := by
  cases check with
  | error e' => cases h
  | ok _ => rfl

theorem makeDirs_error (h : RefuseAlike m₁ m₂) (hm₁ : m₁.makeDirs path = .error e) : m₂.makeDirs path = .error e := by
  rw [makeDirs_eq_map] at hm₁ ⊢
  rw [← h.check]
  exact map_eq_error hm₁ _

theorem makeDirs_ok (h : RefuseAlike m₁ m₂) (hm₁ : m₁.makeDirs path = .ok m') :
    m₂.makeDirs path = .ok (m₂.putDirectory path) := by
  rw [makeDirs_eq_map] at hm₁ ⊢
  rw [← h.check]
  exact map_eq_ok hm₁ _

theorem create_error (h : RefuseAlike m₁ m₂) (hm₁ : m₁.create path = .error e) : m₂.create path = .error e := by
  rw [create_eq_map] at hm₁ ⊢
  rw [← h.check]
  exact map_eq_error hm₁ _

theorem create_ok (h : RefuseAlike m₁ m₂) (hm₁ : m₁.create path = .ok m') :
    m₂.create path = .ok (m₂.putFile path []) := by
  rw [create_eq_map] at hm₁ ⊢
  rw [← h.check]
  exact map_eq_ok hm₁ _

theorem putDirectory (h : RefuseAlike m₁ m₂) (path : Bytes) :
    RefuseAlike (m₁.putDirectory path) (m₂.putDirectory path) := by
  refine ⟨?_, ?_⟩
  · simpa using h.faults
  · simpa using h.readOnly

theorem putFile (h : RefuseAlike m₁ m₂) (path content : Bytes) :
    RefuseAlike (m₁.putFile path content) (m₂.putFile path content) := by
  refine ⟨?_, ?_⟩
  · simpa using h.faults
  · simpa using h.readOnly

end Memory.RefuseAlike

namespace Report

/-! ## One attempt in both reports -/

/-- The two reports differ at most in the tracefile of `x`. -/
structure AgreeBeyond (cfg : Config) (x : Bytes) (owners₁ : Owners) (m₁ : Memory) (owners₂ : Owners)
    (m₂ : Memory) : Prop where
  refuse : m₁.RefuseAlike m₂
  owner : ∀ z, Path.base z ≠ Path.base x → owners₁[infoPath cfg z]? = owners₂[infoPath cfg z]?
  content : ∀ z, Path.base z ≠ Path.base x → m₁.contentAt (infoPath cfg z) = m₂.contentAt (infoPath cfg z)

section Attempt

variable {cfg : Config} {x module : Bytes} {cov : FileLines} {owners₁ owners₁' owners₂ owners₂' : Owners}
  {m₁ m₁' m₂ m₂' : Memory} {r : Except OutputError Tracefile.Stats}

theorem AgreeBeyond.symm (h : AgreeBeyond cfg x owners₁ m₁ owners₂ m₂) : AgreeBeyond cfg x owners₂ m₂ owners₁ m₁ :=
  ⟨⟨h.refuse.faults.symm, h.refuse.readOnly.symm⟩, fun z hz => (h.owner z hz).symm,
    fun z hz => (h.content z hz).symm⟩

theorem AgreeBeyond.left (h : AgreeBeyond cfg x owners₁ m₁ owners₂ m₂) (hbase : Path.base module = Path.base x)
    (hattempt : Attempt cfg module cov owners₁ m₁ owners₁' m₁' r) : AgreeBeyond cfg x owners₁' m₁' owners₂ m₂ := by
  have hother : ∀ z, Path.base z ≠ Path.base x → infoPath cfg z ≠ infoPath cfg module := by
    intro z hz heq
    exact hz ((infoPath_eq_iff.1 heq).trans hbase)
  obtain ⟨hfaults, hreadOnly⟩ := hattempt.refusals
  refine ⟨⟨hfaults.trans h.refuse.faults, hreadOnly.trans h.refuse.readOnly⟩, fun z hz => ?_, fun z hz => ?_⟩
  · rw [hattempt.owner_other (hother z hz), h.owner z hz]
  · rw [hattempt.contentAt_other (hother z hz), h.content z hz]

theorem AgreeBeyond.both (h : AgreeBeyond cfg x owners₁ m₁ owners₂ m₂)
    (h₁ : Attempt cfg module cov owners₁ m₁ owners₁' m₁' r) (h₂ : Attempt cfg module cov owners₂ m₂ owners₂' m₂' r)
    (howner : owners₁'[infoPath cfg module]? = owners₂'[infoPath cfg module]?)
    (hcontent : m₁'.contentAt (infoPath cfg module) = m₂'.contentAt (infoPath cfg module)) :
    AgreeBeyond cfg x owners₁' m₁' owners₂' m₂' := by
  obtain ⟨hfaults₁, hreadOnly₁⟩ := h₁.refusals
  obtain ⟨hfaults₂, hreadOnly₂⟩ := h₂.refusals
  refine ⟨⟨?_, ?_⟩, fun z hz => ?_, fun z hz => ?_⟩
  · rw [hfaults₁, hfaults₂, h.refuse.faults]
  · rw [hreadOnly₁, hreadOnly₂, h.refuse.readOnly]
  · by_cases hsame : infoPath cfg z = infoPath cfg module
    · rw [hsame, howner]
    · rw [h₁.owner_other hsame, h₂.owner_other hsame, h.owner z hz]
  · by_cases hsame : infoPath cfg z = infoPath cfg module
    · rw [hsame, hcontent]
    · rw [h₁.contentAt_other hsame, h₂.contentAt_other hsame, h.content z hz]

theorem fill_alike (h : m₁.RefuseAlike m₂) (hhtml : cfg.html = false) {n₁ k₁ : Memory}
    (hmade : m₁.makeDirs cfg.outputPath = .ok n₁) (hcreate : n₁.create (infoPath cfg module) = .ok k₁)
    (cov : FileLines) :
    ∃ n₂ k₂, m₂.makeDirs cfg.outputPath = .ok n₂ ∧ n₂.create (infoPath cfg module) = .ok k₂ ∧
      Tracefile.fillError k₁ (infoPath cfg module) (Tracefile.encode (.memory k₁) cfg.html cov).2 =
        Tracefile.fillError k₂ (infoPath cfg module) (Tracefile.encode (.memory k₂) cfg.html cov).2 ∧
      (Tracefile.filled k₁ (infoPath cfg module)
          (Tracefile.written (Tracefile.encode (.memory k₁) cfg.html cov))).contentAt (infoPath cfg module) =
        (Tracefile.filled k₂ (infoPath cfg module)
          (Tracefile.written (Tracefile.encode (.memory k₂) cfg.html cov))).contentAt (infoPath cfg module) ∧
      (Tracefile.encode (.memory k₁) cfg.html cov).1.stats =
        (Tracefile.encode (.memory k₂) cfg.html cov).1.stats := by
  obtain rfl := Memory.eq_of_makeDirs hmade
  obtain rfl := Memory.eq_of_create hcreate
  have hcreate₂ := (h.putDirectory cfg.outputPath).create_ok hcreate
  have hrefuse := (h.putDirectory cfg.outputPath).putFile (infoPath cfg module) []
  refine ⟨_, _, h.makeDirs_ok hmade, hcreate₂, ?_, ?_, ?_⟩
  · rw [hhtml, (Tracefile.encode_unchecked _ _).1, (Tracefile.encode_unchecked _ _).1]
    unfold Tracefile.fillError
    rw [hrefuse.faultAt, hrefuse.faultAt]
  · rw [hhtml, Tracefile.written_encode, Tracefile.written_encode, contentAt_filled_created hcreate,
      contentAt_filled_created hcreate₂, hrefuse.faultAt]
  · rw [hhtml, (Tracefile.encode_unchecked _ _).2, (Tracefile.encode_unchecked _ _).2]

theorem AgreeBeyond.attempt (h : AgreeBeyond cfg x owners₁ m₁ owners₂ m₂) (hhtml : cfg.html = false)
    (hbase : Path.base module ≠ Path.base x) (h₁ : Attempt cfg module cov owners₁ m₁ owners₁' m₁' r) :
    ∃ owners₂' m₂', Attempt cfg module cov owners₂ m₂ owners₂' m₂' r ∧
      AgreeBeyond cfg x owners₁' m₁' owners₂' m₂' := by
  have howner := h.owner module hbase
  have hinsert : (owners₁.insert (infoPath cfg module) module)[infoPath cfg module]? =
      (owners₂.insert (infoPath cfg module) module)[infoPath cfg module]? := by
    simp only [Std.ExtTreeMap.getElem?_insert_self]
  have hattempt := h₁
  cases h₁ with
  | taken howned => exact ⟨owners₂, m₂, .taken (howner.symm.trans howned), h⟩
  | noDirectory hfree hrefused =>
    have h₂ := @Attempt.noDirectory cfg module cov owners₂ m₂ _ (howner ▸ hfree) (h.refuse.makeDirs_error hrefused)
    exact ⟨_, _, h₂, h.both hattempt h₂ hinsert (h.content module hbase)⟩
  | noFile hfree hmade hrefused =>
    obtain rfl := Memory.eq_of_makeDirs hmade
    have hmade₂ := h.refuse.makeDirs_ok hmade
    have h₂ := @Attempt.noFile cfg module cov owners₂ m₂ _ _ (howner ▸ hfree) hmade₂
      ((h.refuse.putDirectory _).create_error hrefused)
    refine ⟨_, _, h₂, h.both hattempt h₂ hinsert ?_⟩
    rw [contentAt_of_makeDirs hmade, contentAt_of_makeDirs hmade₂, h.content module hbase]
  | broken hfree hmade hcreate hfill =>
    obtain ⟨n₂, k₂, hmade₂, hcreate₂, hfill₂, hcontent, _⟩ := fill_alike h.refuse hhtml hmade hcreate cov
    rw [hfill₂] at hfill
    have h₂ := @Attempt.broken cfg module cov owners₂ m₂ n₂ k₂ _ (howner ▸ hfree) hmade₂ hcreate₂ hfill
    exact ⟨_, _, h₂, h.both hattempt h₂ hinsert hcontent⟩
  | saved hfree hmade hcreate hfill =>
    obtain ⟨n₂, k₂, hmade₂, hcreate₂, hfill₂, hcontent, hstats⟩ := fill_alike h.refuse hhtml hmade hcreate cov
    rw [hfill₂] at hfill
    have h₂ := @Attempt.saved cfg module cov owners₂ m₂ n₂ k₂ (howner ▸ hfree) hmade₂ hcreate₂ hfill
    rw [hstats] at hattempt ⊢
    exact ⟨_, _, h₂, h.both hattempt h₂ hinsert hcontent⟩

end Attempt

/-! ## One turn in both reports -/

section Turns

variable {σ τ : Type} {cfg : Config} {x module : Bytes} {counts : AddressCount} {p₁ : Progress σ}
  {p₂ : Progress τ}

/-- Two reports on memory stores that differ at most in the tracefile of `x`, and are canceled or not alike. -/
structure Alike (cfg : Config) (x : Bytes) (p₁ : Progress σ) (p₂ : Progress τ) : Prop where
  canceled : p₁.canceled = p₂.canceled
  agree : ∃ m₁ m₂, p₁.store = .memory m₁ ∧ p₂.store = .memory m₂ ∧ AgreeBeyond cfg x p₁.owners m₁ p₂.owners m₂

theorem Alike.note (h : Alike cfg x p₁ p₂) (log₁ log₂ : List LogEntry) :
    Alike cfg x (p₁.note log₁) (p₂.note log₂) := ⟨h.canceled, h.agree⟩

theorem agree_reportModule_left (tools : Tools σ) (p : Progress σ) (counts : AddressCount) (hhtml : cfg.html = false)
    (hbase : Path.base module = Path.base x) {m₁ m₂ : Memory} {owners₂ : Owners} (hstore : p.store = .memory m₁)
    (h : AgreeBeyond cfg x p.owners m₁ owners₂ m₂) :
    ∃ m₁', (reportModule cfg tools p module counts).2.store = .memory m₁' ∧
      AgreeBeyond cfg x (reportModule cfg tools p module counts).2.owners m₁' owners₂ m₂ := by
  rw [reportModule_eq_match]
  cases answer cfg tools p module counts with
  | error e => exact ⟨m₁, hstore, h⟩
  | ok cov =>
    obtain ⟨owners', m', r, hattempt⟩ := exists_attempt cfg module cov p.owners m₁
    obtain ⟨log, hwrite⟩ := writeModule_plain tools (asked cfg tools p module counts) hhtml hstore hattempt
    simp only [hwrite]
    exact ⟨m', rfl, h.left hbase hattempt⟩

theorem alike_reportModule_same (tools₁ : Tools σ) (tools₂ : Tools τ) (hhtml : cfg.html = false)
    (hbase : Path.base module = Path.base x) (h : Alike cfg x p₁ p₂)
    (hcancels : (asked cfg tools₁ p₁ module counts).canceled = (asked cfg tools₂ p₂ module counts).canceled) :
    Alike cfg x (reportModule cfg tools₁ p₁ module counts).2 (reportModule cfg tools₂ p₂ module counts).2 := by
  obtain ⟨m₁, m₂, hstore₁, hstore₂, hagree⟩ := h.agree
  obtain ⟨m₁', hm₁', hleft⟩ := agree_reportModule_left tools₁ p₁ counts hhtml hbase hstore₁ hagree
  obtain ⟨m₂', hm₂', hright⟩ := agree_reportModule_left tools₂ p₂ counts hhtml hbase hstore₂ hleft.symm
  refine ⟨?_, m₁', m₂', hm₁', hm₂', hright.symm⟩
  rw [(reportModule_keeps cfg tools₁ p₁ module counts).2, (reportModule_keeps cfg tools₂ p₂ module counts).2]
  exact hcancels

theorem alike_reportModule_other (tools₁ : Tools σ) (tools₂ : Tools τ) (hhtml : cfg.html = false)
    (hbase : Path.base module ≠ Path.base x) (h : Alike cfg x p₁ p₂)
    (hcancels : (asked cfg tools₁ p₁ module counts).canceled = (asked cfg tools₂ p₂ module counts).canceled)
    (hanswer : answer cfg tools₁ p₁ module counts = answer cfg tools₂ p₂ module counts) :
    (reportModule cfg tools₁ p₁ module counts).1 = (reportModule cfg tools₂ p₂ module counts).1 ∧
      Alike cfg x (reportModule cfg tools₁ p₁ module counts).2 (reportModule cfg tools₂ p₂ module counts).2 := by
  obtain ⟨m₁, m₂, hstore₁, hstore₂, hagree⟩ := h.agree
  rw [reportModule_eq_match, reportModule_eq_match, hanswer]
  cases answer cfg tools₂ p₂ module counts with
  | error e => exact ⟨rfl, hcancels, m₁, m₂, hstore₁, hstore₂, hagree⟩
  | ok cov =>
    obtain ⟨owners₁', m₁', r, hattempt₁⟩ := exists_attempt cfg module cov p₁.owners m₁
    obtain ⟨owners₂', m₂', hattempt₂, hagree'⟩ := hagree.attempt hhtml hbase hattempt₁
    obtain ⟨log₁, hwrite₁⟩ := writeModule_plain tools₁ (asked cfg tools₁ p₁ module counts) hhtml hstore₁ hattempt₁
    obtain ⟨log₂, hwrite₂⟩ := writeModule_plain tools₂ (asked cfg tools₂ p₂ module counts) hhtml hstore₂ hattempt₂
    simp only [hwrite₁, hwrite₂]
    exact ⟨trivial, hcancels, m₁', m₂', rfl, rfl, hagree'⟩

end Turns

/-! ## Two reports -/

section Reports

variable {σ τ : Type} (cfg : Config) (x : Bytes) (tools₁ : Tools σ) (tools₂ : Tools τ)

/-- As long as the reports go on, the resolvers cancel them alike, and say the same of every module but `x`. -/
def DifferAt (p₁ : Progress σ) (p₂ : Progress τ) (modules : List (Bytes × AddressCount)) : Prop :=
  ∀ before module counts after, modules = before ++ (module, counts) :: after →
    let q₁ := (reportModules cfg tools₁ p₁ before).2.2
    let q₂ := (reportModules cfg tools₂ p₂ before).2.2
    q₁.canceled = false → q₂.canceled = false →
      (asked cfg tools₁ q₁ module counts).canceled = (asked cfg tools₂ q₂ module counts).canceled ∧
        (module ≠ x → answer cfg tools₁ q₁ module counts = answer cfg tools₂ q₂ module counts)

variable {cfg x tools₁ tools₂}

theorem DifferAt.head {p₁ : Progress σ} {p₂ : Progress τ} {module : Bytes} {counts : AddressCount}
    {rest : List (Bytes × AddressCount)} (h : DifferAt cfg x tools₁ tools₂ p₁ p₂ ((module, counts) :: rest))
    (hp₁ : p₁.canceled = false) (hp₂ : p₂.canceled = false) :
    (asked cfg tools₁ p₁ module counts).canceled = (asked cfg tools₂ p₂ module counts).canceled ∧
      (module ≠ x → answer cfg tools₁ p₁ module counts = answer cfg tools₂ p₂ module counts) :=
  h [] module counts rest rfl hp₁ hp₂

theorem DifferAt.tail {p₁ : Progress σ} {p₂ : Progress τ} {module : Bytes} {counts : AddressCount}
    {rest : List (Bytes × AddressCount)} (h : DifferAt cfg x tools₁ tools₂ p₁ p₂ ((module, counts) :: rest))
    (hp₁ : p₁.canceled = false) (hp₂ : p₂.canceled = false) :
    let turn₁ := reportModule cfg tools₁ p₁ module counts
    let turn₂ := reportModule cfg tools₂ p₂ module counts
    DifferAt cfg x tools₁ tools₂ (turn₁.2.note (failureLog turn₁.1)) (turn₂.2.note (failureLog turn₂.1)) rest := by
  intro turn₁ turn₂ before module' counts' after hsplit
  have hcons := h ((module, counts) :: before) module' counts' after (by rw [hsplit]; rfl)
  rw [reportModules_cons cfg tools₁ module counts before hp₁,
    reportModules_cons cfg tools₂ module counts before hp₂] at hcons
  exact hcons

/-- All turns. Results of modules with another base name are the same, and the reports stay alike. -/
theorem reportModules_alike {p₁ : Progress σ} {p₂ : Progress τ} {modules : List (Bytes × AddressCount)}
    (hhtml : cfg.html = false) (h : Alike cfg x p₁ p₂) (hdiffer : DifferAt cfg x tools₁ tools₂ p₁ p₂ modules) :
    let last₁ := reportModules cfg tools₁ p₁ modules
    let last₂ := reportModules cfg tools₂ p₂ modules
    (last₁.1.filter fun r => Path.base r.module ≠ Path.base x) =
        (last₂.1.filter fun r => Path.base r.module ≠ Path.base x) ∧
      last₁.2.1 = last₂.2.1 ∧ Alike cfg x last₁.2.2 last₂.2.2 := by
  induction modules generalizing p₁ p₂ with
  | nil => exact ⟨rfl, rfl, h⟩
  | cons entry rest ih =>
    obtain ⟨module, counts⟩ := entry
    cases hp₁ : p₁.canceled with
    | true =>
      have hp₂ : p₂.canceled = true := h.canceled.symm.trans hp₁
      simp only [reportModules, hp₁, hp₂, if_true]
      exact ⟨trivial, trivial, h⟩
    | false =>
      have hp₂ : p₂.canceled = false := h.canceled.symm.trans hp₁
      obtain ⟨hcancels, hanswer⟩ := hdiffer.head hp₁ hp₂
      have hmodule₁ := (reportModule_keeps cfg tools₁ p₁ module counts).1
      have hmodule₂ := (reportModule_keeps cfg tools₂ p₂ module counts).1
      simp only [reportModules_cons cfg tools₁ module counts rest hp₁,
        reportModules_cons cfg tools₂ module counts rest hp₂, List.filter_cons, hmodule₁, hmodule₂]
      by_cases hbase : Path.base module = Path.base x
      · have hturn := alike_reportModule_same tools₁ tools₂ hhtml hbase h hcancels
        simpa [hbase] using ih (hturn.note _ _) (hdiffer.tail hp₁ hp₂)
      · have hne : module ≠ x := by
          rintro rfl
          exact hbase rfl
        obtain ⟨hresult, hturn⟩ := alike_reportModule_other tools₁ tools₂ hhtml hbase h hcancels (hanswer hne)
        obtain ⟨hresults, herror, hlast⟩ := ih (hturn.note _ _) (hdiffer.tail hp₁ hp₂)
        refine ⟨?_, herror, hlast⟩
        rw [hresults, hresult]

/-- The result and the tracefile of every module with another base name than `x` are the same. -/
def SameBeyond (cfg : Config) (x : Bytes) (results₁ : List ModuleResult) (s₁ : Store)
    (results₂ : List ModuleResult) (s₂ : Store) : Prop :=
  ∃ m₁ m₂, s₁ = .memory m₁ ∧ s₂ = .memory m₂ ∧
    ∀ y, Path.base y ≠ Path.base x →
      results₁.find? (fun r => r.module = y) = results₂.find? (fun r => r.module = y) ∧
        m₁.contentAt (Memory.key (infoPath cfg y)) = m₂.contentAt (Memory.key (infoPath cfg y))

theorem find?_filter_base (results : List ModuleResult) {y : Bytes} (hy : Path.base y ≠ Path.base x) :
    (results.filter fun r => Path.base r.module ≠ Path.base x).find? (fun r => r.module = y) =
      results.find? fun r => r.module = y := by
  rw [List.find?_filter]
  congr 1
  funext r
  by_cases hr : r.module = y
  · simp [hr, hy]
  · simp [hr]

theorem sameBeyond_reportModules {p₁ : Progress σ} {p₂ : Progress τ} {modules : List (Bytes × AddressCount)}
    (hhtml : cfg.html = false) (h : Alike cfg x p₁ p₂) (hdiffer : DifferAt cfg x tools₁ tools₂ p₁ p₂ modules) :
    let last₁ := reportModules cfg tools₁ p₁ modules
    let last₂ := reportModules cfg tools₂ p₂ modules
    last₁.2.1 = last₂.2.1 ∧ SameBeyond cfg x last₁.1 last₁.2.2.store last₂.1 last₂.2.2.store := by
  obtain ⟨hresults, herror, hlast⟩ := reportModules_alike hhtml h hdiffer
  obtain ⟨m₁, m₂, hm₁, hm₂, hagree⟩ := hlast.agree
  refine ⟨herror, m₁, m₂, hm₁, hm₂, fun y hy => ⟨?_, ?_⟩⟩
  · rw [← find?_filter_base _ hy, hresults, find?_filter_base _ hy]
  · rw [key_infoPath]
    exact hagree.content y hy

theorem alike_start (m : Memory) (world₁ : σ) (world₂ : τ) (events₁ events₂ : List Event) :
    Alike cfg x (⟨.memory m, world₁, false, ∅, events₁⟩ : Progress σ)
      (⟨.memory m, world₂, false, ∅, events₂⟩ : Progress τ) :=
  ⟨rfl, m, m, rfl, rfl, ⟨⟨rfl, rfl⟩, fun _ _ => rfl, fun _ _ => rfl⟩⟩

end Reports

/-- Failures stay with their module. Take two reports on one memory store, with whatever faults, that render no
pages, and whose resolvers differ on the module `x` only: for any coverage, the results of all modules with
another base name are the same in both, and so are the contents of their tracefiles at the end. In particular
this is so for the coverage of the selected runs. -/
theorem failures_isolated {σ τ : Type} (cfg : Config) (x : Bytes) (tools₁ : Tools σ) (tools₂ : Tools τ) (m : Memory)
    (world₁ : σ) (world₂ : τ) (hhtml : cfg.html = false) :
    (∀ (cov : ModuleCoverage) (events : List Event),
      let p₁ : Progress σ := ⟨.memory m, world₁, false, ∅, events⟩
      let p₂ : Progress τ := ⟨.memory m, world₂, false, ∅, events⟩
      DifferAt cfg x tools₁ tools₂ p₁ p₂ cov.toList →
        let last₁ := reportModules cfg tools₁ p₁ cov.toList
        let last₂ := reportModules cfg tools₂ p₂ cov.toList
        last₁.2.1 = last₂.2.1 ∧ SameBeyond cfg x last₁.1 last₁.2.2.store last₂.1 last₂.2.2.store) ∧
    ∀ (realPath : Bytes → Except Bytes Bytes) (metrics : Metrics),
      (∀ cov, aggregate (.memory m) realPath false cfg = .ok cov →
        DifferAt cfg x tools₁ tools₂ (startOf cfg realPath (.memory m) world₁)
          (startOf cfg realPath (.memory m) world₂) cov.toList) →
      let o₁ := run cfg tools₁ realPath false metrics (.memory m) world₁
      let o₂ := run cfg tools₂ realPath false metrics (.memory m) world₂
      o₁.error = o₂.error ∧ SameBeyond cfg x o₁.results o₁.store o₂.results o₂.store := by
  refine ⟨fun cov events hdiffer => ?_, fun realPath metrics hdiffer => ?_⟩
  · exact sameBeyond_reportModules hhtml (alike_start m world₁ world₂ events events) hdiffer
  · cases hagg : aggregate (.memory m) realPath false cfg with
    | error e =>
      obtain ⟨hresults₁, herror₁, hstore₁⟩ := run_of_error cfg tools₁ realPath metrics (.memory m) world₁ hagg
      obtain ⟨hresults₂, herror₂, hstore₂⟩ := run_of_error cfg tools₂ realPath metrics (.memory m) world₂ hagg
      simp only [hresults₁, herror₁, hstore₁, hresults₂, herror₂, hstore₂]
      exact ⟨trivial, m, m, rfl, rfl, fun _ _ => ⟨rfl, rfl⟩⟩
    | ok cov =>
      obtain ⟨hresults₁, herror₁, hstore₁⟩ := run_of_ok cfg tools₁ realPath metrics (.memory m) world₁ hagg
      obtain ⟨hresults₂, herror₂, hstore₂⟩ := run_of_ok cfg tools₂ realPath metrics (.memory m) world₂ hagg
      simp only [hresults₁, herror₁, hstore₁, hresults₂, herror₂, hstore₂]
      exact sameBeyond_reportModules hhtml (alike_start m world₁ world₂ _ _) (hdiffer cov hagg)

/-- A resolver that answers for every module, where the fragile one breaks down on one. -/
def steadyTools : Tools Unit := { fragileTools with resolve := fun _ _ _ _ _ => ⟨.ok ∅, false, [], ()⟩ }

theorem differAt_fragile (p₁ p₂ : Progress Unit) (modules : List (Bytes × AddressCount)) :
    DifferAt twoModulesConfig (utf8 "a") fragileTools steadyTools p₁ p₂ modules := by
  intro before module counts after _ q₁ q₂ hq₁ hq₂
  refine ⟨?_, fun hne => ?_⟩
  · simp [asked, Progress.emit, hq₁, hq₂, fragileTools, steadyTools]
  · simp [answer, fragileTools, steadyTools, hne]

def fullStart : Progress Unit :=
  ⟨.memory { Memory.empty with faults := [⟨.close, utf8 "/out/c.info", utf8 "no space"⟩] }, (), false, ∅, []⟩

def threeCounts : ModuleCoverage :=
  (((∅ : ModuleCoverage).insert (utf8 "a") ∅).insert (utf8 "b") ∅).insert (utf8 "c") ∅

theorem stages_fullStart :
    (reportModules twoModulesConfig fragileTools fullStart threeCounts.toList).1.map (·.stage) =
        [.mapping, .done, .writing] ∧
      (reportModules twoModulesConfig steadyTools fullStart threeCounts.toList).1.map (·.stage) =
        [.done, .done, .writing] := by
  constructor <;> cbv

theorem failures_isolated_fragile :
    twoModulesConfig.html = false ∧
      (∀ p₁ p₂ modules, DifferAt twoModulesConfig (utf8 "a") fragileTools steadyTools p₁ p₂ modules) ∧
      (reportModules twoModulesConfig fragileTools fullStart threeCounts.toList).1.map (·.stage) =
        [.mapping, .done, .writing] ∧
      (reportModules twoModulesConfig steadyTools fullStart threeCounts.toList).1.map (·.stage) =
        [.done, .done, .writing] ∧
      SameBeyond twoModulesConfig (utf8 "a")
        (reportModules twoModulesConfig fragileTools fullStart threeCounts.toList).1
        (reportModules twoModulesConfig fragileTools fullStart threeCounts.toList).2.2.store
        (reportModules twoModulesConfig steadyTools fullStart threeCounts.toList).1
        (reportModules twoModulesConfig steadyTools fullStart threeCounts.toList).2.2.store ∧
      SameBeyond twoModulesConfig (utf8 "a")
        (run twoModulesConfig fragileTools .ok false .empty (.memory twoModules) ()).results
        (run twoModulesConfig fragileTools .ok false .empty (.memory twoModules) ()).store
        (run twoModulesConfig steadyTools .ok false .empty (.memory twoModules) ()).results
        (run twoModulesConfig steadyTools .ok false .empty (.memory twoModules) ()).store := by
  obtain ⟨hturns, _⟩ := failures_isolated twoModulesConfig (utf8 "a") fragileTools steadyTools
    { Memory.empty with faults := [⟨.close, utf8 "/out/c.info", utf8 "no space"⟩] } () () rfl
  obtain ⟨_, hrun⟩ := failures_isolated twoModulesConfig (utf8 "a") fragileTools steadyTools twoModules () () rfl
  exact ⟨rfl, differAt_fragile, stages_fullStart.1, stages_fullStart.2,
    (hturns threeCounts [] (differAt_fragile _ _ _)).2, (hrun .ok .empty fun _ _ => differAt_fragile _ _ _).2⟩

end Report

end LineCoverage
