import LineCoverage.Proofs.Report.InfoPath
import LineCoverage.Proofs.Tracefile.Writer

/-!
# Writing in a memory store

The ways in which the writing of a tracefile can end in a memory store, whatever faults it was told to show.
In each of them no other tracefile changes.
-/

namespace LineCoverage

/-! ## Changes that are refused -/

namespace Memory

def check (m : Memory) (op : FileOp) (path : Bytes) : Except FileError Unit := do
  m.faultAt op path
  m.checkWritable

theorem makeDirs_eq_map (m : Memory) (path : Bytes) :
    m.makeDirs path = (m.check .makeDir path).map fun _ => m.putDirectory path := by
  unfold makeDirs check
  cases m.faultAt .makeDir path with
  | error e => rfl
  | ok _ => cases m.checkWritable <;> rfl

theorem create_eq_map (m : Memory) (path : Bytes) :
    m.create path = (m.check .create path).map fun _ => m.putFile path [] := by
  unfold create check
  cases m.faultAt .create path with
  | error e => rfl
  | ok _ => cases m.checkWritable <;> rfl

theorem eq_of_map_eq_ok {check : Except FileError Unit} {m m' : Memory} (h : check.map (fun _ => m) = .ok m') :
    m' = m := by
  cases check with
  | error e => cases h
  | ok _ =>
    cases h
    rfl

theorem eq_of_makeDirs {m m' : Memory} {path : Bytes} (h : m.makeDirs path = .ok m') : m' = m.putDirectory path := by
  rw [makeDirs_eq_map] at h
  exact eq_of_map_eq_ok h

theorem eq_of_create {m m' : Memory} {path : Bytes} (h : m.create path = .ok m') : m' = m.putFile path [] := by
  rw [create_eq_map] at h
  exact eq_of_map_eq_ok h

end Memory

namespace Tracefile

def failureOf : Except FileError Unit → Option FileError
  | .ok () => none
  | .error e => some e

/-- What goes wrong with data for a created file: the encoder fails, or writing does, or closing. -/
def fillError (m : Memory) (path : Bytes) (failure : Option FileError) : Option WriteError :=
  ((failure.or (failureOf (m.faultAt .write path))).map (.write path)).or
    ((failureOf (m.faultAt .close path)).map .close)

def filled (m : Memory) (path data : Bytes) : Memory :=
  match m.faultAt .write path with
  | .ok () => m.append path data
  | .error _ => m

theorem write_of_refused {m : Memory} {path : Bytes} {e : FileError} (h : m.create path = .error e)
    (cov : FileLines) (skip : Bool) :
    (write (.memory m) path cov skip).store = .memory m ∧
      (write (.memory m) path cov skip).error = some (.create e) := by
  simp [write, Store.create, h, Functor.map, Except.map]

theorem write_of_created {m m₁ : Memory} {path : Bytes} (h : m.create path = .ok m₁) (cov : FileLines)
    (skip : Bool) :
    (write (.memory m) path cov skip).store =
        .memory (filled m₁ path (written (encode (.memory m₁) skip cov))) ∧
      (write (.memory m) path cov skip).stats = (encode (.memory m₁) skip cov).1.stats ∧
      (write (.memory m) path cov skip).error = fillError m₁ path (encode (.memory m₁) skip cov).2 := by
  have hcreate : (Store.memory m).create path = .ok (.memory m₁) := by
    simp [Store.create, h, Functor.map, Except.map]
  have happend : ∀ data, (m₁.append path data).faultAt .close path = m₁.faultAt .close path := fun _ => rfl
  unfold write fillError filled
  simp only [hcreate]
  generalize encode (.memory m₁) skip cov = result
  obtain ⟨e, failure⟩ := result
  simp only [Store.writeFault, Store.append]
  cases hwrite : m₁.faultAt .write path with
  | ok _ =>
    cases failure with
    | some err => simp [failureOf]
    | none =>
      simp only [Store.closeFault, happend]
      cases hclose : m₁.faultAt .close path <;> simp [failureOf]
  | error fault =>
    cases failure with
    | some err => simp [failureOf]
    | none => simp [failureOf]

theorem fillError_eq_none_iff {m : Memory} {path : Bytes} {failure : Option FileError} :
    fillError m path failure = none ↔
      failure = none ∧ m.faultAt .write path = .ok () ∧ m.faultAt .close path = .ok () := by
  unfold fillError
  cases failure <;> cases m.faultAt .write path <;> cases m.faultAt .close path <;> simp [failureOf]

@[simp]
theorem faults_filled (m : Memory) (path data : Bytes) : (filled m path data).faults = m.faults := by
  unfold filled
  split <;> rfl

@[simp]
theorem readOnly_filled (m : Memory) (path data : Bytes) : (filled m path data).readOnly = m.readOnly := by
  unfold filled
  split <;> rfl

theorem contentAt_filled_of_ne (m : Memory) {path k : Bytes} (data : Bytes) (h : Memory.key path ≠ k) :
    (filled m path data).contentAt k = m.contentAt k := by
  unfold filled
  split
  · rw [Memory.contentAt_append, if_neg h]
  · rfl

theorem contentAt_filled (m : Memory) (path data : Bytes) :
    (filled m path data).contentAt (Memory.key path) =
      if (failureOf (m.faultAt .write path)).isNone then (m.contentAt (Memory.key path)).map (· ++ data)
      else m.contentAt (Memory.key path) := by
  unfold filled
  cases m.faultAt .write path with
  | ok _ => simp [failureOf, Memory.contentAt_append]
  | error e => simp [failureOf]

end Tracefile

namespace Report

/-! ## The ways out -/

abbrev Owners := Std.ExtTreeMap Bytes Bytes

theorem mem_insert_owners {owners : Owners} {path other module : Bytes} :
    other ∈ owners.insert path module ↔ path = other ∨ other ∈ owners := by
  simp [Std.ExtTreeMap.mem_insert]

/-- The ways in which the writing of a module's lines can end: from owners and a store to others, with a failure
or with the totals of what was written. -/
inductive Attempt (cfg : Config) (module : Bytes) (cov : FileLines) (owners : Owners) (m : Memory) :
    Owners → Memory → Except OutputError Tracefile.Stats → Prop where
  | taken {other : Bytes} (howner : owners[infoPath cfg module]? = some other) :
      Attempt cfg module cov owners m owners m (.error (.taken other))
  | noDirectory {e : FileError} (hfree : owners[infoPath cfg module]? = none)
      (hdirs : m.makeDirs cfg.outputPath = .error e) :
      Attempt cfg module cov owners m (owners.insert (infoPath cfg module) module) m (.error (.directory e))
  | noFile {m₁ : Memory} {e : FileError} (hfree : owners[infoPath cfg module]? = none)
      (hdirs : m.makeDirs cfg.outputPath = .ok m₁) (hcreate : m₁.create (infoPath cfg module) = .error e) :
      Attempt cfg module cov owners m (owners.insert (infoPath cfg module) module) m₁
        (.error (.tracefile (.create e)))
  | broken {m₁ m₂ : Memory} {e : Tracefile.WriteError} (hfree : owners[infoPath cfg module]? = none)
      (hdirs : m.makeDirs cfg.outputPath = .ok m₁) (hcreate : m₁.create (infoPath cfg module) = .ok m₂)
      (hfill : Tracefile.fillError m₂ (infoPath cfg module) (Tracefile.encode (.memory m₂) cfg.html cov).2 =
        some e) :
      Attempt cfg module cov owners m (owners.insert (infoPath cfg module) module)
        (Tracefile.filled m₂ (infoPath cfg module)
          (Tracefile.written (Tracefile.encode (.memory m₂) cfg.html cov)))
        (.error (.tracefile e))
  | saved {m₁ m₂ : Memory} (hfree : owners[infoPath cfg module]? = none)
      (hdirs : m.makeDirs cfg.outputPath = .ok m₁) (hcreate : m₁.create (infoPath cfg module) = .ok m₂)
      (hfill : Tracefile.fillError m₂ (infoPath cfg module) (Tracefile.encode (.memory m₂) cfg.html cov).2 =
        none) :
      Attempt cfg module cov owners m (owners.insert (infoPath cfg module) module)
        (Tracefile.filled m₂ (infoPath cfg module)
          (Tracefile.written (Tracefile.encode (.memory m₂) cfg.html cov)))
        (.ok (Tracefile.encode (.memory m₂) cfg.html cov).1.stats)

theorem exists_attempt (cfg : Config) (module : Bytes) (cov : FileLines) (owners : Owners) (m : Memory) :
    ∃ owners' m' r, Attempt cfg module cov owners m owners' m' r := by
  cases howner : owners[infoPath cfg module]? with
  | some other => exact ⟨_, _, _, .taken howner⟩
  | none =>
    cases hdirs : m.makeDirs cfg.outputPath with
    | error e => exact ⟨_, _, _, .noDirectory howner hdirs⟩
    | ok m₁ =>
      cases hcreate : m₁.create (infoPath cfg module) with
      | error e => exact ⟨_, _, _, .noFile howner hdirs hcreate⟩
      | ok m₂ =>
        cases hfill : Tracefile.fillError m₂ (infoPath cfg module)
            (Tracefile.encode (.memory m₂) cfg.html cov).2 with
        | some e => exact ⟨_, _, _, .broken howner hdirs hcreate hfill⟩
        | none => exact ⟨_, _, _, .saved howner hdirs hcreate hfill⟩

section Attempt

variable {σ : Type} {cfg : Config} {module : Bytes} {cov : FileLines} {owners owners' : Owners} {m m' : Memory}
  {r : Except OutputError Tracefile.Stats}

def Progress.behind (p : Progress σ) (owners : Owners) (m : Memory) (log : List LogEntry) : Progress σ :=
  { p with owners := owners, store := .memory m }.note log

theorem writeModule_of_attempt (tools : Tools σ) {p : Progress σ} (hstore : p.store = .memory m)
    (h : Attempt cfg module cov p.owners m owners' m' r) :
    ∃ log, writeModule cfg tools p module cov =
      match r with
      | .error e =>
        (.stopped module .writing (infoPath cfg module) (.output (infoPath cfg module) e),
          p.behind owners' m' log)
      | .ok stats =>
        renderModule cfg tools (p.behind owners' m' log) (.saved module (infoPath cfg module) stats) := by
  have hself : p.behind p.owners m [] = p := by
    simp [Progress.behind, Progress.note, Progress.emit, ← hstore]
  have hdirs : ∀ result, m.makeDirs cfg.outputPath = result →
      (Store.memory m).makeDirs cfg.outputPath = result.map .memory := by
    rintro _ rfl
    rfl
  unfold writeModule
  simp only [hstore]
  cases h with
  | taken howner => exact ⟨[], by simp only [howner, hself]⟩
  | noDirectory hfree hrefused =>
    refine ⟨[], ?_⟩
    simp only [hfree, hdirs _ hrefused, Except.map]
    simp [Progress.behind, Progress.note, Progress.emit, ← hstore]
  | noFile hfree hmade hrefused =>
    obtain ⟨hkept, herror⟩ := Tracefile.write_of_refused hrefused cov cfg.html
    exact ⟨_, by simp only [hfree, hdirs _ hmade, Except.map, herror, hkept]; rfl⟩
  | broken hfree hmade hcreate hfill =>
    obtain ⟨hkept, hstats, herror⟩ := Tracefile.write_of_created hcreate cov cfg.html
    rw [hfill] at herror
    exact ⟨_, by simp only [hfree, hdirs _ hmade, Except.map, herror, hkept]; rfl⟩
  | @saved m₁ _ hfree hmade hcreate hfill =>
    obtain ⟨hkept, hstats, herror⟩ := Tracefile.write_of_created hcreate cov cfg.html
    rw [hfill] at herror
    refine ⟨(Tracefile.write (.memory m₁) (infoPath cfg module) cov cfg.html).log ++
      [.make .info "line coverage saved" [("module", module), ("path", infoPath cfg module)]], ?_⟩
    simp only [hfree, hdirs _ hmade, Except.map, herror, hkept, hstats]
    simp only [Progress.behind, Progress.note, Progress.emit, List.map_append, List.append_assoc]

def plainResult (cfg : Config) (module : Bytes) : Except OutputError Tracefile.Stats → ModuleResult
  | .error e => .stopped module .writing (infoPath cfg module) (.output (infoPath cfg module) e)
  | .ok stats => .saved module (infoPath cfg module) stats

theorem writeModule_plain (tools : Tools σ) (p : Progress σ) (hhtml : cfg.html = false)
    (hstore : p.store = .memory m) (h : Attempt cfg module cov p.owners m owners' m' r) :
    ∃ log, writeModule cfg tools p module cov = (plainResult cfg module r, p.behind owners' m' log) := by
  obtain ⟨log, hwrite⟩ := writeModule_of_attempt tools hstore h
  refine ⟨log, hwrite.trans ?_⟩
  cases r with
  | error e => rfl
  | ok stats => simp [renderModule, hhtml, plainResult]

theorem contentAt_filled_created {m₁ : Memory} (h : m.create (infoPath cfg module) = .ok m₁) (data : Bytes) :
    (Tracefile.filled m₁ (infoPath cfg module) data).contentAt (infoPath cfg module) =
      if (Tracefile.failureOf (m₁.faultAt .write (infoPath cfg module))).isNone then some data else some [] := by
  have hempty := Memory.contentAt_putFile m (infoPath cfg module) []
  have hfilled := Tracefile.contentAt_filled m₁ (infoPath cfg module) data
  rw [key_infoPath, ← Memory.eq_of_create h] at hempty
  rw [key_infoPath, hempty] at hfilled
  exact hfilled

theorem contentAt_saved {m₁ : Memory} (h : m.create (infoPath cfg module) = .ok m₁) {failure : Option FileError}
    (hfill : Tracefile.fillError m₁ (infoPath cfg module) failure = none) (data : Bytes) :
    (Tracefile.filled m₁ (infoPath cfg module) data).contentAt (infoPath cfg module) = some data := by
  rw [contentAt_filled_created h, (Tracefile.fillError_eq_none_iff.1 hfill).2.1]
  rfl

/-! ## What stays -/

theorem contentAt_of_makeDirs {m₁ : Memory} (h : m.makeDirs cfg.outputPath = .ok m₁) (z : Bytes) :
    m₁.contentAt (infoPath cfg z) = m.contentAt (infoPath cfg z) := by
  rw [Memory.eq_of_makeDirs h]
  exact Memory.contentAt_putDirectory_of_ne m (infoPath_not_mem_outputPath cfg z)

theorem contentAt_of_create {m₁ : Memory} (h : m.create (infoPath cfg module) = .ok m₁) {z : Bytes}
    (hz : infoPath cfg z ≠ infoPath cfg module) :
    m₁.contentAt (infoPath cfg z) = m.contentAt (infoPath cfg z) := by
  rw [Memory.eq_of_create h]
  apply Memory.contentAt_putFile_of_ne
  rw [key_infoPath, List.mem_cons, not_or]
  exact ⟨hz, infoPath_not_mem_parents cfg z module⟩

theorem Attempt.contentAt_other (h : Attempt cfg module cov owners m owners' m' r) {z : Bytes}
    (hz : infoPath cfg z ≠ infoPath cfg module) : m'.contentAt (infoPath cfg z) = m.contentAt (infoPath cfg z) := by
  have hkey : Memory.key (infoPath cfg module) ≠ infoPath cfg z := by
    rw [key_infoPath]
    exact Ne.symm hz
  cases h with
  | taken howner => rfl
  | noDirectory hfree hrefused => rfl
  | noFile hfree hmade hrefused => exact contentAt_of_makeDirs hmade z
  | broken hfree hmade hcreate hfill =>
    rw [Tracefile.contentAt_filled_of_ne _ _ hkey, contentAt_of_create hcreate hz, contentAt_of_makeDirs hmade]
  | saved hfree hmade hcreate hfill =>
    rw [Tracefile.contentAt_filled_of_ne _ _ hkey, contentAt_of_create hcreate hz, contentAt_of_makeDirs hmade]

theorem Attempt.owners_cases (h : Attempt cfg module cov owners m owners' m' r) :
    owners' = owners ∨ owners' = owners.insert (infoPath cfg module) module := by
  cases h with
  | taken howner => exact .inl rfl
  | noDirectory hfree hrefused => exact .inr rfl
  | noFile hfree hmade hrefused => exact .inr rfl
  | broken hfree hmade hcreate hfill => exact .inr rfl
  | saved hfree hmade hcreate hfill => exact .inr rfl

theorem Attempt.owner_other (h : Attempt cfg module cov owners m owners' m' r) {z : Bytes}
    (hz : infoPath cfg z ≠ infoPath cfg module) : owners'[infoPath cfg z]? = owners[infoPath cfg z]? := by
  rcases h.owners_cases with rfl | rfl
  · rfl
  · rw [Maps.getElem?_insert_eq, if_neg (Ne.symm hz)]

theorem Attempt.refusals (h : Attempt cfg module cov owners m owners' m' r) :
    m'.faults = m.faults ∧ m'.readOnly = m.readOnly := by
  cases h with
  | taken howner => exact ⟨rfl, rfl⟩
  | noDirectory hfree hrefused => exact ⟨rfl, rfl⟩
  | noFile hfree hmade hrefused =>
    rw [Memory.eq_of_makeDirs hmade]
    simp
  | broken hfree hmade hcreate hfill =>
    rw [Memory.eq_of_create hcreate, Memory.eq_of_makeDirs hmade]
    simp
  | saved hfree hmade hcreate hfill =>
    rw [Memory.eq_of_create hcreate, Memory.eq_of_makeDirs hmade]
    simp

end Attempt

/-! ## Turns -/

section Turns

variable {σ : Type} (cfg : Config) (tools : Tools σ) (p : Progress σ) (module : Bytes) (counts : AddressCount)

def answer : Except ResolveError FileLines :=
  (tools.resolve p.world p.store module counts cfg.coveredFilesOnly).lines

def asked : Progress σ :=
  let reply := tools.resolve p.world p.store module counts cfg.coveredFilesOnly
  { p with world := reply.world, canceled := p.canceled || reply.cancels }.emit reply.events

theorem reportModule_eq_match :
    reportModule cfg tools p module counts =
      match answer cfg tools p module counts with
      | .error e => (.stopped module .mapping [] (.resolution module e), asked cfg tools p module counts)
      | .ok cov => writeModule cfg tools (asked cfg tools p module counts) module cov := rfl

end Turns

end Report

end LineCoverage
