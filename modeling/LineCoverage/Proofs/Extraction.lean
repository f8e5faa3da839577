import LineCoverage.Extraction
import LineCoverage.Proofs.Coverage
import LineCoverage.Proofs.Trace

/-!
# Counts over a sequence of runs

Runs are added to a coverage one after the other. A run that cannot be read whole leaves no trace, and
every other run counts each address that one of its blocks has once.
-/

namespace LineCoverage

namespace Extraction

/-! ## One run -/

theorem getElem?_addRun (order : VisitOrder) (cov : ModuleCoverage) (blocks : BlockMap) (module : Bytes) :
    (addRun order cov blocks)[module]? =
      match blocks[module]? with
      | none => cov[module]?
      | some list => ModuleCoverage.withRun list cov[module]? := by
  unfold addRun
  simp only [ModuleCoverage.addBlocks_eq_alter]
  refine (Maps.getElem?_foldl_alter_of_perm (order.perm blocks) ModuleCoverage.withRun cov module).trans ?_
  cases blocks[module]? <;> rfl

theorem addRun_order (order order' : VisitOrder) (cov : ModuleCoverage) (blocks : BlockMap) :
    addRun order cov blocks = addRun order' cov blocks := by
  apply Std.ExtTreeMap.ext_getElem?
  intro module
  rw [getElem?_addRun, getElem?_addRun]

theorem mem_addRun (order : VisitOrder) (cov : ModuleCoverage) (blocks : BlockMap) (module : Bytes) :
    module ∈ addRun order cov blocks ↔ module ∈ cov ∨ module ∈ blocks := by
  simp only [Std.ExtTreeMap.mem_iff_isSome_getElem?, getElem?_addRun]
  cases blocks[module]? with
  | none => simp
  | some list => simp [ModuleCoverage.isSome_withRun]

theorem seen_addRun (order : VisitOrder) (cov : ModuleCoverage) (blocks : BlockMap) (module : Bytes)
    (a : UInt64) :
    (addRun order cov blocks).seen module a =
      if Reached (blocks.getD module []) a then some ((cov.seen module a).getD 0 + 1)
      else cov.seen module a := by
  unfold ModuleCoverage.seen
  rw [getElem?_addRun, Std.ExtTreeMap.getD_eq_getD_getElem?]
  cases blocks[module]? with
  | none => simp [not_reached_nil]
  | some list => simp [ModuleCoverage.bind_withRun]

theorem runBlocks_eq_ok_iff {s : Store} {dir : Bytes} {blocks : BlockMap} :
    runBlocks s dir = .ok blocks ↔ ∃ files, Trace.list s dir = .ok files ∧ Trace.aggregate s files = .ok blocks := by
  unfold runBlocks
  cases Trace.list s dir with
  | error e => simp [bind, Except.bind, Except.mapError]
  | ok files =>
    simp only [Except.mapError, bind, Except.bind, Except.ok.injEq, exists_eq_left']
    cases Trace.aggregate s files <;> simp

/-! ## A sequence of runs -/

/-- One call: what it reads from, whether it comes too late, and the order in which it visits modules. -/
structure Request where
  store : Store
  dir : Bytes
  canceled : Bool
  order : VisitOrder

namespace Request

def run (r : Request) (cov : ModuleCoverage) : ModuleCoverage × Option ExtractError :=
  extractIn r.order r.store r.canceled r.dir cov

/-- The blocks of all trace files of the run. There are none if the call is canceled, if the files
cannot be listed, or if one of them cannot be read. -/
def blocks? (r : Request) : Option BlockMap :=
  if r.canceled then none
  else
    match Trace.list r.store r.dir with
    | .error _ => none
    | .ok files => (Trace.aggregate r.store files).toOption

/-- Whether the call succeeds and one of its blocks of the module has the address. -/
def reaches (module : Bytes) (a : UInt64) (r : Request) : Bool :=
  match r.blocks? with
  | none => false
  | some blocks => Reached (blocks.getD module []) a

theorem run_cases (r : Request) (cov : ModuleCoverage) :
    (r.blocks? = none ∧ ∃ e, r.run cov = (cov, some e)) ∨
      ∃ blocks, r.blocks? = some blocks ∧ r.run cov = (addRun r.order cov blocks, none) := by
  unfold run blocks? extractIn runBlocks
  cases r.canceled with
  | true => exact .inl ⟨rfl, _, rfl⟩
  | false =>
    cases Trace.list r.store r.dir with
    | error e => exact .inl ⟨rfl, _, rfl⟩
    | ok files =>
      simp only [Bool.false_eq_true, if_false]
      cases h : Trace.aggregate r.store files with
      | error e => exact .inl ⟨rfl, .aggregating r.dir e, by simp [Except.mapError, bind, Except.bind, h]⟩
      | ok blocks => exact .inr ⟨blocks, rfl, by simp [Except.mapError, bind, Except.bind, h]⟩

theorem isSome_blocks?_iff (r : Request) :
    r.blocks?.isSome ↔ r.canceled = false ∧ ∃ files, Trace.list r.store r.dir = .ok files ∧
      ∀ path ∈ files, ∃ blocks, Trace.readFile r.store path = .ok blocks := by
  unfold blocks?
  cases r.canceled with
  | true => simp
  | false =>
    cases Trace.list r.store r.dir with
    | error e => simp
    | ok files =>
      simp only [Bool.false_eq_true, if_false, Except.ok.injEq, exists_eq_left', true_and,
        ← @Trace.exists_aggregateFrom_iff r.store ∅]
      change (Trace.aggregate r.store files).toOption.isSome ↔ ∃ result, Trace.aggregate r.store files = .ok result
      cases Trace.aggregate r.store files <;> simp [Except.toOption]

/-- What a call does is the same in whatever order it visits modules. -/
theorem run_order (r : Request) (order : VisitOrder) (cov : ModuleCoverage) :
    ({ r with order } : Request).run cov = r.run cov := by
  unfold run extractIn
  simp only [addRun_order order r.order]

theorem mem_run (r : Request) (cov : ModuleCoverage) (module : Bytes) :
    module ∈ (r.run cov).1 ↔ module ∈ cov ∨ ∃ blocks, r.blocks? = some blocks ∧ module ∈ blocks := by
  rcases r.run_cases cov with ⟨hb, e, hr⟩ | ⟨blocks, hb, hr⟩
  · simp [hb, hr]
  · simp [hb, hr, mem_addRun]

theorem seen_run (r : Request) (cov : ModuleCoverage) (module : Bytes) (a : UInt64) :
    (r.run cov).1.seen module a =
      if r.reaches module a then some ((cov.seen module a).getD 0 + 1) else cov.seen module a := by
  unfold reaches
  rcases r.run_cases cov with ⟨hb, e, hr⟩ | ⟨blocks, hb, hr⟩
  · simp [hb, hr]
  · simp [hb, hr, seen_addRun]

end Request

/-- Makes the calls in turn, each on what the one before returned. -/
def runAll (cov : ModuleCoverage) (requests : List Request) : ModuleCoverage :=
  requests.foldl (fun cov r => (r.run cov).1) cov

theorem mem_runAll (requests : List Request) (cov : ModuleCoverage) (module : Bytes) :
    module ∈ runAll cov requests ↔
      module ∈ cov ∨ ∃ r ∈ requests, ∃ blocks, r.blocks? = some blocks ∧ module ∈ blocks := by
  induction requests generalizing cov with
  | nil => simp [runAll]
  | cons r rest ih =>
    have h := ih (r.run cov).1
    unfold runAll at h ⊢
    rw [List.foldl_cons, h, r.mem_run, or_assoc]
    simp only [List.mem_cons, exists_eq_or_imp]

theorem seen_runAll (requests : List Request) (cov : ModuleCoverage) (module : Bytes) (a : UInt64) :
    (runAll cov requests).seen module a =
      if requests.countP (Request.reaches module a) = 0 then cov.seen module a
      else some ((cov.seen module a).getD 0 + UInt64.ofNat (requests.countP (Request.reaches module a))) := by
  induction requests generalizing cov with
  | nil => simp [runAll]
  | cons r rest ih =>
    have h := ih (r.run cov).1
    unfold runAll at h ⊢
    rw [List.foldl_cons, h, r.seen_run, List.countP_cons]
    cases r.reaches module a with
    | false => simp
    | true =>
      by_cases hzero : rest.countP (Request.reaches module a) = 0
      · simp [hzero]
      · simp only [hzero, UInt64.ofNat_add, UInt64.add_assoc, if_true, if_false, Option.getD_some]
        simp [UInt64.add_comm]

/-- After any calls on an empty coverage, in any order of modules: a call goes well if it comes in time, the trace files
of its directory can be listed and each of them can be read. Otherwise it returned what it was given. The modules are
those of the runs that were read whole, and the count of an address is the number of these runs in which a block of the
module has it. -/
theorem count_after_calls (requests : List Request) :
    (∀ (r : Request) (cov : ModuleCoverage),
      ((r.run cov).2 = none ↔ r.blocks?.isSome) ∧
      ((r.run cov).2 = none ↔ r.canceled = false ∧ ∃ files, Trace.list r.store r.dir = .ok files ∧
        ∀ path ∈ files, ∃ blocks, Trace.readFile r.store path = .ok blocks) ∧
      ((r.run cov).2 ≠ none → (r.run cov).1 = cov) ∧
      ∀ order, ({ r with order } : Request).run cov = r.run cov) ∧
    ∀ module,
      (module ∈ runAll ∅ requests ↔
        ∃ r ∈ requests, ∃ blocks, r.blocks? = some blocks ∧ module ∈ blocks) ∧
      ∀ a, (runAll ∅ requests).seen module a =
        if requests.countP (Request.reaches module a) = 0 then none
        else some (UInt64.ofNat (requests.countP (Request.reaches module a))) := by
  refine ⟨fun r cov => ?_, fun module => ⟨?_, fun a => ?_⟩⟩
  · have hgood : (r.run cov).2 = none ↔ r.blocks?.isSome := by
      rcases r.run_cases cov with ⟨hb, e, hr⟩ | ⟨blocks, hb, hr⟩ <;> simp [hb, hr]
    have hsame : (r.run cov).2 ≠ none → (r.run cov).1 = cov := by
      rcases r.run_cases cov with ⟨hb, e, hr⟩ | ⟨blocks, hb, hr⟩ <;> simp [hr]
    exact ⟨hgood, hgood.trans r.isSome_blocks?_iff, hsame, fun order => r.run_order order cov⟩
  · rw [mem_runAll]
    simp
  · rw [seen_runAll, ModuleCoverage.seen_empty]
    simp

end Extraction

end LineCoverage
