import LineCoverage.Proofs.Report.Run
import LineCoverage.Proofs.Report.Writing

/-!
# Modules that come to one tracefile

A tracefile belongs to the first module that comes to it, and a later one that comes to it names that module. The
first one may have failed to write it.
-/

namespace LineCoverage

namespace Report

/-- The module came to a tracefile of its own, and did not get it written. -/
def ModuleResult.WriteFailed (r : ModuleResult) : Prop :=
  ∃ e, r.error = some (.output r.infoPath e) ∧ ∀ z, e ≠ .taken z

/-- The first of the results that came to a tracefile. -/
def firstAt (results : List ModuleResult) (path : Bytes) : Option ModuleResult :=
  results.find? fun r => r.infoPath = path

theorem firstAt_append_singleton (results : List ModuleResult) (r : ModuleResult) (path : Bytes) :
    firstAt (results ++ [r]) path = (firstAt results path).or (if r.infoPath = path then some r else none) := by
  unfold firstAt
  rw [List.find?_append, List.find?_singleton]
  simp only [decide_eq_true_eq]

theorem infoPath_ne_nil (cfg : Config) (module : Bytes) : infoPath cfg module ≠ [] := by
  apply Path.join_ne_nil
  have hending : utf8 ".info" ≠ [] := by decide
  simp [hending]

/-! ## One turn -/

/-- What a module's turn comes to, and what it makes of the owners of tracefiles. -/
inductive ComesToPath (cfg : Config) (module : Bytes) (owners : Owners) : ModuleResult → Owners → Prop where
  | unmapped (e : ResolveError) :
      ComesToPath cfg module owners (.stopped module .mapping [] (.resolution module e)) owners
  | taken {other : Bytes} (howner : owners[infoPath cfg module]? = some other) :
      ComesToPath cfg module owners
        (.stopped module .writing (infoPath cfg module) (.output (infoPath cfg module) (.taken other))) owners
  | first {r : ModuleResult} (hfree : owners[infoPath cfg module]? = none) (hmodule : r.module = module)
      (hpath : r.infoPath = infoPath cfg module) (hbegan : r.isWritten = true ∨ r.WriteFailed) :
      ComesToPath cfg module owners r (owners.insert (infoPath cfg module) module)

section Turn

variable {σ : Type} (cfg : Config) (tools : Tools σ)

theorem renderModule_owners (p : Progress σ) (module path : Bytes) (stats : Tracefile.Stats) :
    let turn := renderModule cfg tools p (.saved module path stats)
    turn.1.infoPath = path ∧ turn.1.isWritten = true ∧ turn.2.owners = p.owners := by
  unfold renderModule
  simp only
  split
  · split
    · exact ⟨rfl, rfl, rfl⟩
    · exact ⟨rfl, rfl, rfl⟩
  · exact ⟨rfl, rfl, rfl⟩

theorem writeModule_comesToPath (p : Progress σ) (module : Bytes) (cov : FileLines) :
    let turn := writeModule cfg tools p module cov
    ComesToPath cfg module p.owners turn.1 turn.2.owners := by
  unfold writeModule
  simp only
  split
  · rename_i other howner
    exact .taken howner
  · rename_i hfree
    split
    · exact .first hfree rfl rfl (.inr ⟨_, rfl, by simp⟩)
    · split
      · exact .first hfree rfl rfl (.inr ⟨_, rfl, by simp⟩)
      · obtain ⟨hpath, hwritten, howners⟩ := renderModule_owners cfg tools _ module (infoPath cfg module) _
        rw [howners]
        exact .first hfree (renderModule_keeps cfg tools _ _).1 hpath (.inl hwritten)

theorem reportModule_comesToPath (p : Progress σ) (module : Bytes) (counts : AddressCount) :
    let turn := reportModule cfg tools p module counts
    ComesToPath cfg module p.owners turn.1 turn.2.owners := by
  simp only [reportModule_eq_match]
  cases answer cfg tools p module counts with
  | error e => exact .unmapped e
  | ok cov => exact writeModule_comesToPath cfg tools (asked cfg tools p module counts) module cov

end Turn

/-! ## All turns -/

/-- The owner of a tracefile is the module whose result came to it first, and that module began to write it. -/
structure FirstCome (owners : Owners) (results : List ModuleResult) : Prop where
  owner : ∀ path ≠ [], owners[path]? = (firstAt results path).map (·.module)
  began : ∀ path ≠ [], ∀ r, firstAt results path = some r → r.isWritten = true ∨ r.WriteFailed

theorem firstCome_nil : FirstCome ∅ [] := by
  constructor
  · intro path _
    simp [firstAt]
  · intro path _ r hr
    cases hr

section Step

variable {cfg : Config} {module : Bytes} {owners owners' : Owners} {results : List ModuleResult} {r : ModuleResult}

/-- A result that is the first at no tracefile changes nothing. -/
theorem FirstCome.append_later (h : FirstCome owners results)
    (hlater : ∀ path ≠ [], r.infoPath = path → (firstAt results path).isSome) : FirstCome owners (results ++ [r]) := by
  have hsame : ∀ path ≠ [], firstAt (results ++ [r]) path = firstAt results path := by
    intro path hpath
    rw [firstAt_append_singleton]
    cases hfirst : firstAt results path with
    | some first => rfl
    | none =>
      have hother : r.infoPath ≠ path := by
        intro heq
        have hsome := hlater path hpath heq
        rw [hfirst] at hsome
        cases hsome
      rw [if_neg hother]
      rfl
  constructor
  · intro path hpath
    rw [hsame path hpath]
    exact h.owner path hpath
  · intro path hpath
    rw [hsame path hpath]
    exact h.began path hpath

theorem FirstCome.step (h : FirstCome owners results) (hturn : ComesToPath cfg module owners r owners') :
    FirstCome owners' (results ++ [r]) := by
  cases hturn with
  | unmapped e =>
    apply h.append_later
    rintro path hpath rfl
    exact absurd rfl hpath
  | @taken other howner =>
    apply h.append_later
    rintro path hpath rfl
    rw [← Option.isSome_map (f := fun r : ModuleResult => r.module), ← h.owner _ hpath]
    exact Option.isSome_of_eq_some howner
  | first hfree hmodule hpath hbegan =>
    -- A tracefile without owner is one that no result has come to.
    have hnone : firstAt results (infoPath cfg module) = none := by
      rw [h.owner _ (infoPath_ne_nil cfg module)] at hfree
      exact Option.map_eq_none_iff.1 hfree
    constructor
    · intro path hne
      rw [firstAt_append_singleton, Maps.getElem?_insert_eq, hpath]
      by_cases heq : infoPath cfg module = path
      · subst heq
        simp [hnone, hmodule]
      · simp [heq, h.owner path hne]
    · intro path hne first hfirst
      rw [firstAt_append_singleton, hpath] at hfirst
      by_cases heq : infoPath cfg module = path
      · subst heq
        rw [hnone, if_pos rfl] at hfirst
        cases hfirst
        exact hbegan
      · rw [if_neg heq, Option.or_none] at hfirst
        exact h.began path hne first hfirst

end Step

section Turns

variable {σ : Type} (cfg : Config) (tools : Tools σ)

theorem reportModules_firstCome {p : Progress σ} {done : List ModuleResult} (h : FirstCome p.owners done)
    (modules : List (Bytes × AddressCount)) {before after : List ModuleResult} {r : ModuleResult}
    (hsplit : (reportModules cfg tools p modules).1 = before ++ r :: after) :
    ∃ owners module owners', FirstCome owners (done ++ before) ∧ ComesToPath cfg module owners r owners' := by
  induction modules generalizing p done before with
  | nil => simp [reportModules] at hsplit
  | cons entry rest ih =>
    obtain ⟨module, counts⟩ := entry
    cases hp : p.canceled with
    | true =>
      rw [(reportModules_of_canceled cfg tools _ hp).1] at hsplit
      simp at hsplit
    | false =>
      rw [reportModules_cons cfg tools module counts rest hp] at hsplit
      have hturn := reportModule_comesToPath cfg tools p module counts
      cases before with
      | nil =>
        obtain ⟨rfl, _⟩ := List.cons.inj hsplit
        exact ⟨p.owners, module, _, by simpa using h, hturn⟩
      | cons first before =>
        obtain ⟨rfl, hrest⟩ := List.cons.inj hsplit
        have hlater := ih (p := (reportModule cfg tools p module counts).2.note _) (h.step hturn) hrest
        simpa using hlater

theorem modules_reportModules (p : Progress σ) (modules : List (Bytes × AddressCount)) :
    (reportModules cfg tools p modules).1.map (·.module) <+: modules.map Prod.fst := by
  induction modules generalizing p with
  | nil => exact List.prefix_rfl
  | cons entry rest ih =>
    obtain ⟨module, counts⟩ := entry
    cases hp : p.canceled with
    | true =>
      rw [(reportModules_of_canceled cfg tools _ hp).1]
      exact List.nil_prefix
    | false =>
      rw [reportModules_cons cfg tools module counts rest hp, List.map_cons, List.map_cons,
        (reportModule_keeps cfg tools p module counts).1]
      exact List.cons_prefix_cons.2 ⟨rfl, ih _⟩

end Turns

/-! ## The report -/

section Run

variable {σ : Type} (cfg : Config) (tools : Tools σ) (realPath : Bytes → Except Bytes Bytes) (metrics : Metrics)
  (s : Store) (world : σ)

theorem nodup_modules_run : ((run cfg tools realPath false metrics s world).results.map (·.module)).Nodup := by
  cases h : aggregate s realPath false cfg with
  | error e =>
    rw [(run_of_error cfg tools realPath metrics s world h).1]
    exact List.nodup_nil
  | ok cov =>
    rw [(run_of_ok cfg tools realPath metrics s world h).1]
    exact (Maps.nodup_names_toList cov).sublist (modules_reportModules cfg tools _ _).sublist

theorem firstCome_run {before after : List ModuleResult} {r : ModuleResult}
    (hsplit : (run cfg tools realPath false metrics s world).results = before ++ r :: after) :
    ∃ owners module owners', FirstCome owners before ∧ ComesToPath cfg module owners r owners' := by
  cases h : aggregate s realPath false cfg with
  | error e =>
    rw [(run_of_error cfg tools realPath metrics s world h).1] at hsplit
    simp at hsplit
  | ok cov =>
    rw [(run_of_ok cfg tools realPath metrics s world h).1] at hsplit
    have hstart : FirstCome (startOf cfg realPath s world).owners [] := firstCome_nil
    exact reportModules_firstCome cfg tools hstart cov.toList hsplit

end Run

theorem not_writeFailed_of_isWritten {html : Bool} {r : ModuleResult} (hr : r.Consistent html)
    (hwritten : r.isWritten = true) : ¬ r.WriteFailed := by
  rintro ⟨e, herror, _⟩
  have hstage := hr.writing.2 ⟨_, e, herror⟩
  simp [ModuleResult.isWritten, hstage] at hwritten

/-- When a module is told that its tracefile is written already for another one, the other one is the first before it
that came to that tracefile. It has written the tracefile, or it has tried to and failed, and nothing else. -/
theorem duplicate_blamed_on_first {σ : Type} (cfg : Config) (tools : Tools σ) (realPath : Bytes → Except Bytes Bytes)
    (metrics : Metrics) (s : Store) (world : σ) {y : ModuleResult} {path x : Bytes}
    (hy : y ∈ (run cfg tools realPath false metrics s world).results)
    (herror : y.error = some (.output path (.taken x))) :
    ∃ before after r, (run cfg tools realPath false metrics s world).results = before ++ y :: after ∧
      firstAt before path = some r ∧ r.module = x ∧ r.infoPath = y.infoPath ∧ y.infoPath = path ∧
      (∀ r' ∈ (run cfg tools realPath false metrics s world).results, r'.module = x → r' = r) ∧
      (r.isWritten = true ↔ ¬ r.WriteFailed) := by
  have hconsistent := consistent_run cfg tools realPath metrics s world
  obtain ⟨before, after, hsplit⟩ := List.append_of_mem hy
  obtain ⟨owners, module, owners', hfirst, hturn⟩ := firstCome_run cfg tools realPath metrics s world hsplit
  cases hturn with
  | unmapped e => cases herror
  | first hfree hmodule hpath hbegan =>
    -- A module that was first is not told of another one.
    rcases hbegan with hwritten | ⟨e, hfailed, hother⟩
    · have hstage := (hconsistent y hy).writing.2 ⟨_, _, herror⟩
      simp [ModuleResult.isWritten, hstage] at hwritten
    · rw [hfailed] at herror
      cases herror
      exact absurd rfl (hother x)
  | @taken other howner =>
    cases herror
    have hne := infoPath_ne_nil cfg module
    rw [hfirst.owner _ hne] at howner
    obtain ⟨r, hr, rfl⟩ := Option.map_eq_some_iff.1 howner
    have hmem : r ∈ (run cfg tools realPath false metrics s world).results := by
      rw [hsplit]
      exact List.mem_append_left _ (List.mem_of_find?_eq_some hr)
    refine ⟨before, after, r, hsplit, hr, rfl, ?_, rfl, ?_, ?_⟩
    · change r.infoPath = infoPath cfg module
      simpa using List.find?_some hr
    · intro r' hr' hmodule
      exact List.inj_on_of_nodup_map (nodup_modules_run cfg tools realPath metrics s world) hr' hmem hmodule
    · constructor
      · exact not_writeFailed_of_isWritten (hconsistent r hmem)
      · exact (hfirst.began _ hne r hr).resolve_right

theorem exists_pair_of_map {α β : Type} {f : α → β} {l : List α} {a b : β} (h : l.map f = [a, b]) :
    ∃ x y, l = [x, y] ∧ f x = a ∧ f y = b := by
  obtain ⟨x, rest, rfl, hx, hrest⟩ := List.map_eq_cons_iff.1 h
  obtain ⟨y, last, rfl, hy, hlast⟩ := List.map_eq_cons_iff.1 hrest
  obtain rfl := List.map_eq_nil_iff.1 hlast
  exact ⟨x, y, rfl, hx, hy⟩

/-- A run with two modules of one base name, with one source file for each. -/
def sharedBase (faults : List Fault) : Memory :=
  { ((Memory.empty.putFile (utf8 "/run/tbcoverage-0.json")
      (utf8 "\x7b\"/x/a\":[[16,17,1]],\"/y/a\":[[32,33,1]]\x7d")).putFile (utf8 "/src/x.c") []).putFile
        (utf8 "/src/y.c") [] with faults := faults }

def sharedBaseConfig : Config := ⟨⟨utf8 "/p", 0, [utf8 "/run"]⟩, true, utf8 "/out", false, [], 0, [], []⟩

/-- A resolver that knows one line of each module, in a file of its own. -/
def sharedBaseTools : Tools Unit :=
  { resolve := fun _ _ module _ _ =>
      ⟨.ok ((∅ : FileLines).insert (if module = utf8 "/x/a" then utf8 "/src/x.c" else utf8 "/src/y.c")
        ((∅ : LineCount).insert 1 1)), false, [], ()⟩
    render := fun _ s _ _ _ => ⟨none, [], s, ()⟩ }

def sharedBaseResults (faults : List Fault) : List ModuleResult :=
  (run sharedBaseConfig sharedBaseTools .ok false .empty (.memory (sharedBase faults)) ()).results

theorem duplicate_blamed_on_first_sharedBase :
    ∃ x y, sharedBaseResults [] = [x, y] ∧
      y.error = some (.output (utf8 "/out/a.info") (.taken (utf8 "/x/a"))) ∧ x.module = utf8 "/x/a" ∧
      x.infoPath = y.infoPath ∧ x.stage = .done ∧ ¬ x.WriteFailed := by
  have hresults : (sharedBaseResults []).map (fun r => (r.module, r.stage, r.error)) =
      [(utf8 "/x/a", .done, none),
        (utf8 "/y/a", .writing, some (.output (utf8 "/out/a.info") (.taken (utf8 "/x/a"))))] := by cbv
  obtain ⟨x, y, hlist, hfirst, hsecond⟩ := exists_pair_of_map hresults
  simp only [Prod.mk.injEq] at hfirst hsecond
  obtain ⟨hmodule, hstage, _⟩ := hfirst
  obtain ⟨_, _, herror⟩ := hsecond
  have hy : y ∈ sharedBaseResults [] := by simp [hlist]
  have hx : x ∈ sharedBaseResults [] := by simp [hlist]
  obtain ⟨_, _, r, _, _, _, hpath, _, honly, hwritten⟩ := duplicate_blamed_on_first sharedBaseConfig sharedBaseTools .ok
    .empty (.memory (sharedBase [])) () hy herror
  obtain rfl := honly x hx hmodule
  exact ⟨x, y, hlist, herror, hmodule, hpath, hstage, hwritten.1 (by simp [ModuleResult.isWritten, hstage])⟩

/-- The first module cannot be written, because one of its source files cannot be looked up. Nothing is in the way of
the second one, but it is told that the first one has written the tracefile. -/
theorem blamed_module_wrote_nothing :
    (sharedBaseResults [⟨.stat, utf8 "/src/x.c", utf8 "input/output error"⟩]).map
        (fun r => (r.module, r.stage, r.infoPath, r.error)) =
      [(utf8 "/x/a", .writing, utf8 "/out/a.info", some (.output (utf8 "/out/a.info")
          (.tracefile (.write (utf8 "/out/a.info") (.fault (utf8 "input/output error")))))),
        (utf8 "/y/a", .writing, utf8 "/out/a.info",
          some (.output (utf8 "/out/a.info") (.taken (utf8 "/x/a"))))] ∧
    ¬ ∀ (cfg : Config) (tools : Tools Unit) (realPath : Bytes → Except Bytes Bytes) (metrics : Metrics) (s : Store)
      (path x : Bytes), ∀ y ∈ (run cfg tools realPath false metrics s ()).results,
        y.error = some (.output path (.taken x)) →
          ∃ r ∈ (run cfg tools realPath false metrics s ()).results, r.module = x ∧ r.infoPath = y.infoPath ∧
            r.isWritten = true := by
  have hresults : (sharedBaseResults [⟨.stat, utf8 "/src/x.c", utf8 "input/output error"⟩]).map
      (fun r => (r.module, r.stage, r.infoPath, r.error)) =
      [(utf8 "/x/a", .writing, utf8 "/out/a.info", some (.output (utf8 "/out/a.info")
          (.tracefile (.write (utf8 "/out/a.info") (.fault (utf8 "input/output error")))))),
        (utf8 "/y/a", .writing, utf8 "/out/a.info",
          some (.output (utf8 "/out/a.info") (.taken (utf8 "/x/a"))))] := by cbv
  refine ⟨hresults, fun hall => ?_⟩
  have hall := hall sharedBaseConfig sharedBaseTools .ok .empty
    (.memory (sharedBase [⟨.stat, utf8 "/src/x.c", utf8 "input/output error"⟩]))
  change ∀ path x, ∀ y ∈ sharedBaseResults _, _ → ∃ r ∈ sharedBaseResults _, _ at hall
  obtain ⟨x, y, hlist, hfirst, hsecond⟩ := exists_pair_of_map hresults
  simp only [Prod.mk.injEq] at hfirst hsecond
  obtain ⟨_, hstage, _, _⟩ := hfirst
  obtain ⟨_, hstage', _, herror⟩ := hsecond
  obtain ⟨r, hr, _, _, hwritten⟩ := hall _ _ y (by simp [hlist]) herror
  rw [hlist] at hr
  rcases List.mem_pair.1 hr with rfl | rfl
  · simp [ModuleResult.isWritten, hstage] at hwritten
  · simp [ModuleResult.isWritten, hstage'] at hwritten

end Report

end LineCoverage
