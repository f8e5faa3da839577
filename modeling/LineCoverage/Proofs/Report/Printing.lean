import LineCoverage.Proofs.Report.Run
import LineCoverage.Proofs.Report.Writing
import LineCoverage.Proofs.Store.Tree

/-!
# What a report adds to a store

In a store without faults a report makes the directories on the way to its tracefiles and the tracefiles, and
changes nothing else. What becomes of a module does not depend on what is in the store.
-/

namespace LineCoverage

namespace Memory

theorem getElem?_linkParents_cases {nodes : Std.ExtTreeMap Bytes Node} {ps : List Bytes}
    (h : ∀ p ∈ ps, ∀ node : Node, nodes[p]? = some node → node.isDir = true) (k : Bytes) :
    (linkParents nodes ps)[k]? = nodes[k]? ∨
      nodes[k]? = none ∧ k ∈ ps ∧ (linkParents nodes ps)[k]? = some .directory := by
  induction ps generalizing nodes with
  | nil => exact .inl rfl
  | cons p above ih =>
    unfold linkParents
    cases hp : nodes[p]? with
    | some node =>
      left
      have hsame : { node with isDir := true } = node := by rw [← h p List.mem_cons_self node hp]
      simp only [hsame, Maps.getElem?_insert_eq]
      split
      · rename_i heq
        rw [← heq, hp]
      · rfl
    | none =>
      have habove : ∀ q ∈ above, ∀ node : Node, (nodes.insert p .directory)[q]? = some node → node.isDir = true := by
        intro q hq node hnode
        rw [Maps.getElem?_insert_eq] at hnode
        split at hnode
        · cases hnode
          rfl
        · exact h q (List.mem_cons_of_mem _ hq) node hnode
      rcases ih habove with heq | ⟨hnone, hmem, heq⟩
      · simp only [heq, Maps.getElem?_insert_eq]
        split
        · rename_i hpk
          exact .inr ⟨hpk ▸ hp, hpk ▸ List.mem_cons_self, rfl⟩
        · exact .inl rfl
      · rw [Maps.getElem?_insert_eq] at hnone
        split at hnone
        · cases hnone
        · exact .inr ⟨hnone, List.mem_cons_of_mem _ hmem, heq⟩

theorem getElem?_putFile {m : Memory} {path : Bytes} {node : Node} (hkey : IsKey path)
    (hfile : (m.nodes[path]?).any (·.isDir) = false) (hparent : m.nodes[parent path]? = some node)
    (hdir : node.isDir = true) (content k : Bytes) :
    (m.putFile path content).nodes[k]? = if path = k then some (.file content) else m.nodes[k]? := by
  have hne : path ≠ parent path := by
    intro h
    rw [← h] at hparent
    simp [hparent, hdir] at hfile
  have hsame : { node with isDir := true } = node := by rw [← hdir]
  unfold putFile put
  simp only [hkey.key, hfile, Bool.false_eq_true, if_false, hkey.parents, linkParents, Maps.getElem?_insert_eq, hne,
    hparent, hsame]
  by_cases hk : parent path = k
  · subst hk
    simp [hne, hparent]
  · simp [hk]

end Memory

namespace Report

/-! ## One tracefile -/

/-- The output directory and those above it. -/
def way (cfg : Config) : List Bytes := Memory.key cfg.outputPath :: Memory.parents (Memory.key cfg.outputPath)

/-- A store that a report can write to: no file stands on the way to the output directory, and no directory where a
tracefile goes. -/
structure Clear (cfg : Config) (m : Memory) : Prop where
  faults : m.faults = []
  tree : Memory.IsTree m.nodes
  way : ∀ k ∈ way cfg, ∀ node : Node, m.nodes[k]? = some node → node.isDir = true
  files : ∀ (module : Bytes) (node : Node), m.nodes[infoPath cfg module]? = some node → node.isDir = false

def print (cfg : Config) (m : Memory) (module text : Bytes) : Memory :=
  Tracefile.filled ((m.putDirectory cfg.outputPath).putFile (infoPath cfg module) []) (infoPath cfg module) text

theorem isKey_infoPath (cfg : Config) (module : Bytes) : Memory.IsKey (infoPath cfg module) := by
  refine ⟨key_infoPath cfg module, fun h => ?_⟩
  have hlen := le_length_infoPath cfg module
  rw [h] at hlen
  revert hlen
  decide

section Print

variable {cfg : Config} {m : Memory}

theorem getElem?_putDirectory (h : Clear cfg m) (k : Bytes) :
    (m.putDirectory cfg.outputPath).nodes[k]? = m.nodes[k]? ∨
      m.nodes[k]? = none ∧ k ∈ way cfg ∧ (m.putDirectory cfg.outputPath).nodes[k]? = some .directory := by
  unfold Memory.putDirectory
  split
  · exact .inl rfl
  · rename_i hnone
    rw [Option.not_isSome_iff_eq_none] at hnone
    have hparents : ∀ p ∈ Memory.parents (Memory.key cfg.outputPath), ∀ node : Node,
        (m.nodes.insert (Memory.key cfg.outputPath) .directory)[p]? = some node → node.isDir = true := by
      intro p hp node hnode
      rw [Maps.getElem?_insert_eq] at hnode
      split at hnode
      · cases hnode
        rfl
      · exact h.way p (List.mem_cons_of_mem _ hp) node hnode
    rcases Memory.getElem?_linkParents_cases hparents k with heq | ⟨habsent, hmem, heq⟩
    · unfold Memory.put
      simp only [heq, Maps.getElem?_insert_eq]
      split
      · rename_i hk
        exact .inr ⟨hk ▸ hnone, hk ▸ List.mem_cons_self, rfl⟩
      · exact .inl rfl
    · rw [Maps.getElem?_insert_eq] at habsent
      split at habsent
      · cases habsent
      · exact .inr ⟨habsent, List.mem_cons_of_mem _ hmem, heq⟩

theorem getElem?_outputPath (h : Clear cfg m) :
    ∃ node, (m.putDirectory cfg.outputPath).nodes[Memory.key cfg.outputPath]? = some node ∧ node.isDir = true := by
  rcases getElem?_putDirectory h (Memory.key cfg.outputPath) with heq | ⟨-, -, heq⟩
  · cases hnode : m.nodes[Memory.key cfg.outputPath]? with
    | some node => exact ⟨node, heq.trans hnode, h.way _ List.mem_cons_self node hnode⟩
    | none =>
      have hput := Memory.contentAt_put m cfg.outputPath .directory
      have hmade : m.putDirectory cfg.outputPath = m.put cfg.outputPath .directory := by
        unfold Memory.putDirectory
        rw [if_neg (by simp [hnode])]
      rw [hmade, hnode] at heq
      rw [Memory.contentAt, heq] at hput
      cases hput
  · exact ⟨.directory, heq, rfl⟩

theorem getElem?_print (h : Clear cfg m) (module text k : Bytes) :
    (print cfg m module text).nodes[k]? =
      if infoPath cfg module = k then some (.file text) else (m.putDirectory cfg.outputPath).nodes[k]? := by
  obtain ⟨node, hout, hdir⟩ := getElem?_outputPath h
  rw [← parent_infoPath cfg module] at hout
  have hfile : ((m.putDirectory cfg.outputPath).nodes[infoPath cfg module]?).any (·.isDir) = false := by
    rcases getElem?_putDirectory h (infoPath cfg module) with heq | ⟨-, hway, -⟩
    · rw [heq]
      cases hinfo : m.nodes[infoPath cfg module]? with
      | none => rfl
      | some node => simpa using h.files module node hinfo
    · exact absurd hway (infoPath_not_mem_outputPath cfg module)
  have hcreated := Memory.getElem?_putFile (isKey_infoPath cfg module) hfile hout hdir []
  have hfaults : ((m.putDirectory cfg.outputPath).putFile (infoPath cfg module) []).faults = [] := by
    simpa using h.faults
  unfold print Tracefile.filled
  rw [Memory.faultAt_of_nil hfaults]
  simp only [Memory.append, Std.ExtTreeMap.getElem?_modify, Std.LawfulEqCmp.compare_eq_iff_eq, key_infoPath, hcreated]
  split
  · rename_i hk
    subst hk
    simp [Node.file]
  · rfl

@[simp]
theorem faults_print (module text : Bytes) : (print cfg m module text).faults = m.faults := by simp [print]

@[simp]
theorem readOnly_print (module text : Bytes) : (print cfg m module text).readOnly = m.readOnly := by simp [print]

theorem Clear.print (h : Clear cfg m) (module text : Bytes) : Clear cfg (print cfg m module text) := by
  refine ⟨by simpa using h.faults, ?_, fun k hk node hnode => ?_, fun z node hnode => ?_⟩
  · have htree := (h.tree.putDirectory cfg.outputPath).putFile (infoPath cfg module) []
    unfold Report.print Tracefile.filled
    split
    · exact htree.append _ _
    · exact htree
  · have hne : infoPath cfg module ≠ k := by
      rintro rfl
      exact infoPath_not_mem_outputPath cfg module hk
    rw [getElem?_print h, if_neg hne] at hnode
    rcases getElem?_putDirectory h k with heq | ⟨-, -, heq⟩
    · exact h.way k hk node (heq ▸ hnode)
    · rw [heq] at hnode
      cases hnode
      rfl
  · rw [getElem?_print h] at hnode
    split at hnode
    · cases hnode
      rfl
    · rcases getElem?_putDirectory h (infoPath cfg z) with heq | ⟨-, hway, -⟩
      · exact h.files z node (heq ▸ hnode)
      · exact absurd hway (infoPath_not_mem_outputPath cfg z)

theorem print_eq_self (h : Clear cfg m) {module text : Bytes} (hout : Memory.key cfg.outputPath ∈ m.nodes)
    (hfile : m.nodes[infoPath cfg module]? = some (.file text)) : print cfg m module text = m := by
  have hthere : m.putDirectory cfg.outputPath = m := by
    unfold Memory.putDirectory
    rw [if_pos (by rwa [Std.ExtTreeMap.mem_iff_isSome_getElem?] at hout)]
  have hnodes : (print cfg m module text).nodes = m.nodes := by
    apply Std.ExtTreeMap.ext_getElem?
    intro k
    rw [getElem?_print h, hthere]
    split
    · rename_i hk
      rw [← hk, hfile]
    · rfl
  have hfaults := @faults_print cfg m module text
  have hreadOnly := @readOnly_print cfg m module text
  cases hprint : print cfg m module text
  rw [hprint] at hnodes hfaults hreadOnly
  simp only at hnodes hfaults hreadOnly
  rw [hnodes, hfaults, hreadOnly]

end Print

/-! ## What reports add -/

/-- What a report adds while the tracefiles with an owner stay: directories on the way to the output directory, and
tracefiles. -/
structure Prints (cfg : Config) (owners : Owners) (m m' : Memory) : Prop where
  readOnly : m'.readOnly = m.readOnly
  node : ∀ k : Bytes, m'.nodes[k]? = m.nodes[k]? ∨
    (m.nodes[k]? = none ∧ k ∈ way cfg ∧ m'.nodes[k]? = some .directory) ∨
    ∃ module text, k = infoPath cfg module ∧ k ∉ owners ∧ m'.nodes[k]? = some (.file text)

theorem Prints.refl (cfg : Config) (owners : Owners) (m : Memory) : Prints cfg owners m m := ⟨rfl, fun _ => .inl rfl⟩

theorem Prints.trans {cfg : Config} {owners owners₁ : Owners} {m m₁ m₂ : Memory} (h : Prints cfg owners m m₁)
    (howners : ∀ k ∈ owners, k ∈ owners₁) (h₁ : Prints cfg owners₁ m₁ m₂) : Prints cfg owners m m₂ := by
  refine ⟨h₁.readOnly.trans h.readOnly, fun k => ?_⟩
  rcases h₁.node k with heq | ⟨hnone, hway, hdir⟩ | ⟨module, text, hk, howner, hfile⟩
  · rw [heq]
    exact h.node k
  · rcases h.node k with heq | ⟨-, -, hdir₁⟩ | ⟨_, _, _, _, hfile₁⟩
    · exact .inr (.inl ⟨heq ▸ hnone, hway, hdir⟩)
    · rw [hnone] at hdir₁
      cases hdir₁
    · rw [hnone] at hfile₁
      cases hfile₁
  · exact .inr (.inr ⟨module, text, hk, fun hmem => howner (howners k hmem), hfile⟩)

theorem Prints.mem {cfg : Config} {owners : Owners} {m m' : Memory} (h : Prints cfg owners m m') {k : Bytes}
    (hk : k ∈ m.nodes) : k ∈ m'.nodes := by
  rw [Std.ExtTreeMap.mem_iff_isSome_getElem?] at hk ⊢
  rcases h.node k with heq | ⟨-, -, hdir⟩ | ⟨_, _, _, _, hfile⟩
  · rwa [heq]
  · simp [hdir]
  · simp [hfile]

theorem Prints.owned {cfg : Config} {owners : Owners} {m m' : Memory} (h : Prints cfg owners m m') {module : Bytes}
    {node : Node} (howner : infoPath cfg module ∈ owners) (hnode : m.nodes[infoPath cfg module]? = some node) :
    m'.nodes[infoPath cfg module]? = some node := by
  rcases h.node (infoPath cfg module) with heq | ⟨-, hway, -⟩ | ⟨_, _, _, hfree, _⟩
  · rw [heq, hnode]
  · exact absurd hway (infoPath_not_mem_outputPath cfg module)
  · exact absurd howner hfree

theorem prints_print {cfg : Config} {owners : Owners} {m : Memory} (h : Clear cfg m) {module : Bytes} (text : Bytes)
    (hfree : owners[infoPath cfg module]? = none) : Prints cfg owners m (print cfg m module text) := by
  refine ⟨by simp, fun k => ?_⟩
  rw [getElem?_print h]
  split
  · rename_i hk
    have howner : k ∉ owners := by
      rw [Std.ExtTreeMap.mem_iff_isSome_getElem?, ← hk, hfree]
      simp
    exact .inr (.inr ⟨module, text, hk.symm, howner, rfl⟩)
  · rcases getElem?_putDirectory h k with heq | hdir
    · exact .inl heq
    · exact .inr (.inl hdir)

/-! ## Turns -/

/-- What becomes of a module's lines in a store without faults. -/
def verdict (cfg : Config) (readOnly : Bool) (owners : Owners) (module : Bytes) (cov : FileLines) :
    Except OutputError Tracefile.Stats :=
  match owners[infoPath cfg module]? with
  | some other => .error (.taken other)
  | none => if readOnly then .error (.directory .refused) else .ok ⟨Tracefile.fileStats cov.toList, []⟩

def claim (cfg : Config) (owners : Owners) (module : Bytes) : Owners :=
  match owners[infoPath cfg module]? with
  | some _ => owners
  | none => owners.insert (infoPath cfg module) module

def printed (cfg : Config) (m : Memory) (module : Bytes) (cov : FileLines) :
    Except OutputError Tracefile.Stats → Memory
  | .ok _ => print cfg m module (Tracefile.textOf cov)
  | .error _ => m

theorem mem_claim {cfg : Config} {owners : Owners} {k : Bytes} (module : Bytes) (h : k ∈ owners) :
    k ∈ claim cfg owners module := by
  unfold claim
  split
  · exact h
  · exact mem_insert_owners.2 (.inr h)

section Turns

variable {σ : Type} {cfg : Config} {m : Memory}

theorem attempt_of_verdict (hhtml : cfg.html = false) (hfaults : m.faults = []) (owners : Owners) (module : Bytes)
    (cov : FileLines) :
    Attempt cfg module cov owners m (claim cfg owners module)
      (printed cfg m module cov (verdict cfg m.readOnly owners module cov))
      (verdict cfg m.readOnly owners module cov) := by
  unfold verdict claim
  cases howner : owners[infoPath cfg module]? with
  | some other => exact .taken howner
  | none =>
    have hdirs := Memory.makeDirs_eq hfaults cfg.outputPath
    cases hreadOnly : m.readOnly with
    | true =>
      rw [hreadOnly, if_pos rfl] at hdirs
      exact .noDirectory howner hdirs
    | false =>
      rw [hreadOnly, if_neg (by simp)] at hdirs
      have hfaults₁ : (m.putDirectory cfg.outputPath).faults = [] := by simpa using hfaults
      have hfaults₂ : ((m.putDirectory cfg.outputPath).putFile (infoPath cfg module) []).faults = [] := by
        simpa using hfaults
      have hcreate := Memory.create_eq hfaults₁ (infoPath cfg module)
      rw [Memory.readOnly_putDirectory, hreadOnly, if_neg (by simp)] at hcreate
      have hencode := Tracefile.encode_unchecked
        (.memory ((m.putDirectory cfg.outputPath).putFile (infoPath cfg module) [])) cov
      have hsaved := @Attempt.saved cfg module cov owners m _ _ howner hdirs hcreate (by
        rw [Tracefile.fillError_eq_none_iff, hhtml]
        exact ⟨hencode.1, Memory.faultAt_of_nil hfaults₂ _ _, Memory.faultAt_of_nil hfaults₂ _ _⟩)
      rw [hhtml, hencode.2, Tracefile.written_encode] at hsaved
      exact hsaved

theorem writeModule_of_verdict (tools : Tools σ) {p : Progress σ} (hhtml : cfg.html = false)
    (hstore : p.store = .memory m) (hfaults : m.faults = []) (module : Bytes) (cov : FileLines) :
    let r := verdict cfg m.readOnly p.owners module cov
    ∃ log, writeModule cfg tools p module cov =
      (plainResult cfg module r, p.behind (claim cfg p.owners module) (printed cfg m module cov r) log) :=
  writeModule_plain tools p hhtml hstore (attempt_of_verdict hhtml hfaults p.owners module cov)

theorem Clear.printed (h : Clear cfg m) (module : Bytes) (cov : FileLines) (r : Except OutputError Tracefile.Stats) :
    Clear cfg (printed cfg m module cov r) := by
  cases r with
  | ok stats => exact h.print module _
  | error e => exact h

theorem prints_printed (h : Clear cfg m) (owners : Owners) (module : Bytes) (cov : FileLines) :
    Prints cfg owners m (printed cfg m module cov (verdict cfg m.readOnly owners module cov)) := by
  unfold verdict
  cases howner : owners[infoPath cfg module]? with
  | some other => exact .refl cfg owners m
  | none =>
    cases m.readOnly with
    | true => exact .refl cfg owners m
    | false => exact prints_print h _ howner

def after (cfg : Config) (tools : Tools σ) (p : Progress σ) (module : Bytes) (counts : AddressCount) : Progress σ :=
  (reportModule cfg tools p module counts).2.note (failureLog (reportModule cfg tools p module counts).1)

theorem reportModule_turn (tools : Tools σ) {p : Progress σ} (hhtml : cfg.html = false)
    (hstore : p.store = .memory m) (hfaults : m.faults = []) (module : Bytes) (counts : AddressCount) :
    match answer cfg tools p module counts with
    | .error e =>
      (reportModule cfg tools p module counts).1 = .stopped module .mapping [] (.resolution module e) ∧
        (after cfg tools p module counts).store = .memory m ∧ (after cfg tools p module counts).owners = p.owners
    | .ok cov =>
      let r := verdict cfg m.readOnly p.owners module cov
      (reportModule cfg tools p module counts).1 = plainResult cfg module r ∧
        (after cfg tools p module counts).store = .memory (printed cfg m module cov r) ∧
        (after cfg tools p module counts).owners = claim cfg p.owners module := by
  unfold after
  rw [reportModule_eq_match]
  cases answer cfg tools p module counts with
  | error e => exact ⟨rfl, hstore, rfl⟩
  | ok cov =>
    obtain ⟨log, hwrite⟩ := @writeModule_of_verdict σ cfg m tools (asked cfg tools p module counts) hhtml hstore
      hfaults module cov
    simp only [hwrite]
    exact ⟨rfl, rfl, rfl⟩

/-- What a report adds, from some point of its way to its end. -/
theorem reportModules_prints (tools : Tools σ) {p : Progress σ} (hhtml : cfg.html = false)
    (hstore : p.store = .memory m) (h : Clear cfg m) (modules : List (Bytes × AddressCount)) :
    ∃ m', (reportModules cfg tools p modules).2.2.store = .memory m' ∧ Clear cfg m' ∧ Prints cfg p.owners m m' := by
  induction modules generalizing p m with
  | nil => exact ⟨m, hstore, h, .refl cfg p.owners m⟩
  | cons entry rest ih =>
    obtain ⟨module, counts⟩ := entry
    cases hp : p.canceled with
    | true =>
      rw [(reportModules_of_canceled cfg tools _ hp).2]
      exact ⟨m, hstore, h, .refl cfg p.owners m⟩
    | false =>
      rw [reportModules_cons cfg tools module counts rest hp]
      have hturn := reportModule_turn tools hhtml hstore h.faults module counts
      cases hanswer : answer cfg tools p module counts with
      | error e =>
        rw [hanswer] at hturn
        obtain ⟨-, hnext, howners⟩ := hturn
        rw [← howners]
        exact ih hnext h
      | ok cov =>
        rw [hanswer] at hturn
        obtain ⟨-, hnext, howners⟩ := hturn
        obtain ⟨m', hm', hclear', hprints'⟩ := ih hnext (h.printed module cov _)
        rw [howners] at hprints'
        exact ⟨m', hm', hclear', (prints_printed h p.owners module cov).trans (fun k hk => mem_claim module hk) hprints'⟩

/-- The resolver's answers depend on the module and its counts alone. -/
def Answers (cfg : Config) (tools : Tools σ) (lines : Bytes → AddressCount → Except ResolveError FileLines)
    (cancels : Bytes → AddressCount → Bool) : Prop :=
  ∀ world s module counts,
    (tools.resolve world s module counts cfg.coveredFilesOnly).lines = lines module counts ∧
      (tools.resolve world s module counts cfg.coveredFilesOnly).cancels = cancels module counts

theorem canceled_after (tools : Tools σ) (p : Progress σ) (module : Bytes) (counts : AddressCount) :
    (after cfg tools p module counts).canceled =
      (p.canceled || (tools.resolve p.world p.store module counts cfg.coveredFilesOnly).cancels) :=
  (reportModule_keeps cfg tools p module counts).2

/-- Behind a verdict the store has the tracefile, and later turns leave it alone. So the same verdict changes nothing
there. -/
theorem printed_again {owners : Owners} {m' : Memory} (h : Clear cfg m) (h' : Clear cfg m') {module : Bytes}
    {cov : FileLines}
    (hprints : Prints cfg (claim cfg owners module)
      (printed cfg m module cov (verdict cfg m.readOnly owners module cov)) m') :
    printed cfg m' module cov (verdict cfg m.readOnly owners module cov) = m' := by
  unfold verdict claim at *
  cases howner : owners[infoPath cfg module]? with
  | some other => rfl
  | none =>
    rw [howner] at hprints
    cases hreadOnly : m.readOnly with
    | true => rfl
    | false =>
      rw [hreadOnly] at hprints
      have hfile : (print cfg m module (Tracefile.textOf cov)).nodes[infoPath cfg module]? =
          some (.file (Tracefile.textOf cov)) := by
        rw [getElem?_print h, if_pos rfl]
      have hout : Memory.key cfg.outputPath ∈ (print cfg m module (Tracefile.textOf cov)).nodes := by
        obtain ⟨node, hnode, -⟩ := getElem?_outputPath h
        have hne : infoPath cfg module ≠ Memory.key cfg.outputPath := by
          intro heq
          exact infoPath_not_mem_outputPath cfg module (heq ▸ List.mem_cons_self)
        rw [Std.ExtTreeMap.mem_iff_isSome_getElem?, getElem?_print h, if_neg hne, hnode]
        rfl
      exact print_eq_self h' (hprints.mem hout) (hprints.owned (mem_insert_owners.2 (.inl rfl)) hfile)

theorem reportModules_again {lines : Bytes → AddressCount → Except ResolveError FileLines}
    {cancels : Bytes → AddressCount → Bool} {tools : Tools σ} (hanswers : Answers cfg tools lines cancels)
    (hhtml : cfg.html = false) {p q : Progress σ} {m' : Memory} (hstore : p.store = .memory m) (h : Clear cfg m)
    (hstore' : q.store = .memory m') (howners : q.owners = p.owners) (hcanceled : q.canceled = p.canceled)
    {modules : List (Bytes × AddressCount)} (hend : (reportModules cfg tools p modules).2.2.store = .memory m') :
    (reportModules cfg tools q modules).1 = (reportModules cfg tools p modules).1 ∧
      (reportModules cfg tools q modules).2.1 = (reportModules cfg tools p modules).2.1 ∧
      (reportModules cfg tools q modules).2.2.store = .memory m' := by
  induction modules generalizing p q m with
  | nil => exact ⟨rfl, rfl, hstore'⟩
  | cons entry rest ih =>
    obtain ⟨module, counts⟩ := entry
    obtain ⟨m₁, hm₁, hclear', hprints⟩ := reportModules_prints tools hhtml hstore h ((module, counts) :: rest)
    obtain rfl : m₁ = m' := by simpa using hm₁.symm.trans hend
    cases hp : p.canceled with
    | true =>
      rw [reportModules, reportModules, if_pos hp, if_pos (hcanceled.trans hp)]
      exact ⟨rfl, rfl, hstore'⟩
    | false =>
      have hcancels : (after cfg tools q module counts).canceled = (after cfg tools p module counts).canceled := by
        rw [canceled_after, canceled_after, hcanceled, (hanswers _ _ module counts).2, (hanswers _ _ module counts).2]
      have hsame : answer cfg tools q module counts = answer cfg tools p module counts := by
        unfold answer
        rw [(hanswers _ _ module counts).1, (hanswers _ _ module counts).1]
      have hturn := reportModule_turn tools hhtml hstore h.faults module counts
      have hturn' := reportModule_turn tools hhtml hstore' hclear'.faults module counts
      rw [hsame, howners, hprints.readOnly] at hturn'
      rw [reportModules_cons cfg tools module counts rest hp] at hend ⊢
      rw [reportModules_cons cfg tools module counts rest (hcanceled.trans hp)]
      cases hanswer : answer cfg tools p module counts with
      | error e =>
        rw [hanswer] at hturn hturn'
        obtain ⟨hresult, hnext, howners₁⟩ := hturn
        obtain ⟨hresult', hnext', howners₂⟩ := hturn'
        obtain ⟨hresults, herror, hlast⟩ := ih hnext h hnext' (howners₂.trans howners₁.symm) hcancels hend
        exact ⟨congrArg₂ List.cons (hresult'.trans hresult.symm) hresults, herror, hlast⟩
      | ok cov =>
        rw [hanswer] at hturn hturn'
        obtain ⟨hresult, hnext, howners₁⟩ := hturn
        obtain ⟨hresult', hnext', howners₂⟩ := hturn'
        obtain ⟨m₂, hm₂, -, hlater⟩ := reportModules_prints tools hhtml hnext (h.printed module cov _) rest
        obtain rfl : m₂ = m₁ := by simpa using hm₂.symm.trans hend
        rw [howners₁] at hlater
        rw [printed_again h hclear' hlater] at hnext'
        obtain ⟨hresults, herror, hlast⟩ := ih hnext (h.printed module cov _) hnext' (howners₂.trans howners₁.symm)
          hcancels hend
        exact ⟨congrArg₂ List.cons (hresult'.trans hresult.symm) hresults, herror, hlast⟩

end Turns

end Report

end LineCoverage
