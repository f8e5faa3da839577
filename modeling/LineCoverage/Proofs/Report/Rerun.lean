import LineCoverage.Proofs.Report.Printing
import LineCoverage.Proofs.RunSelection
import LineCoverage.Proofs.Store.Walk
import LineCoverage.Proofs.Symbols
import LineCoverage.Proofs.Trace

/-!
# Reports do not feed back

What a report writes is no trace, so a report on the resulting store comes to the same results and leaves the store
as it is. This holds although tracefiles may be written into the directory of a run, and although a directory that
is made for them may look like one.
-/

namespace LineCoverage

/-! ## Names of trace files and tracefiles -/

namespace Trace

theorem getLast?_of_isFileName {name : Bytes} (h : isFileName name = true) :
    name.getLast? = some (ch 'n') ∨ name.getLast? = some (ch 'z') ∨ name.getLast? = some (ch 't') := by
  have hsuffix : ∀ tail, tail.isSuffixOf (name.drop (utf8 "tbcoverage-").length) = true → tail <:+ name := by
    intro tail htail
    exact (List.isSuffixOf_iff_suffix.1 htail).trans (List.drop_suffix _ _)
  simp only [isFileName, Bytes.endsWith, Bool.and_eq_true, List.any_cons, List.any_nil, Bool.or_false,
    Bool.or_eq_true] at h
  obtain ⟨-, h | h | h⟩ := h
  · exact .inl (Bytes.getLast?_of_suffix (hsuffix _ h) (by decide))
  · exact .inr (.inl (Bytes.getLast?_of_suffix (hsuffix _ h) (by decide)))
  · exact .inr (.inr (Bytes.getLast?_of_suffix (hsuffix _ h) (by decide)))

/-! ## Trace files -/

theorem readFile_of_contentAt {m m' : Memory} (h : m.faults = []) (h' : m'.faults = []) {path : Bytes}
    (hcontent : m'.contentAt (Memory.key path) = m.contentAt (Memory.key path)) :
    readFile (.memory m') path = readFile (.memory m) path := by
  unfold readFile
  rw [Symbols.read_eq h, Symbols.read_eq h', hcontent]

end Trace

namespace Report

theorem getLast?_infoName (module : Bytes) : (infoName module).getLast? = some (ch 'o') :=
  Bytes.getLast?_of_suffix (info_suffix_infoName module) (by decide)

theorem isElement_infoName (module : Bytes) : Path.IsElement (infoName module) :=
  Path.isElement_of_mem_elements (elements_infoName module ▸ List.mem_singleton_self _)

theorem base_infoPath (cfg : Config) (module : Bytes) : Path.base (infoPath cfg module) = infoName module := by
  rw [infoPath_eq, Path.base_stem_append _ (isElement_infoName module).nonempty (slash_not_mem_infoName module)]

theorem isFileName_infoName (module : Bytes) : Trace.isFileName (infoName module) = false := by
  by_contra htrace
  rw [Bool.not_eq_false] at htrace
  have hlast := getLast?_infoName module
  rcases Trace.getLast?_of_isFileName htrace with h | h | h
  all_goals
    rw [hlast] at h
    exact absurd h (by decide)

theorem isFilePath_infoPath (cfg : Config) (module : Bytes) : Trace.isFilePath (infoPath cfg module) = false := by
  rw [Trace.isFilePath, (isKey_infoPath cfg module).clean, base_infoPath]
  exact isFileName_infoName module

theorem normalElements_infoPath (cfg : Config) (module : Bytes) :
    Path.isAbsolute (infoPath cfg module) = Path.isAbsolute cfg.outputPath ∧
      Path.normalElements (infoPath cfg module) = Path.normalElements cfg.outputPath ++ [infoName module] := by
  have hclean := Path.clean_child (outputPath_ne_nil cfg) (elements_base module) (infoName_ne_dotDot module)
  rw [infoPath_eq, ← hclean, Path.isAbsolute_clean, Path.normalElements_clean,
    Path.isAbsolute_append (outputPath_ne_nil cfg),
    Path.normalElements_child (outputPath_ne_nil cfg) (elements_base module) (infoName_ne_dotDot module)]
  exact ⟨rfl, rfl⟩

theorem key_ne_infoPath {path : Bytes} (h : Trace.isFilePath path = true) (cfg : Config) (module : Bytes) :
    Memory.key path ≠ infoPath cfg module := by
  intro hkey
  have hne : Memory.key path ≠ Memory.root := hkey ▸ (isKey_infoPath cfg module).ne_root
  rw [Trace.isFilePath, ← Memory.key_of_ne_root hne, hkey, base_infoPath, isFileName_infoName] at h
  cases h

/-! ## The runs of a store -/

theorem isSome_of_addRuns {m : Memory} (hfaults : m.faults = []) {dirs : List Bytes} {cov cov' : ModuleCoverage}
    (h : addRuns (.memory m) false cov dirs = .ok cov') : ∀ d ∈ dirs, (m.nodes[Memory.key d]?).isSome = true := by
  intro d hd
  obtain ⟨blocks, hblocks⟩ := runBlocks_of_addRuns h d hd
  obtain ⟨files, hfiles, -⟩ := Extraction.runBlocks_eq_ok_iff.1 hblocks
  obtain ⟨found, hfound, -⟩ := Trace.list_eq_ok_iff.1 hfiles
  rw [← Std.ExtTreeMap.mem_iff_isSome_getElem?]
  exact Memory.mem_of_visit hfaults hfound

section Grown

variable {cfg : Config} {owners : Owners} {m m' : Memory} (h : Clear cfg m) (h' : Clear cfg m')
  (hprints : Prints cfg owners m m')
include h h' hprints

theorem grows_of_prints : Memory.Grows Trace.isFilePath m m' := by
  refine ⟨h.tree, h'.tree.keys, h.faults, h'.faults, fun k node hnode => ?_, fun k node' hnode' hlisted => ?_⟩
  · rcases hprints.node k with heq | ⟨hnone, -, -⟩ | ⟨module, text, rfl, -, hfile⟩
    · exact ⟨node, heq.trans hnode, rfl, id⟩
    · rw [hnone] at hnode
      cases hnode
    · exact ⟨_, hfile, (h.files module node hnode).symm, fun _ => rfl⟩
  · rcases hprints.node k with heq | ⟨hnone, -, hdir⟩ | ⟨module, text, rfl, -, hfile⟩
    · exact .inl ⟨node', heq ▸ hnode', hlisted⟩
    · rw [hdir] at hnode'
      cases hnode'
      exact .inr (.inl ⟨hnone, rfl⟩)
    · rw [hfile] at hnode'
      cases hnode'
      exact .inr (.inr ⟨rfl, isFilePath_infoPath cfg module⟩)

theorem join_base_of_prints {dir : Bytes} (hdir : Memory.key dir = Memory.root)
    (hwithin : Path.Within cfg.outputPath dir) {k : Bytes} (hk : k ∈ m'.entries Memory.root)
    (hnew : k ∉ m.entries Memory.root) : Path.join dir (Path.base k) = k := by
  obtain ⟨habs, rest, hdots, helements⟩ := hwithin
  have hkey := (grows_of_prints h h' hprints).isKey hk
  obtain ⟨node, hnode, hlisted, hroot, hparent⟩ := Memory.mem_entries.1 hk
  rcases hprints.node k with heq | ⟨-, hway, -⟩ | ⟨module, text, rfl, -, -⟩
  · exact absurd (Memory.mem_entries.2 ⟨node, heq ▸ hnode, hlisted, hroot, hparent⟩) hnew
  · have hout : Memory.key cfg.outputPath ≠ Memory.root := by
      intro hout
      rw [way, hout] at hway
      simp [Memory.parents, hroot] at hway
    obtain ⟨-, habs', tail, htail⟩ := Memory.cases_of_mem_parents (Memory.key_key _) hway hroot
    rw [Memory.key_of_ne_root hout, Path.isAbsolute_clean] at habs'
    rw [Memory.key_of_ne_root hout, Path.normalElements_clean, helements] at htail
    exact hkey.join_base_root hparent hdir (habs'.trans habs) hdots htail
  · obtain ⟨habs', hinfo⟩ := normalElements_infoPath cfg module
    have hdots' : Path.dotDot ∉ rest ++ [infoName module] := by
      simp [hdots, (infoName_ne_dotDot module).symm]
    refine @Memory.IsKey.join_base_root _ _ hkey hparent hdir (habs'.trans habs) [] _ hdots' ?_
    rw [hinfo, helements, List.append_nil, List.append_assoc]

theorem runBlocks_of_prints {dir : Bytes}
    (hroot : Memory.key dir = Memory.root → Path.Within cfg.outputPath dir ∧ Memory.twoUp ∉ m.nodes) {blocks : BlockMap}
    (hblocks : Extraction.runBlocks (.memory m) dir = .ok blocks) :
    Extraction.runBlocks (.memory m') dir = .ok blocks := by
  rw [Extraction.runBlocks_eq_ok_iff] at hblocks ⊢
  obtain ⟨_, hlist, haggregate⟩ := hblocks
  obtain ⟨files, hfiles, rfl⟩ := Trace.list_eq_ok_iff.1 hlist
  have hg := grows_of_prints h h' hprints
  obtain ⟨files', hfiles', hperm⟩ := hg.filesBelow
    (fun hdir => ⟨(hroot hdir).2, fun k => join_base_of_prints h h' hprints hdir (hroot hdir).1⟩) hfiles
  refine ⟨_, Trace.list_of_filesBelow hfiles', ?_⟩
  rw [Bytes.mergeSort_eq_of_perm hperm]
  refine Trace.aggregateFrom_congr (fun path hpath blocks hread => ?_) haggregate
  rw [List.mem_mergeSort, List.mem_filter] at hpath
  rw [← hread]
  apply Trace.readFile_of_contentAt h.faults h'.faults
  unfold Memory.contentAt
  rcases hprints.node (Memory.key path) with heq | ⟨hnone, -, -⟩ | ⟨module, -, hkey, -, -⟩
  · rw [heq]
  · -- The file was read, so it was there.
    unfold Trace.readFile at hread
    rw [Symbols.read_eq h.faults, Memory.contentAt, hnone] at hread
    cases hread
  · exact absurd hkey (key_ne_infoPath hpath.2 cfg module)

theorem extract_of_fresh {dir : Bytes} {i : Int64} (hnone : m.nodes[Memory.key (Path.join dir (runDirName i))]? = none)
    (hsome : (m'.nodes[Memory.key (Path.join dir (runDirName i))]?).isSome) (cov : ModuleCoverage) :
    Extraction.extract (.memory m') false (Path.join dir (runDirName i)) cov = (cov, none) := by
  obtain ⟨helement, hdots⟩ := RunSelection.isElement_runDirName i
  have hne := @Memory.key_join_ne_root dir _ helement hdots
  have hkey : Memory.key (Path.join dir (runDirName i)) = Path.join dir (runDirName i) := by
    rw [Memory.key_of_ne_root hne, Path.clean_join dir helement.nonempty]
  rw [hkey] at hne hnone hsome
  have hdir : m'.nodes[Path.join dir (runDirName i)]? = some .directory := by
    rcases hprints.node (Path.join dir (runDirName i)) with heq | ⟨-, -, hdir⟩ | ⟨module, -, hinfo, -, -⟩
    · rw [heq, hnone] at hsome
      cases hsome
    · exact hdir
    · have hlast := congrArg Path.normalElements hinfo
      rw [Path.normalElements_join dir helement hdots, (normalElements_infoPath cfg module).2] at hlast
      have hname := (List.append_inj' hlast rfl).2
      rw [List.cons.injEq] at hname
      exact absurd (hname.1 ▸ getLast?_infoName module) (RunSelection.getLast?_runDirName i)
  obtain ⟨files, hfiles, hfilter⟩ := (grows_of_prints h h' hprints).visit_unnoticed ⟨hkey, hne⟩ hdir
    (.inl ⟨hnone, rfl⟩) (m'.longestPath + 2) (by omega)
  have hblocks : Extraction.runBlocks (.memory m') (Path.join dir (runDirName i)) = .ok ∅ := by
    rw [Extraction.runBlocks_eq_ok_iff]
    refine ⟨_, Trace.list_of_filesBelow hfiles, ?_⟩
    rw [hfilter, List.mergeSort_nil]
    rfl
  have hnothing : (∅ : BlockMap).toList = [] := rfl
  unfold Extraction.extract Extraction.extractIn
  rw [hblocks]
  simp [Extraction.addRun, Extraction.VisitOrder.byName, hnothing]

omit h h' in
/-- Adding up the runs that are there gives the same again, if those that were there are read as before and the
others hold nothing. -/
theorem addRuns_of_prints {paths : List Bytes}
    (hold : ∀ d ∈ paths, (m.nodes[Memory.key d]?).isSome = true → ∀ blocks,
      Extraction.runBlocks (.memory m) d = .ok blocks → Extraction.runBlocks (.memory m') d = .ok blocks)
    (hnew : ∀ d ∈ paths, m.nodes[Memory.key d]? = none → (m'.nodes[Memory.key d]?).isSome = true → ∀ cov,
      Extraction.extract (.memory m') false d cov = (cov, none))
    {cov cov' : ModuleCoverage}
    (hruns : addRuns (.memory m) false cov (paths.filter fun d => (m.nodes[Memory.key d]?).isSome) = .ok cov') :
    addRuns (.memory m') false cov (paths.filter fun d => (m'.nodes[Memory.key d]?).isSome) = .ok cov' := by
  induction paths generalizing cov with
  | nil => exact hruns
  | cons d rest ih =>
    have ihrest := fun {cov} => @ih (fun d' hd' => hold d' (List.mem_cons_of_mem _ hd'))
      (fun d' hd' => hnew d' (List.mem_cons_of_mem _ hd')) cov
    rw [List.filter_cons] at hruns ⊢
    cases hd : m.nodes[Memory.key d]? with
    | none =>
      simp only [hd, Option.isSome_none, Bool.false_eq_true, if_false] at hruns
      cases hd' : (m'.nodes[Memory.key d]?).isSome with
      | false => exact ihrest hruns
      | true =>
        rw [if_pos rfl, addRuns, hnew d List.mem_cons_self hd hd']
        exact ihrest hruns
    | some node =>
      have hthere : (m'.nodes[Memory.key d]?).isSome = true := by
        rw [← Std.ExtTreeMap.mem_iff_isSome_getElem?]
        exact hprints.mem (Maps.mem_of_getElem? hd)
      simp only [hd, Option.isSome_some, if_true] at hruns
      obtain ⟨blocks, hblocks, hrest⟩ := addRuns_cons_ok hruns
      rw [if_pos hthere, addRuns]
      unfold Extraction.extract Extraction.extractIn
      rw [hold d List.mem_cons_self (by simp [hd]) blocks hblocks]
      exact ihrest hrest

/-- The condition on runs that are kept in the root. The root shows the first elements of paths with and without a
leading slash, so a walk fails where it comes upon a name of the other kind. -/
def RootsWithin (cfg : Config) (m : Memory) (dirs : List Bytes) : Prop :=
  ∀ d ∈ dirs, Memory.key d = Memory.root → Path.Within cfg.outputPath d ∧ Memory.twoUp ∉ m.nodes

theorem aggregate_of_prints {realPath : Bytes → Except Bytes Bytes}
    (hroots : ∀ dirs, RunSelection.select (.memory m) realPath cfg.runs = .ok dirs → RootsWithin cfg m dirs)
    {cov : ModuleCoverage} (haggregate : aggregate (.memory m) realPath false cfg = .ok cov) :
    aggregate (.memory m') realPath false cfg = .ok cov := by
  cases hselect : RunSelection.select (.memory m) realPath cfg.runs with
  | error e =>
    rw [aggregate_of_select_error hselect] at haggregate
    cases haggregate
  | ok dirs =>
    have hruns : addRuns (.memory m) false ∅ dirs = .ok cov := by
      rwa [aggregate_of_select_ok hselect, mapError_eq_ok_iff] at haggregate
    have hthere := isSome_of_addRuns h.faults hruns
    have hblocks : ∀ d ∈ dirs, ∀ blocks, Extraction.runBlocks (.memory m) d = .ok blocks →
        Extraction.runBlocks (.memory m') d = .ok blocks := fun d hd blocks =>
      runBlocks_of_prints h h' hprints (hroots dirs hselect d hd)
    rcases RunSelection.select_cases realPath cfg.runs with ⟨r, hr⟩ | ⟨dir, index, count, hexisting⟩
    · have hall : (dirs.filter fun d => (m.nodes[Memory.key d]?).isSome) = dirs := List.filter_eq_self.2 hthere
      have hall' : (dirs.filter fun d => (m'.nodes[Memory.key d]?).isSome) = dirs := by
        refine List.filter_eq_self.2 fun d hd => ?_
        rw [← Std.ExtTreeMap.mem_iff_isSome_getElem?]
        exact hprints.mem (Std.ExtTreeMap.mem_iff_isSome_getElem?.2 (hthere d hd))
      have hagain := @addRuns_of_prints _ _ _ _ hprints dirs (fun d hd _ => hblocks d hd)
        (fun d hd hnone => absurd (hthere d hd) (by simp [hnone])) ∅ cov (by rwa [hall])
      rw [aggregate_of_select_ok ((hr _).trans ((hr _).symm.trans hselect)), ← hall', hagain]
      rfl
    · have hdirs : ((RunSelection.candidates dir index count).filter fun d => (m.nodes[Memory.key d]?).isSome) = dirs := by
        rw [hexisting, mapError_eq_ok_iff, RunSelection.existing_memory h.faults] at hselect
        exact Except.ok.inj hselect
      have hselect' : RunSelection.select (.memory m') realPath cfg.runs =
          .ok ((RunSelection.candidates dir index count).filter fun d => (m'.nodes[Memory.key d]?).isSome) := by
        rw [hexisting, RunSelection.existing_memory h'.faults]
        rfl
      have hagain := @addRuns_of_prints _ _ _ _ hprints (RunSelection.candidates dir index count)
        (fun d hd hsome => hblocks d (hdirs ▸ List.mem_filter.2 ⟨hd, hsome⟩))
        (fun d hd hnone hsome => by
          obtain ⟨i, rfl⟩ := RunSelection.mem_candidates hd
          exact extract_of_fresh h h' hprints hnone hsome) ∅ cov (by rwa [hdirs])
      rw [aggregate_of_select_ok hselect', hagain]
      rfl

end Grown

/-! ## Twice the same report -/

/-- A report in a store without faults whose resolver answers by the module and its counts alone, with no directory
where a tracefile goes and no file on the way to its output directory: if it comes to an end, a second one comes to
the same results and leaves the store as it is. -/
theorem reports_do_not_feed_back {σ : Type} (cfg : Config) (tools : Tools σ) (realPath : Bytes → Except Bytes Bytes)
    (metrics metrics' : Metrics) (world world' : σ) (m : Memory)
    (lines : Bytes → AddressCount → Except ResolveError FileLines) (cancels : Bytes → AddressCount → Bool)
    (hbuilt : m.Built) (hfaults : m.faults = []) (hhtml : cfg.html = false)
    (hinfo : ∀ (k : Bytes) (node : Node), m.nodes[k]? = some node → node.isDir = true →
      ¬ utf8 ".info" <:+ Path.base k)
    (hway : ∀ k ∈ way cfg, ∀ node : Node, m.nodes[k]? = some node → node.isDir = true)
    (hanswers : Answers cfg tools lines cancels)
    (hroots : ∀ dirs, RunSelection.select (.memory m) realPath cfg.runs = .ok dirs → RootsWithin cfg m dirs)
    (hrun : (run cfg tools realPath false metrics (.memory m) world).error = none) :
    let first := run cfg tools realPath false metrics (.memory m) world
    let second := run cfg tools realPath false metrics' first.store world'
    second.error = none ∧ second.results = first.results ∧ second.store = first.store := by
  have hclear : Clear cfg m := by
    refine ⟨hfaults, hbuilt.isTree, hway, fun module node hnode => ?_⟩
    cases hdir : node.isDir with
    | false => rfl
    | true =>
      have hsuffix := hinfo _ node hnode hdir
      rw [base_infoPath] at hsuffix
      exact absurd (info_suffix_infoName module) hsuffix
  cases haggregate : aggregate (.memory m) realPath false cfg with
  | error e =>
    rw [(run_of_error cfg tools realPath metrics _ world haggregate).2.1] at hrun
    cases hrun
  | ok cov =>
    obtain ⟨hresults, herror, hstore⟩ := run_of_ok cfg tools realPath metrics _ world haggregate
    obtain ⟨m', hm', hclear', hprints⟩ := reportModules_prints tools
      (p := startOf cfg realPath (.memory m) world) hhtml rfl hclear cov.toList
    have haggregate' := aggregate_of_prints hclear hclear' hprints hroots haggregate
    obtain ⟨hresults', herror', hstore'⟩ := run_of_ok cfg tools realPath metrics' (.memory m') world' haggregate'
    obtain ⟨hsame, hsameError, hlast⟩ := reportModules_again hanswers hhtml
      (p := startOf cfg realPath (.memory m) world) (q := startOf cfg realPath (.memory m') world') rfl hclear rfl rfl
      rfl hm'
    simp only
    rw [hstore, hm', hresults', herror', hstore', hresults, hsame, hsameError, hlast, ← herror]
    exact ⟨hrun, rfl, rfl⟩

section Example

def oneLine : FileLines := (∅ : FileLines).insert (utf8 "/a.c") ((∅ : LineCount).insert 1 1)

/-- A resolver that has one line for every module, and a renderer that does nothing. -/
def oneLineTools : Tools Unit where
  resolve _ _ _ _ _ := ⟨.ok oneLine, false, [], ()⟩
  render _ s _ _ _ := ⟨none, [], s, ()⟩

theorem answers_oneLineTools (cfg : Config) : Answers cfg oneLineTools (fun _ _ => .ok oneLine) fun _ _ => false :=
  fun _ _ _ _ => ⟨rfl, rfl⟩

def oneBlock : Bytes := utf8 "\x7b\"m\": [[16, 17, 1]]\x7d"

def oneAddress : ModuleCoverage := (∅ : ModuleCoverage).insert (utf8 "m") ((∅ : AddressCount).insert 16 1)

/-- A report on the run in the working directory, which is the root. -/
def rootConfig (outputDir : Bytes) : Config := ⟨⟨[], 0, [utf8 "."]⟩, false, outputDir, false, [], 0, [], []⟩

theorem run_oneAddress {m : Memory} {outputDir : Bytes} (hfaults : m.faults = []) (hwritable : m.readOnly = false)
    (h : aggregate (.memory m) .ok false (rootConfig outputDir) = .ok oneAddress) :
    let first := run (rootConfig outputDir) oneLineTools .ok false .empty (.memory m) ()
    first.error = none ∧
      first.store = .memory (print (rootConfig outputDir) m (utf8 "m") (Tracefile.textOf oneLine)) := by
  obtain ⟨-, herror, hstore⟩ := run_of_ok (rootConfig outputDir) oneLineTools .ok .empty (.memory m) () h
  have hturn := @reportModule_turn Unit (rootConfig outputDir) m oneLineTools
    (startOf (rootConfig outputDir) .ok (.memory m) ()) rfl rfl hfaults (utf8 "m") ((∅ : AddressCount).insert 16 1)
  have hlist : oneAddress.toList = [(utf8 "m", (∅ : AddressCount).insert 16 1)] := rfl
  rw [hlist, reportModules_cons _ _ _ _ _ rfl] at herror hstore
  refine ⟨herror, hstore.trans (hturn.2.1.trans ?_)⟩
  rw [hwritable]
  rfl

/-- No directory is named like a tracefile, and no file stands on the way. -/
def isClear (m : Memory) (way : List Bytes) : Bool :=
  m.nodes.toList.all fun (k, node) =>
    !(node.isDir && (utf8 ".info").isSuffixOf (Path.base k)) && (!way.contains k || node.isDir)

theorem of_isClear {m : Memory} {way : List Bytes} (h : isClear m way = true) {k : Bytes} {node : Node}
    (hnode : m.nodes[k]? = some node) :
    (node.isDir = true → ¬ utf8 ".info" <:+ Path.base k) ∧ (k ∈ way → node.isDir = true) := by
  have hk := List.all_eq_true.1 h (k, node) (Std.ExtTreeMap.mem_toList_iff_getElem?_eq_some.2 hnode)
  simp only [Bool.and_eq_true, Bool.not_eq_true', Bool.and_eq_false_iff, Bool.or_eq_true,
    List.contains_eq_mem, decide_eq_false_iff_not] at hk
  refine ⟨fun hdir hsuffix => ?_, fun hway => hk.2.resolve_left (not_not_intro hway)⟩
  rw [hdir, List.isSuffixOf_iff_suffix.2 hsuffix] at hk
  simp at hk

def runStore : Memory := Memory.empty.write (utf8 "tbcoverage-0.json") oneBlock

theorem reports_do_not_feed_back_runStore :
    let first := run (rootConfig (utf8 ".")) oneLineTools .ok false .empty (.memory runStore) ()
    let second := run (rootConfig (utf8 ".")) oneLineTools .ok false .empty first.store ()
    second.error = none ∧ second.results = first.results ∧ second.store = first.store := by
  have hclear : isClear runStore (way (rootConfig (utf8 "."))) = true := by decide +kernel
  have hfaults : runStore.faults = [] := by simp [runStore, Memory.empty]
  have hselect : RunSelection.select (.memory runStore) .ok (rootConfig (utf8 ".")).runs = .ok [utf8 "."] := rfl
  have htwoUp : Memory.twoUp ∉ runStore.nodes := by decide +kernel
  refine reports_do_not_feed_back (rootConfig (utf8 ".")) oneLineTools .ok .empty .empty () () runStore _ _
    (.write .empty _ _) hfaults rfl (fun k node hnode => (of_isClear hclear hnode).1)
    (fun k hk node hnode => (of_isClear hclear hnode).2 hk) (answers_oneLineTools _) (fun dirs hdirs d hd hroot => ?_)
    (run_oneAddress hfaults (by decide +kernel) (by cbv)).1
  obtain rfl : [utf8 "."] = dirs := Except.ok.inj (hselect.symm.trans hdirs)
  obtain rfl := List.mem_singleton.1 hd
  exact ⟨⟨rfl, [], by simp, by decide⟩, htwoUp⟩

/-- A report that meets the conditions, but for the one on the root, and makes the next one fail. -/
def FeedsBack (cfg : Config) (m : Memory) (why : FileError) : Prop :=
  m.Built ∧ m.faults = [] ∧ cfg.html = false ∧
  (∀ (k : Bytes) (node : Node), m.nodes[k]? = some node → node.isDir = true → ¬ utf8 ".info" <:+ Path.base k) ∧
  (∀ k ∈ way cfg, ∀ node : Node, m.nodes[k]? = some node → node.isDir = true) ∧
  (∃ lines cancels, Answers cfg oneLineTools lines cancels) ∧
  let first := run cfg oneLineTools .ok false .empty (.memory m) ()
  let second := run cfg oneLineTools .ok false .empty first.store ()
  first.error = none ∧ second.error = some (.extract (.listing (utf8 ".") why))

theorem feedsBack_of_aggregate {m : Memory} {outputDir : Bytes} {why : FileError} (hbuilt : m.Built)
    (hfaults : m.faults = []) (hwritable : m.readOnly = false) (hclear : isClear m (way (rootConfig outputDir)) = true)
    (hfirst : aggregate (.memory m) .ok false (rootConfig outputDir) = .ok oneAddress)
    (hsecond : aggregate (.memory (print (rootConfig outputDir) m (utf8 "m") (Tracefile.textOf oneLine))) .ok false
      (rootConfig outputDir) = .error (.extract (.listing (utf8 ".") why))) :
    FeedsBack (rootConfig outputDir) m why := by
  obtain ⟨herror, hstore⟩ := run_oneAddress hfaults hwritable hfirst
  refine ⟨hbuilt, hfaults, rfl, fun k node hnode => (of_isClear hclear hnode).1,
    fun k hk node hnode => (of_isClear hclear hnode).2 hk, ⟨_, _, answers_oneLineTools _⟩, herror, ?_⟩
  rw [hstore]
  exact (run_of_error _ _ _ _ _ _ hsecond).2.1

def mixedStore : Memory :=
  (Memory.empty.write (utf8 "/tbcoverage-0.json") oneBlock).write (utf8 "tbcoverage-0.json") oneBlock

def upperStore : Memory := Memory.empty.write (utf8 "../../tbcoverage-0.json") oneBlock

theorem feedsBack_mixedStore : FeedsBack (rootConfig (utf8 "/o")) mixedStore (.absent (utf8 "o")) :=
  feedsBack_of_aggregate (.write (.write .empty _ _) _ _) (by simp [mixedStore, Memory.empty])
    (by decide +kernel) (by decide +kernel) (by cbv) (by cbv)

theorem aggregate_upperStore : aggregate (.memory upperStore) .ok false (rootConfig (utf8 ".")) = .ok oneAddress := by
  cbv

theorem feedsBack_upperStore : FeedsBack (rootConfig (utf8 ".")) upperStore (.absent (utf8 "../m.info")) :=
  feedsBack_of_aggregate (.write .empty _ _) (by simp [upperStore, Memory.empty])
    (by decide +kernel) (by decide +kernel) aggregate_upperStore (by cbv)

/-- Without the condition on the root a report can feed back. What it writes under a path with a leading slash turns
up in the root, where the next one looks for it without the slash; and where the root shows a name that leads up, the
next one looks for it there too. -/
theorem reports_feed_back :
    FeedsBack (rootConfig (utf8 "/o")) mixedStore (.absent (utf8 "o")) ∧
      FeedsBack (rootConfig (utf8 ".")) upperStore (.absent (utf8 "../m.info")) :=
  ⟨feedsBack_mixedStore, feedsBack_upperStore⟩

end Example

end Report

end LineCoverage
