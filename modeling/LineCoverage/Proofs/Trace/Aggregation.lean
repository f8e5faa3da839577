import LineCoverage.Proofs.Trace
import LineCoverage.Proofs.Trace.Document

/-!
# Putting trace files together

The blocks of a list of files are told by its parts: those of the first part, then those of the second. The order in
which the modules of a file are visited shows in nothing but the error of a file that has several misfits.
-/

namespace LineCoverage

namespace Trace

/-! ## The modules of a file, in any order -/

/-- Reads the blocks of one trace file, visiting its modules in the given order. -/
def readFileIn (order : ModuleOrder) (s : Store) (path : Bytes) : Except FileReadError BlockMap := do
  let text ← (Content.read s path).mapError .content
  (parseIn order text).mapError (.document path)

/-- Adds the blocks of the entries behind those of the same module, entry by entry. -/
def appendEntries (all : BlockMap) (entries : List (Bytes × List Block)) : BlockMap :=
  entries.foldl (fun all e => all.alter e.1 fun old => some (old.getD [] ++ e.2)) all

theorem blocksOf_eq_ok_iff {module : Bytes} {entries : List (List UInt64)} {blocks : List Block} :
    blocksOf module entries = .ok blocks ↔ entries = blocks.map entryOf := by
  constructor
  · intro h
    by_cases hmisfit : ∃ fields ∈ entries, fields.length ≠ 3
    · obtain ⟨index, fields, -, herror⟩ := blocksFrom_misfit module hmisfit 0
      cases h.symm.trans herror
    · push Not at hmisfit
      obtain ⟨blocks', rfl⟩ := exists_blocks hmisfit
      cases h.symm.trans (blocksFrom_entries module blocks' 0)
      rfl
  · rintro rfl
    exact blocksFrom_entries module blocks 0

/-- A document is read as the blocks that its entries are. That leaves the modules no order to be visited in. -/
theorem parseIn_eq_ok_iff (order : ModuleOrder) {text : Bytes} {blocks : BlockMap} :
    parseIn order text = .ok blocks ↔
      ∃ raw : RawModules, readRaw text = some raw ∧
        ∀ module : Bytes, raw[module]? = blocks[module]?.map (List.map entryOf) := by
  unfold parseIn
  cases readRaw text with
  | none => simp
  | some raw =>
    have hvisited : ∀ module entries, (module, entries) ∈ order.entries raw ↔ raw[module]? = some entries := by
      intro module entries
      rw [(order.perm raw).mem_iff, Std.ExtTreeMap.mem_toList_iff_getElem?_eq_some]
    change (order.entries raw).foldlM addModule ∅ = _ ↔ _
    simp only [Option.some.injEq, exists_eq_left']
    by_cases hmisfit : ∃ module ∈ order.entries raw, ∃ fields ∈ module.2, fields.length ≠ 3
    · -- An entry without three fields is the entry of no block, so no map can have its module.
      obtain ⟨_, _, _, _, -, -, hfold⟩ := foldlM_addModule_misfit hmisfit ∅
      rw [hfold]
      obtain ⟨module, hmodule, fields, hfields, hlength⟩ := hmisfit
      refine iff_of_false (by simp) fun h => hlength ?_
      have hraw := h module.1
      rw [(hvisited module.1 module.2).1 hmodule, eq_comm, Option.map_eq_some_iff] at hraw
      obtain ⟨bs, -, hbs⟩ := hraw
      rw [← hbs] at hfields
      obtain ⟨b, -, rfl⟩ := List.mem_map.1 hfields
      rfl
    · push Not at hmisfit
      choose! read hread using fun module hmodule => exists_blocks (hmisfit module hmodule)
      have hfold := foldlM_addModule_ok read fun module hmodule => blocksOf_eq_ok_iff.2 (hread module hmodule).symm
      have hnames : (((order.entries raw).map fun module => (module.1, read module)).map Prod.fst).Nodup := by
        simpa [Function.comp_def] using order.nodup_names raw
      have hall : ∀ module : Bytes, raw[module]? =
          (mapOf ((order.entries raw).map fun module => (module.1, read module)))[module]?.map (List.map entryOf) := by
        intro module
        ext entries
        rw [← hvisited, Option.map_eq_some_iff]
        simp only [getElem?_mapOf hnames, List.mem_map, Prod.mk.injEq]
        constructor
        · intro hmodule
          exact ⟨_, ⟨_, hmodule, rfl, rfl⟩, hread _ hmodule⟩
        · rintro ⟨_, ⟨m, hm, rfl, rfl⟩, rfl⟩
          rwa [hread m hm]
      rw [hfold, Except.ok.injEq]
      constructor
      · rintro rfl
        exact hall
      · intro h
        refine Std.ExtTreeMap.ext_getElem? fun module => ?_
        exact Option.map_injective entryOf_injective.list_map ((hall module).symm.trans (h module))

theorem readFileIn_eq_ok_iff (order : ModuleOrder) {s : Store} {path : Bytes} {blocks : BlockMap} :
    readFileIn order s path = .ok blocks ↔ readFile s path = .ok blocks := by
  unfold readFileIn readFile parse
  cases Content.read s path with
  | error e => simp [Except.mapError, bind, Except.bind]
  | ok text =>
    have hmap : ∀ order : ModuleOrder, (parseIn order text).mapError (FileReadError.document path) = .ok blocks ↔
        parseIn order text = .ok blocks := by
      intro order
      cases parseIn order text <;> simp [Except.mapError]
    change (parseIn order text).mapError (FileReadError.document path) = _ ↔
      (parseIn .byName text).mapError (FileReadError.document path) = _
    rw [hmap, hmap, parseIn_eq_ok_iff, parseIn_eq_ok_iff]

theorem getElem?_appendEntries {more : BlockMap} {entries : List (Bytes × List Block)}
    (h : entries.Perm more.toList) (all : BlockMap) (module : Bytes) :
    (appendEntries all entries)[module]? =
      match more[module]? with
      | none => all[module]?
      | some blocks => some (all[module]?.getD [] ++ blocks) := by
  unfold appendEntries
  rw [Maps.getElem?_foldl_alter_of_perm h fun blocks old => some (old.getD [] ++ blocks)]
  cases more[module]? <;> rfl

theorem append_eq_appendEntries (all more : BlockMap) : append all more = appendEntries all more.toList := by
  rw [append, appendEntries, Std.ExtTreeMap.foldl_eq_foldl_toList]

theorem appendEntries_eq_append {more : BlockMap} {entries : List (Bytes × List Block)}
    (h : entries.Perm more.toList) (all : BlockMap) : appendEntries all entries = append all more := by
  refine Std.ExtTreeMap.ext_getElem? fun module => ?_
  rw [append_eq_appendEntries, getElem?_appendEntries h, getElem?_appendEntries (.refl _)]

theorem mem_append {all more : BlockMap} {module : Bytes} :
    module ∈ append all more ↔ module ∈ all ∨ module ∈ more := by
  simp only [Std.ExtTreeMap.mem_iff_isSome_getElem?, append_eq_appendEntries, getElem?_appendEntries (.refl _)]
  cases more[module]? <;> simp

/-! ## One file after the other -/

/-- What comes of adding the blocks of the files, when the modules of each file are visited in some order as they are
read, and in some order again as their blocks are added. -/
inductive Gathers (s : Store) : BlockMap → List Bytes → Except FileReadError BlockMap → Prop where
  | done (all : BlockMap) : Gathers s all [] (.ok all)
  | failed {all : BlockMap} {path : Bytes} {rest : List Bytes} {e : FileReadError} (order : ModuleOrder)
      (hread : readFileIn order s path = .error e) : Gathers s all (path :: rest) (.error e)
  | added {all blocks : BlockMap} {path : Bytes} {rest : List Bytes} {entries : List (Bytes × List Block)}
      {result : Except FileReadError BlockMap} (order : ModuleOrder) (hread : readFileIn order s path = .ok blocks)
      (hvisit : entries.Perm blocks.toList) (hrest : Gathers s (appendEntries all entries) rest result) :
      Gathers s all (path :: rest) result

/-- The first of the files that cannot be read. -/
def FirstUnread (s : Store) (files : List Bytes) (path : Bytes) : Prop :=
  ∃ before after, files = before ++ path :: after ∧ (∀ p ∈ before, ∃ blocks, readFile s p = .ok blocks) ∧
    ∃ e, readFile s path = .error e

section Files

variable {s : Store} {all result : BlockMap} {path p : Bytes} {files rest : List Bytes} {e : FileReadError}

theorem not_firstUnread_nil : ¬FirstUnread s [] p := by
  rintro ⟨before, after, h, -⟩
  simp at h

theorem firstUnread_cons_of_error (h : readFile s path = .error e) : FirstUnread s (path :: rest) p ↔ p = path := by
  constructor
  · rintro ⟨before, after, hfiles, hbefore, -⟩
    cases before with
    | nil => exact (List.cons.inj hfiles).1.symm
    | cons first before =>
      obtain ⟨rfl, -⟩ := List.cons.inj hfiles
      obtain ⟨blocks, hread⟩ := hbefore _ List.mem_cons_self
      cases h.symm.trans hread
  · rintro rfl
    exact ⟨[], rest, rfl, by simp, e, h⟩

theorem firstUnread_cons_of_ok {blocks : BlockMap} (h : readFile s path = .ok blocks) :
    FirstUnread s (path :: rest) p ↔ FirstUnread s rest p := by
  constructor
  · rintro ⟨before, after, hfiles, hbefore, e, herror⟩
    cases before with
    | nil =>
      obtain ⟨rfl, -⟩ := List.cons.inj hfiles
      cases h.symm.trans herror
    | cons first before =>
      obtain ⟨rfl, rfl⟩ := List.cons.inj hfiles
      exact ⟨before, after, rfl, fun p hp => hbefore p (List.mem_cons_of_mem _ hp), e, herror⟩
  · rintro ⟨before, after, rfl, hbefore, herror⟩
    refine ⟨path :: before, after, rfl, fun p hp => ?_, herror⟩
    rcases List.mem_cons.1 hp with rfl | hp
    · exact ⟨blocks, h⟩
    · exact hbefore p hp

theorem gathers_cons_of_error {r : Except FileReadError BlockMap} (h : readFile s path = .error e) :
    Gathers s all (path :: rest) r ↔ ∃ order e, readFileIn order s path = .error e ∧ r = .error e := by
  constructor
  · intro hgathers
    cases hgathers with
    | failed order hread => exact ⟨order, _, hread, rfl⟩
    | added order hread _ _ => cases h.symm.trans ((readFileIn_eq_ok_iff order).1 hread)
  · rintro ⟨order, e, hread, rfl⟩
    exact .failed order hread

theorem gathers_cons_of_ok {blocks : BlockMap} {r : Except FileReadError BlockMap} (h : readFile s path = .ok blocks) :
    Gathers s all (path :: rest) r ↔ Gathers s (append all blocks) rest r := by
  constructor
  · intro hgathers
    cases hgathers with
    | failed order hread => cases hread.symm.trans ((readFileIn_eq_ok_iff order).2 h)
    | added order hread hvisit hrest =>
      cases h.symm.trans ((readFileIn_eq_ok_iff order).1 hread)
      rwa [appendEntries_eq_append hvisit] at hrest
  · intro hrest
    rw [append_eq_appendEntries] at hrest
    exact .added .byName h (.refl _) hrest

theorem gathers_ok_iff : Gathers s all files (.ok result) ↔ aggregateFrom s all files = .ok result := by
  induction files generalizing all with
  | nil =>
    rw [aggregateFrom]
    constructor
    · rintro ⟨⟩
      rfl
    · rintro ⟨⟩
      exact .done _
  | cons path rest ih =>
    cases h : readFile s path with
    | error e => simp [gathers_cons_of_error h, aggregateFrom_cons_of_error h]
    | ok blocks => rw [gathers_cons_of_ok h, aggregateFrom_cons_of_ok h, ih]

theorem gathers_error_iff : Gathers s all files (.error e) ↔
    ∃ path, FirstUnread s files path ∧ ∃ order, readFileIn order s path = .error e := by
  induction files generalizing all with
  | nil =>
    refine iff_of_false (fun h => nomatch h) ?_
    rintro ⟨path, h, -⟩
    exact not_firstUnread_nil h
  | cons path rest ih =>
    cases h : readFile s path with
    | error e => simp [gathers_cons_of_error h, firstUnread_cons_of_error h]
    | ok blocks => simp only [gathers_cons_of_ok h, firstUnread_cons_of_ok h, ih]

theorem aggregateFrom_eq_error_iff : aggregateFrom s all files = .error e ↔
    ∃ path, FirstUnread s files path ∧ readFile s path = .error e := by
  induction files generalizing all with
  | nil =>
    refine iff_of_false (by simp [aggregateFrom]) ?_
    rintro ⟨path, h, -⟩
    exact not_firstUnread_nil h
  | cons path rest ih =>
    cases h : readFile s path with
    | error e => simp [aggregateFrom_cons_of_error h, firstUnread_cons_of_error h, h]
    | ok blocks => simp only [aggregateFrom_cons_of_ok h, firstUnread_cons_of_ok h, ih]

/-- The file can be read and has the module, perhaps without blocks. -/
def HasModule (s : Store) (module path : Bytes) : Prop := ∃ blocks, readFile s path = .ok blocks ∧ module ∈ blocks

theorem mem_aggregateFrom (h : aggregateFrom s all files = .ok result) (module : Bytes) :
    module ∈ result ↔ module ∈ all ∨ ∃ path ∈ files, HasModule s module path := by
  induction files generalizing all with
  | nil =>
    cases h
    simp
  | cons path rest ih =>
    cases hread : readFile s path with
    | error e =>
      rw [aggregateFrom_cons_of_error hread] at h
      cases h
    | ok blocks =>
      rw [aggregateFrom_cons_of_ok hread] at h
      have hfirst : HasModule s module path ↔ module ∈ blocks := by simp [HasModule, hread]
      simp only [ih h, mem_append, List.exists_mem_cons_iff, hfirst, or_assoc]

theorem getD_aggregate (h : aggregate s files = .ok result) (module : Bytes) :
    result.getD module [] = files.flatMap (blocksIn s module) := by
  simpa using getD_aggregateFrom h module

end Files

/-- Reading a list of files is reading its parts: both have to be readable, and then each module has its blocks of the
first part and behind them those of the second. A file alone gives its own blocks. If a file cannot be read, the first
such is what is reported. No order in which the modules of the files are visited makes a difference, except to which
misfit is reported of a file that has several. -/
theorem aggregate_append (s : Store) :
    (∀ files result, Gathers s ∅ files (.ok result) ↔ aggregate s files = .ok result) ∧
    (∀ files e, Gathers s ∅ files (.error e) ↔
      ∃ path, FirstUnread s files path ∧ ∃ order, readFileIn order s path = .error e) ∧
    (∀ files e, aggregate s files = .error e ↔ ∃ path, FirstUnread s files path ∧ readFile s path = .error e) ∧
    (∀ path blocks, readFile s path = .ok blocks → aggregate s [path] = .ok blocks) ∧
    ∀ xs ys,
      ((∃ all, aggregate s (xs ++ ys) = .ok all) ↔
        (∃ first, aggregate s xs = .ok first) ∧ ∃ second, aggregate s ys = .ok second) ∧
      ∀ all first second, aggregate s (xs ++ ys) = .ok all → aggregate s xs = .ok first → aggregate s ys = .ok second →
        ∀ module, (module ∈ all ↔ module ∈ first ∨ module ∈ second) ∧
          all.getD module [] = first.getD module [] ++ second.getD module [] := by
  refine ⟨fun files result => gathers_ok_iff, fun files e => gathers_error_iff,
    fun files e => aggregateFrom_eq_error_iff, fun path blocks hread => ?_, fun xs ys => ⟨?_, ?_⟩⟩
  · rw [aggregate, aggregateFrom_cons_of_ok hread, aggregateFrom, Except.ok.injEq]
    refine Std.ExtTreeMap.ext_getElem? fun module => ?_
    rw [append_eq_appendEntries, getElem?_appendEntries (.refl _)]
    cases blocks[module]? <;> simp
  · unfold aggregate
    simp only [exists_aggregateFrom_iff, List.forall_mem_append]
  · intro all first second hall hfirst hsecond module
    constructor
    · rw [mem_aggregateFrom hall, mem_aggregateFrom hfirst, mem_aggregateFrom hsecond]
      simp [or_and_right, exists_or]
    · rw [getD_aggregate hall, getD_aggregate hfirst, getD_aggregate hsecond, List.flatMap_append]

section Example

/-- Three files: the second has a module without blocks, the third has an entry that is no block. -/
def threeFiles : Memory :=
  ((Memory.empty.putFile (utf8 "/0.json") (utf8 "\x7b\"b\": [[16, 17, 2]], \"a\": [[1, 2, 3]]\x7d")).putFile
    (utf8 "/1.json") (utf8 "\x7b\"c\": [], \"b\": [[32, 33, 2]]\x7d")).putFile
    (utf8 "/2.json") (utf8 "\x7b\"a\": [[1, 2]]\x7d")

theorem aggregate_append_threeFiles :
    (∃ all, aggregate (.memory threeFiles) ([utf8 "/0.json"] ++ [utf8 "/1.json", utf8 "/0.json"]) = .ok all ∧
      utf8 "c" ∈ all ∧ all.getD (utf8 "b") [] = [⟨16, 17, 2⟩, ⟨32, 33, 2⟩, ⟨16, 17, 2⟩]) ∧
    ∃ e, readFile (.memory threeFiles) (utf8 "/2.json") = .error e ∧
      aggregate (.memory threeFiles) [utf8 "/1.json", utf8 "/2.json", utf8 "/none.json"] = .error e := by
  obtain ⟨-, -, herror, -, happend⟩ := aggregate_append (.memory threeFiles)
  constructor
  · have hfirst : ((aggregate (.memory threeFiles) [utf8 "/0.json"]).toOption.map (·.getD (utf8 "b") [])) =
        some [⟨16, 17, 2⟩] := by decide +kernel
    have hsecond : ((aggregate (.memory threeFiles) [utf8 "/1.json", utf8 "/0.json"]).toOption.map fun blocks =>
        (blocks.contains (utf8 "c"), blocks.getD (utf8 "b") [])) =
          some (true, [⟨32, 33, 2⟩, ⟨16, 17, 2⟩]) := by decide +kernel
    obtain ⟨hiff, hblocks⟩ := happend [utf8 "/0.json"] [utf8 "/1.json", utf8 "/0.json"]
    cases hxs : aggregate (.memory threeFiles) [utf8 "/0.json"] with
    | error e => simp [hxs, Except.toOption] at hfirst
    | ok first =>
      cases hys : aggregate (.memory threeFiles) [utf8 "/1.json", utf8 "/0.json"] with
      | error e => simp [hys, Except.toOption] at hsecond
      | ok second =>
        simp only [hxs, hys, Except.toOption, Option.map_some, Option.some.injEq, Prod.mk.injEq] at hfirst hsecond
        obtain ⟨all, hall⟩ := hiff.2 ⟨⟨first, hxs⟩, ⟨second, hys⟩⟩
        obtain ⟨hmem, -⟩ := hblocks all first second hall hxs hys (utf8 "c")
        obtain ⟨-, hget⟩ := hblocks all first second hall hxs hys (utf8 "b")
        refine ⟨all, hall, hmem.2 (.inr (Std.ExtTreeMap.contains_iff_mem.1 hsecond.1)), ?_⟩
        rw [hget, hfirst, hsecond.2]
        rfl
  · have hone : (readFile (.memory threeFiles) (utf8 "/1.json")).toOption.isSome = true := by decide +kernel
    have htwo : (readFile (.memory threeFiles) (utf8 "/2.json")).toOption.isSome = false := by decide +kernel
    cases hread : readFile (.memory threeFiles) (utf8 "/2.json") with
    | ok blocks => simp [hread, Except.toOption] at htwo
    | error e =>
      refine ⟨e, rfl, (herror _ e).2 ⟨_, ⟨[utf8 "/1.json"], [utf8 "/none.json"], rfl, ?_, e, hread⟩, hread⟩⟩
      intro path hpath
      cases hbefore : readFile (.memory threeFiles) path with
      | ok blocks => exact ⟨blocks, rfl⟩
      | error e =>
        rw [List.mem_singleton.1 hpath] at hbefore
        simp [hbefore, Except.toOption] at hone

end Example

end Trace

end LineCoverage
