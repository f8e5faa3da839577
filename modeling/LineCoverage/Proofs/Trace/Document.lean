import LineCoverage.Proofs.Maps
import LineCoverage.Proofs.Trace.Token
import LineCoverage.Trace.Document

/-!
# Trace documents are read back

A document that lists the blocks of each module gives exactly these blocks, however the text is spaced. An entry
that is no block is reported with its place, and nothing is read.
-/

namespace LineCoverage

namespace Trace

/-! ## The tokens of a document -/

def separated : List (List Token) → List Token
  | [] => []
  | first :: rest => first ++ rest.flatMap fun tokens => .comma :: tokens

def entryTokens (fields : List UInt64) : List Token :=
  .openList :: (separated (fields.map fun n => [.number n]) ++ [.closeList])

def moduleTokens (module : Bytes × List (List UInt64)) : List Token :=
  [.name module.1, .colon, .openList] ++ (separated (module.2.map entryTokens) ++ [.closeList])

def documentTokens (modules : List (Bytes × List (List UInt64))) : List Token :=
  .openObject :: (separated (modules.map moduleTokens) ++ [.closeObject])

def entryOf (b : Block) : List UInt64 := [b.start, b.stop, b.size]

theorem entryOf_injective : Function.Injective entryOf := by
  rintro ⟨start, stop, size⟩ ⟨start', stop', size'⟩ h
  simpa [entryOf] using h

theorem exists_entryOf {fields : List UInt64} (h : fields.length = 3) : ∃ b, entryOf b = fields := by
  obtain ⟨start, stop, size, rfl⟩ := List.length_eq_three.1 h
  exact ⟨⟨start, stop, size⟩, rfl⟩

theorem exists_blocks {entries : List (List UInt64)} (h : ∀ fields ∈ entries, fields.length = 3) :
    ∃ blocks : List Block, blocks.map entryOf = entries := by
  induction entries with
  | nil => exact ⟨[], rfl⟩
  | cons fields rest ih =>
    obtain ⟨b, rfl⟩ := exists_entryOf (h fields List.mem_cons_self)
    obtain ⟨blocks, rfl⟩ := ih fun f hf => h f (List.mem_cons_of_mem _ hf)
    exact ⟨b :: blocks, rfl⟩

theorem separated_append {done : List (List Token)} (h : done ≠ []) (tokens : List Token) :
    separated (done ++ [tokens]) = separated done ++ .comma :: tokens := by
  cases done with
  | nil => exact absurd rfl h
  | cons first rest => simp [separated]

theorem mem_of_mem_separated {t : Token} {lists : List (List Token)} (h : t ∈ separated lists) :
    t = .comma ∨ ∃ tokens ∈ lists, t ∈ tokens := by
  cases lists with
  | nil => cases h
  | cons first rest =>
    rcases List.mem_append.1 h with h | h
    · exact .inr ⟨first, List.mem_cons_self, h⟩
    · obtain ⟨tokens, htokens, ht⟩ := List.mem_flatMap.1 h
      rcases List.mem_cons.1 ht with ht | ht
      · exact .inl ht
      · exact .inr ⟨tokens, List.mem_cons_of_mem _ htokens, ht⟩

theorem name_not_mem_entryTokens (name : Bytes) (fields : List UInt64) : .name name ∉ entryTokens fields := by
  intro h
  simp only [entryTokens, List.mem_cons, List.mem_append, List.not_mem_nil, or_false, reduceCtorEq, false_or] at h
  rcases mem_of_mem_separated h with h | ⟨tokens, htokens, h⟩
  · cases h
  · obtain ⟨n, -, rfl⟩ := List.mem_map.1 htokens
    simp at h

theorem name_mem_documentTokens {name : Bytes} {modules : List (Bytes × List (List UInt64))}
    (h : .name name ∈ documentTokens modules) : ∃ module ∈ modules, module.1 = name := by
  simp only [documentTokens, List.mem_cons, List.mem_append, List.not_mem_nil, or_false, reduceCtorEq,
    false_or] at h
  rcases mem_of_mem_separated h with h | ⟨tokens, htokens, h⟩
  · cases h
  obtain ⟨module, hmodule, rfl⟩ := List.mem_map.1 htokens
  simp only [moduleTokens, List.mem_cons, List.mem_append, List.not_mem_nil, or_false, reduceCtorEq,
    Token.name.injEq] at h
  rcases h with h | h
  · exact ⟨module, hmodule, h.symm⟩
  · rcases mem_of_mem_separated h with h | ⟨tokens, htokens, h⟩
    · cases h
    · obtain ⟨fields, -, rfl⟩ := List.mem_map.1 htokens
      exact absurd h (name_not_mem_entryTokens name fields)

/-! ## Readings -/

/-- The reading takes the tokens and becomes `r'`. -/
def Takes (r : Reading) (tokens : List Token) (r' : Reading) : Prop := tokens.foldlM Reading.step r = some r'

theorem Takes.append {r r₁ r₂ : Reading} {tokens more : List Token} (h : Takes r tokens r₁) (h' : Takes r₁ more r₂) :
    Takes r (tokens ++ more) r₂ := by
  unfold Takes at *
  simp [List.foldlM_append, h, h']

theorem Takes.cons {r r₁ r₂ : Reading} {t : Token} {tokens : List Token} (h : r.step t = some r₁)
    (h' : Takes r₁ tokens r₂) : Takes r (t :: tokens) r₂ := by
  unfold Takes at *
  simp [List.foldlM_cons, h, h']

theorem takes_cons_iff {r r' : Reading} {t : Token} {tokens : List Token} :
    Takes r (t :: tokens) r' ↔ ∃ r₁, r.step t = some r₁ ∧ Takes r₁ tokens r' := by
  simp [Takes, List.foldlM_cons, Option.bind_eq_some_iff]

theorem step_number {r r' : Reading} {t : Token} (ht : t.isNumber = true) (h : r.step t = some r') :
    ∃ module entries fields, r'.expect = .fieldEnd module entries fields := by
  cases t with
  | number n =>
    obtain ⟨modules, expect⟩ := r
    cases expect <;> simp only [Reading.step, reduceCtorEq, Option.some.injEq] at h
    all_goals exact ⟨_, _, _, by rw [← h]⟩
  | _ => cases ht

theorem Takes.isChain {r r' : Reading} {tokens : List Token} (h : Takes r tokens r') :
    tokens.IsChain fun t u => t.isNumber = true → u.isNumber = false := by
  induction tokens generalizing r with
  | nil => exact .nil
  | cons t rest ih =>
    obtain ⟨r₁, hstep, hrest⟩ := takes_cons_iff.1 h
    cases rest with
    | nil => exact .singleton t
    | cons u rest =>
      refine List.isChain_cons_cons.2 ⟨fun ht => ?_, ih hrest⟩
      obtain ⟨module, entries, fields, hexpect⟩ := step_number ht hstep
      obtain ⟨r₂, hstep₂, -⟩ := takes_cons_iff.1 hrest
      cases u with
      | number n => simp [Reading.step, hexpect] at hstep₂
      | _ => rfl

/-! ## Lists with commas -/

/-- A list is taken item by item. Here `closed items` is the reading behind the closing token of a list with these
items, and `after items` the reading before that token. -/
theorem takes_list {α : Type} {tokens : α → List Token} {close : Token} {opened : Reading}
    (after closed : List α → Reading) (hfirst : ∀ a, Takes opened (tokens a) (after [a]))
    (hnext : ∀ done a, Takes (after done) (.comma :: tokens a) (after (done ++ [a])))
    (hempty : opened.step close = some (closed [])) (hclose : ∀ done, (after done).step close = some (closed done))
    (items : List α) : Takes opened (separated (items.map tokens) ++ [close]) (closed items) := by
  have hitems : ∀ items, items ≠ [] → Takes opened (separated (items.map tokens)) (after items) := by
    intro items hne
    induction items using List.reverseRecOn with
    | nil => exact absurd rfl hne
    | append_singleton done a ih =>
      rcases eq_or_ne done [] with rfl | hdone
      · simpa [separated] using hfirst a
      · rw [List.map_append, List.map_singleton, separated_append (by simpa using hdone)]
        exact (ih hdone).append (hnext done a)
  rcases eq_or_ne items [] with rfl | hne
  · exact .cons hempty rfl
  · exact (hitems items hne).append (.cons (hclose items) rfl)

theorem takes_entry {modules : RawModules} {module : Bytes} {entries : List (List UInt64)} (fields : List UInt64)
    {r : Reading} (hopen : r.step .openList = some ⟨modules, .firstField module entries⟩) :
    Takes r (entryTokens fields) ⟨modules, .entryEnd module (fields :: entries)⟩ := by
  refine .cons hopen (takes_list (fun fs => ⟨modules, .fieldEnd module entries fs.reverse⟩)
    (fun fs => ⟨modules, .entryEnd module (fs :: entries)⟩) ?_ ?_ rfl ?_ fields)
  · intro n
    exact .cons rfl rfl
  · intro done n
    rw [List.reverse_append]
    exact .cons rfl (.cons rfl rfl)
  · intro done
    simp [Reading.step]

theorem takes_module {modules : RawModules} (module : Bytes × List (List UInt64)) {r : Reading}
    (hname : r.step (.name module.1) = some ⟨modules, .colon module.1⟩) :
    Takes r (moduleTokens module) ⟨modules.insert module.1 module.2, .moduleEnd⟩ := by
  obtain ⟨name, entries⟩ := module
  refine .cons hname (.cons rfl (.cons rfl ?_))
  refine takes_list (fun es => ⟨modules, .entryEnd name es.reverse⟩)
    (fun es => ⟨modules.insert name es, .moduleEnd⟩) ?_ ?_ rfl ?_ entries
  · intro fields
    exact takes_entry fields rfl
  · intro done fields
    rw [List.reverse_append]
    exact .cons rfl (takes_entry fields rfl)
  · intro done
    simp [Reading.step, Reading.endModule]

def mapOf {β : Type} (entries : List (Bytes × β)) : Std.ExtTreeMap Bytes β :=
  entries.foldl (fun t e => t.insert e.1 e.2) ∅

theorem mapOf_append {β : Type} (done : List (Bytes × β)) (e : Bytes × β) :
    mapOf (done ++ [e]) = (mapOf done).insert e.1 e.2 := by
  simp [mapOf]

theorem getElem?_mapOf {β : Type} {entries : List (Bytes × β)} (h : (entries.map Prod.fst).Nodup) (k : Bytes) (v : β) :
    (mapOf entries)[k]? = some v ↔ (k, v) ∈ entries := by
  induction entries using List.reverseRecOn with
  | nil => simp [mapOf]
  | append_singleton done e ih =>
    rw [List.map_append, List.nodup_append'] at h
    rw [mapOf_append, Maps.getElem?_insert_eq, List.mem_append, List.mem_singleton]
    by_cases hk : e.1 = k
    · have hnot : (k, v) ∉ done := by
        intro hmem
        exact h.2.2 (List.mem_map_of_mem hmem) (by simp [hk])
      simp [hk, hnot, Prod.ext_iff, eq_comm]
    · rw [if_neg hk, ih h.1]
      simp [Prod.ext_iff, Ne.symm hk]

theorem takes_document (modules : List (Bytes × List (List UInt64))) :
    Takes .start (documentTokens modules) ⟨mapOf modules, .nothing⟩ := by
  refine .cons rfl (takes_list (fun ms => ⟨mapOf ms, .moduleEnd⟩)
    (fun ms => ⟨mapOf ms, .nothing⟩) ?_ ?_ rfl (fun done => rfl) modules)
  · intro module
    exact takes_module module rfl
  · intro done module
    rw [mapOf_append]
    exact .cons rfl (takes_module module rfl)

/-! ## From bytes to readings -/

/-- Reading byte by byte is scanning the text and then reading its tokens. -/
theorem foldlM_stepByte (text : Bytes) (s : Scan) (r : Reading) :
    text.foldlM stepByte (s, r) = (scanAll s text).bind fun (s, tokens) =>
      (tokens.foldlM Reading.step r).map fun r => (s, r) := by
  induction text generalizing s r with
  | nil => simp [scanAll]
  | cons b rest ih =>
    simp only [List.foldlM_cons, stepByte, scanAll]
    cases scanByte s b with
    | none => rfl
    | some result =>
      obtain ⟨s, tokens⟩ := result
      simp only [bind, Option.bind, pure]
      cases hr : tokens.foldlM Reading.step r with
      | none => cases scanAll s rest <;> simp [hr]
      | some r' =>
        simp only [ih]
        cases scanAll s rest <;> simp [hr]

theorem readRaw_of_spells {modules : List (Bytes × List (List UInt64))} {text : Bytes}
    (hplain : ∀ module ∈ modules, IsPlain module.1) (h : Spells (documentTokens modules) text) :
    readRaw text = some (mapOf modules) := by
  have htakes := takes_document modules
  have hsep : Separable (documentTokens modules) := by
    refine ⟨htakes.isChain, fun name hname => ?_⟩
    obtain ⟨module, hmodule, rfl⟩ := name_mem_documentTokens hname
    exact hplain module hmodule
  obtain ⟨s, out, left, hscan, hready, heq⟩ := h.scans .between hsep
  -- The last token is the closing brace, so no number is pending.
  cases hready with
  | digits value closed =>
    rw [List.nil_append, documentTokens, ← List.cons_append] at heq
    simpa using (List.append_inj' heq rfl).2
  | between =>
    rw [List.append_nil, List.nil_append] at heq
    unfold readRaw
    rw [foldlM_stepByte, hscan, heq]
    simp [show (documentTokens modules).foldlM Reading.step .start = _ from htakes]

/-! ## From readings to blocks -/

theorem blockOf_of_length_ne {fields : List UInt64} (h : fields.length ≠ 3) (module : Bytes) (index : Nat) :
    blockOf module index fields = .error (.fieldCount module index fields.length) := by
  unfold blockOf
  split
  · simp at h
  · rfl

def blocksFrom (module : Bytes) (k : Nat) (entries : List (List UInt64)) : Except DocumentError (List Block) :=
  (entries.zipIdx k).mapM fun (fields, index) => blockOf module index fields

theorem blocksFrom_cons (module : Bytes) (k : Nat) (fields : List UInt64) (rest : List (List UInt64)) :
    blocksFrom module k (fields :: rest) = (do
      let b ← blockOf module k fields
      let more ← blocksFrom module (k + 1) rest
      pure (b :: more)) := by
  unfold blocksFrom
  rw [List.zipIdx_cons, List.mapM_cons]

theorem blocksFrom_entries (module : Bytes) (blocks : List Block) (k : Nat) :
    blocksFrom module k (blocks.map entryOf) = .ok blocks := by
  induction blocks generalizing k with
  | nil => rfl
  | cons b rest ih =>
    rw [List.map_cons, blocksFrom_cons, ih]
    rfl

/-- The first of the entries that is no block. -/
structure FirstMisfit (entries : List (List UInt64)) (index : Nat) (fields : List UInt64) : Prop where
  entry : entries[index]? = some fields
  length : fields.length ≠ 3
  before : ∀ i < index, ∀ f, entries[i]? = some f → f.length = 3

theorem FirstMisfit.cons {fields misfit : List UInt64} {rest : List (List UInt64)} {index : Nat}
    (hlength : fields.length = 3) (h : FirstMisfit rest index misfit) :
    FirstMisfit (fields :: rest) (index + 1) misfit := by
  refine ⟨h.entry, h.length, ?_⟩
  rintro (_ | i) hi f hf
  · simp only [List.getElem?_cons_zero, Option.some.injEq] at hf
    rwa [← hf]
  · exact h.before i (by omega) f hf

theorem blocksFrom_misfit {entries : List (List UInt64)} (module : Bytes)
    (h : ∃ fields ∈ entries, fields.length ≠ 3) (k : Nat) :
    ∃ index fields, FirstMisfit entries index fields ∧
      blocksFrom module k entries = .error (.fieldCount module (k + index) fields.length) := by
  induction entries generalizing k with
  | nil => simp at h
  | cons fields rest ih =>
    rw [blocksFrom_cons]
    by_cases hlength : fields.length = 3
    · have hrest : ∃ fields ∈ rest, fields.length ≠ 3 := by simpa [hlength] using h
      obtain ⟨index, misfit, hfirst, heq⟩ := ih hrest (k + 1)
      refine ⟨index + 1, misfit, hfirst.cons hlength, ?_⟩
      obtain ⟨b, rfl⟩ := exists_entryOf hlength
      rw [heq, show k + (index + 1) = k + 1 + index by omega]
      rfl
    · refine ⟨0, fields, ⟨rfl, hlength, fun i hi => absurd hi (by omega)⟩, ?_⟩
      rw [blockOf_of_length_ne hlength]
      rfl

def addModule (blocks : BlockMap) (module : Bytes × List (List UInt64)) : Except DocumentError BlockMap := do
  pure (blocks.insert module.1 (← blocksOf module.1 module.2))

theorem foldlM_addModule_ok (blocks : Bytes × List (List UInt64) → List Block)
    {modules : List (Bytes × List (List UInt64))}
    (h : ∀ module ∈ modules, blocksOf module.1 module.2 = .ok (blocks module)) :
    modules.foldlM addModule ∅ = .ok (mapOf (modules.map fun module => (module.1, blocks module))) := by
  induction modules using List.reverseRecOn with
  | nil => rfl
  | append_singleton done module ih =>
    rw [List.foldlM_append, ih fun m hm => h m (List.mem_append_left _ hm), List.map_append, List.map_singleton,
      mapOf_append]
    simp [addModule, h module (by simp), bind, Except.bind, pure, Except.pure]

theorem foldlM_addModule_misfit {modules : List (Bytes × List (List UInt64))}
    (h : ∃ module ∈ modules, ∃ fields ∈ module.2, fields.length ≠ 3) (read : BlockMap) :
    ∃ module entries index fields, (module, entries) ∈ modules ∧ FirstMisfit entries index fields ∧
      modules.foldlM addModule read = .error (.fieldCount module index fields.length) := by
  induction modules generalizing read with
  | nil => simp at h
  | cons first rest ih =>
    rw [List.foldlM_cons]
    by_cases hfirst : ∃ fields ∈ first.2, fields.length ≠ 3
    · obtain ⟨index, fields, hmisfit, herror⟩ := blocksFrom_misfit first.1 hfirst 0
      refine ⟨first.1, first.2, index, fields, List.mem_cons_self, hmisfit, ?_⟩
      have hblocks : blocksOf first.1 first.2 = _ := herror
      simp [addModule, hblocks, bind, Except.bind]
    · have hrest : ∃ module ∈ rest, ∃ fields ∈ module.2, fields.length ≠ 3 := by
        obtain ⟨module, hmodule, hmisfit⟩ := h
        rcases List.mem_cons.1 hmodule with rfl | hmodule
        · exact absurd hmisfit hfirst
        · exact ⟨module, hmodule, hmisfit⟩
      push Not at hfirst
      obtain ⟨blocks, heq⟩ := exists_blocks hfirst
      have hblocks : blocksOf first.1 first.2 = .ok blocks := heq ▸ blocksFrom_entries first.1 blocks 0
      obtain ⟨module, entries, index, fields, hmem, hmisfit, hfold⟩ := ih hrest (read.insert first.1 blocks)
      refine ⟨module, entries, index, fields, List.mem_cons_of_mem _ hmem, hmisfit, ?_⟩
      simpa [addModule, hblocks, bind, Except.bind, pure, Except.pure] using hfold

theorem parseIn_of_spells (order : ModuleOrder) {modules : List (Bytes × List (List UInt64))} {text : Bytes}
    (hplain : ∀ module ∈ modules, IsPlain module.1) (h : Spells (documentTokens modules) text) :
    parseIn order text = (order.entries (mapOf modules)).foldlM addModule ∅ := by
  unfold parseIn
  rw [readRaw_of_spells hplain h]
  rfl

theorem ModuleOrder.mem_entries (order : ModuleOrder) {modules : List (Bytes × List (List UInt64))}
    (hnames : (modules.map Prod.fst).Nodup) (module : Bytes × List (List UInt64)) :
    module ∈ order.entries (mapOf modules) ↔ module ∈ modules := by
  rw [(order.perm _).mem_iff, Std.ExtTreeMap.mem_toList_iff_getElem?_eq_some, getElem?_mapOf hnames]

theorem ModuleOrder.nodup_names (order : ModuleOrder) (raw : RawModules) :
    ((order.entries raw).map Prod.fst).Nodup := by
  rw [((order.perm raw).map Prod.fst).nodup_iff]
  exact Maps.nodup_names_toList raw

/-- A document with plain names is read back exactly if its entries are blocks, in whatever order its modules are
visited: `parse` is one such order. Otherwise the first entry of some module that is no block is reported. -/
theorem documents_read_back (order : ModuleOrder) (modules : List (Bytes × List (List UInt64))) (text : Bytes)
    (hnames : (modules.map Prod.fst).Nodup) (hplain : ∀ module ∈ modules, IsPlain module.1)
    (htext : Spells (documentTokens modules) text) :
    (∀ blocks : List (Bytes × List Block), modules = blocks.map (fun e => (e.1, e.2.map entryOf)) →
      ∃ read, parseIn order text = .ok read ∧ ∀ module bs, read[module]? = some bs ↔ (module, bs) ∈ blocks) ∧
    ((∃ module ∈ modules, ∃ fields ∈ module.2, fields.length ≠ 3) →
      ∃ module entries index fields, (module, entries) ∈ modules ∧ FirstMisfit entries index fields ∧
        parseIn order text = .error (.fieldCount module index fields.length)) := by
  rw [parseIn_of_spells order hplain htext]
  constructor
  · rintro blocks rfl
    have hblocks : ∀ module ∈ order.entries (mapOf (blocks.map fun e => (e.1, e.2.map entryOf))),
        ∃ bs, (module.1, bs) ∈ blocks ∧ module.2 = bs.map entryOf := by
      intro module hmodule
      obtain ⟨e, he, rfl⟩ := List.mem_map.1 ((order.mem_entries hnames module).1 hmodule)
      exact ⟨e.2, he, rfl⟩
    choose! read hread using hblocks
    refine ⟨_, foldlM_addModule_ok read fun module hmodule => ?_, fun module bs => ?_⟩
    · rw [(hread module hmodule).2]
      exact blocksFrom_entries module.1 (read module) 0
    rw [getElem?_mapOf (by simpa [Function.comp_def] using order.nodup_names _), List.mem_map]
    constructor
    · rintro ⟨module, hmodule, ⟨⟩⟩
      exact (hread module hmodule).1
    · intro hmem
      have hmodule := (order.mem_entries hnames (module, bs.map entryOf)).2 (List.mem_map_of_mem hmem)
      have heq : bs = read (module, bs.map entryOf) := entryOf_injective.list_map (hread _ hmodule).2
      exact ⟨_, hmodule, by rw [← heq]⟩
  · rintro ⟨module, hmodule, hmisfit⟩
    obtain ⟨name, entries, index, fields, hvisited, hfirst, hfold⟩ := foldlM_addModule_misfit
      ⟨module, (order.mem_entries hnames module).2 hmodule, hmisfit⟩ ∅
    exact ⟨name, entries, index, fields, (order.mem_entries hnames _).1 hvisited, hfirst, hfold⟩

/-- Two modules, one of them with a block at the top of the address space. -/
def twoModules : List (Bytes × List Block) := [(utf8 "/bin/b", [⟨0xFFFFFFFFFFFFFFFF, 0, 7⟩, ⟨0, 10, 11⟩]), (utf8 "a", [])]

def misfits : List (Bytes × List (List UInt64)) := [(utf8 "b", [[1, 2, 3], [], [4]]), (utf8 "a", [[5, 6, 7, 8]])]

theorem documents_read_back_twoModules :
    (∃ read, parse (spaced [32, 10] (documentTokens (twoModules.map fun e => (e.1, e.2.map entryOf)))) = .ok read ∧
      ∀ module bs, read[module]? = some bs ↔ (module, bs) ∈ twoModules) ∧
    ∃ module entries index fields, (module, entries) ∈ misfits ∧ FirstMisfit entries index fields ∧
      parse (spaced [] (documentTokens misfits)) = .error (.fieldCount module index fields.length) := by
  constructor
  · exact (documents_read_back .byName _ _ (by decide +kernel) (by decide +kernel)
      (spells_spaced (by decide +kernel) _)).1 twoModules rfl
  · exact (documents_read_back .byName misfits _ (by decide +kernel) (by decide +kernel)
      (spells_spaced (by decide +kernel) _)).2 ⟨_, List.mem_cons_self, [], by decide, by decide⟩

end Trace

end LineCoverage
