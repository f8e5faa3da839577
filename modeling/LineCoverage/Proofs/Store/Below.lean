import LineCoverage.Proofs.Store.Walk

/-!
# What is below a directory

What is below a directory is shown by it, or by a directory below it. In a store that hides nothing these are the
nodes whose paths lead through the directory. A walk finds each file among them once.
-/

namespace LineCoverage

namespace Path

theorem dotDot_not_mem_normalElements {p : Bytes} (h : isAbsolute p = true) : dotDot ∉ normalElements p := by
  have hfold : ∀ es kept : List Bytes, dotDot ∉ kept → dotDot ∉ es.foldl (pushElement true) kept := by
    intro es
    induction es with
    | nil => exact fun kept hkept => hkept
    | cons e rest ih =>
      intro kept hkept
      apply ih
      unfold pushElement
      split
      · split
        · simp
        · rw [List.mem_cons, not_or] at hkept
          rw [if_neg (Ne.symm hkept.1)]
          exact hkept.2
      · rename_i hdots
        rw [List.mem_cons, not_or]
        exact ⟨Ne.symm hdots, hkept⟩
  unfold normalElements
  rw [h, List.mem_reverse]
  exact hfold _ [] (by simp)

end Path

namespace Memory

/-! ## Shown nodes are in directories -/

/-- Only directories show something. -/
def ShownInDirectories (nodes : Std.ExtTreeMap Bytes Node) : Prop :=
  ∀ (k : Bytes) (node : Node), nodes[k]? = some node → node.listed = true → k ≠ root →
    ∃ above : Node, nodes[parent k]? = some above ∧ above.isDir = true

/-- Only directories show something other than `p`, which may not be in a directory yet. -/
def ShownBut (p : Bytes) (nodes : Std.ExtTreeMap Bytes Node) : Prop :=
  ∀ (k : Bytes) (node : Node), nodes[k]? = some node → node.listed = true → k ≠ root → k ≠ p →
    ∃ above : Node, nodes[parent k]? = some above ∧ above.isDir = true

theorem ShownBut.insert_parent {p : Bytes} {nodes : Std.ExtTreeMap Bytes Node} (h : ShownBut p nodes) {dir : Node}
    (hdir : dir.isDir = true) (hsame : ∀ node : Node, nodes[parent p]? = some node → dir.listed = node.listed)
    {k : Bytes} {node : Node} (hnode : (nodes.insert (parent p) dir)[k]? = some node) (hlisted : node.listed = true)
    (hroot : k ≠ root) (hthere : k = parent p → nodes[k]? ≠ none) :
    ∃ above : Node, (nodes.insert (parent p) dir)[parent k]? = some above ∧ above.isDir = true := by
  rw [Maps.getElem?_insert_eq]
  split
  · exact ⟨dir, rfl, hdir⟩
  · rename_i hparent
    rw [Maps.getElem?_insert_eq] at hnode
    have hkp : k ≠ p := by
      rintro rfl
      exact hparent rfl
    split at hnode
    · rename_i hk
      obtain ⟨old, hold⟩ := Option.ne_none_iff_exists'.1 (hthere hk.symm)
      cases hnode
      exact h k old hold (by rw [← hsame old (hk ▸ hold)]; exact hlisted) hroot hkp
    · exact h k node hnode hlisted hroot hkp

theorem shownInDirectories_linkParents {p : Bytes} (hp : key p = p) {nodes : Std.ExtTreeMap Bytes Node}
    (h : ShownBut p nodes) : ShownInDirectories (linkParents nodes (parents p)) := by
  have hnone : parents root = [] := by simp [parents]
  by_cases hpr : p = root
  · rw [hpr, hnone]
    exact fun k node hnode hlisted hroot => h k node hnode hlisted hroot (hpr ▸ hroot)
  rw [IsKey.parents ⟨hp, hpr⟩, linkParents]
  split
  · rename_i old hold
    intro k node hnode hlisted hroot
    have hdir : Node.isDir { old with isDir := true } = true := rfl
    refine h.insert_parent hdir (fun node hnode => ?_) hnode hlisted hroot ?_
    · cases hold.symm.trans hnode
      rfl
    · rintro rfl
      simp [hold]
  · rename_i hnew
    have hsame : ∀ node : Node, nodes[parent p]? = some node → Node.directory.listed = node.listed := by
      intro node hnode
      cases hnew.symm.trans hnode
    by_cases hne : parent p = root
    · rw [hne, hnone, ← hne]
      exact fun k node hnode hlisted hroot =>
        h.insert_parent rfl hsame hnode hlisted hroot fun hk => absurd (hk.trans hne) hroot
    · have hshort := IsKey.length_parent ⟨hp, hpr⟩ hne
      apply shownInDirectories_linkParents (key_key _)
      exact fun k node hnode hlisted hroot hkp =>
        h.insert_parent rfl hsame hnode hlisted hroot fun hk => absurd hk hkp
termination_by p.length

theorem ShownInDirectories.put {m : Memory} (h : ShownInDirectories m.nodes) (path : Bytes) (node : Node)
    (hbelow : node.isDir = true ∨ ∀ (k : Bytes) (below : Node), m.nodes[k]? = some below → below.listed = true →
      k ≠ root → parent k ≠ key path) :
    ShownInDirectories (m.put path node).nodes := by
  apply shownInDirectories_linkParents (key_key _)
  intro k shown hnode hlisted hroot hk
  rw [Maps.getElem?_insert_eq, if_neg (Ne.symm hk)] at hnode
  rw [Maps.getElem?_insert_eq]
  split
  · rename_i hparent
    exact ⟨node, rfl, hbelow.resolve_right fun hnone => hnone k shown hnode hlisted hroot hparent.symm⟩
  · exact h k shown hnode hlisted hroot

theorem ShownInDirectories.putDirectory {m : Memory} (h : ShownInDirectories m.nodes) (path : Bytes) :
    ShownInDirectories (m.putDirectory path).nodes := by
  unfold Memory.putDirectory
  split
  · exact h
  · exact h.put path _ (.inl rfl)

theorem ShownInDirectories.putFile {m : Memory} (h : ShownInDirectories m.nodes) (path content : Bytes) :
    ShownInDirectories (m.putFile path content).nodes := by
  unfold Memory.putFile
  split
  · refine ShownInDirectories.put (m := m.hideBelow path) ?_ path _ (.inr ?_)
    · intro k node hnode hlisted hroot
      simp only [hideBelow, Std.ExtTreeMap.getElem?_map, Option.map_eq_some_iff] at hnode ⊢
      obtain ⟨old, hold, rfl⟩ := hnode
      split at hlisted
      · cases hlisted
      · obtain ⟨above, habove, hdir⟩ := h k old hold hlisted hroot
        refine ⟨_, ⟨above, habove, rfl⟩, ?_⟩
        split <;> exact hdir
    · intro k below hbelow hlisted hroot hparent
      simp only [hideBelow, Std.ExtTreeMap.getElem?_map, Option.map_eq_some_iff] at hbelow
      obtain ⟨old, hold, rfl⟩ := hbelow
      rw [if_pos hparent] at hlisted
      cases hlisted
  · rename_i hfile
    refine h.put path _ (.inr fun k below hbelow hlisted hroot hparent => hfile ?_)
    obtain ⟨above, habove, hdir⟩ := h k below hbelow hlisted hroot
    rw [← hparent, habove]
    exact hdir

theorem ShownInDirectories.write {m : Memory} (h : ShownInDirectories m.nodes) (path content : Bytes) :
    ShownInDirectories (m.write path content).nodes := by
  unfold Memory.write
  split
  · rename_i old hold
    intro k node hnode hlisted hroot
    have hthere : ∃ before, m.nodes[k]? = some before ∧ before.listed = true := by
      rw [Maps.getElem?_insert_eq] at hnode
      split at hnode
      · rename_i hk
        cases hnode
        exact ⟨old, hk ▸ hold, hlisted⟩
      · exact ⟨node, hnode, hlisted⟩
    obtain ⟨before, hbefore, hlisted⟩ := hthere
    obtain ⟨above, habove, hdir⟩ := h k before hbefore hlisted hroot
    rw [Maps.getElem?_insert_eq]
    split
    · rename_i hk
      rw [← hk, hold] at habove
      cases habove
      exact ⟨_, rfl, hdir⟩
    · exact ⟨above, habove, hdir⟩
  · rename_i hnone
    refine h.put path _ (.inr fun k below hbelow hlisted hroot hparent => ?_)
    obtain ⟨above, habove, -⟩ := h k below hbelow hlisted hroot
    rw [hparent, hnone] at habove
    cases habove

theorem ShownInDirectories.append {m : Memory} (h : ShownInDirectories m.nodes) (path data : Bytes) :
    ShownInDirectories (m.append path data).nodes := by
  have hmodified : ∀ (k : Bytes), (m.append path data).nodes[k]? =
      m.nodes[k]?.map fun node => if key path = k then { node with content := node.content ++ data } else node := by
    intro k
    unfold Memory.append
    simp only [Std.ExtTreeMap.getElem?_modify, Std.LawfulEqCmp.compare_eq_iff_eq]
    split
    · rename_i hk
      rw [hk]
    · simp
  intro k node hnode hlisted hroot
  simp only [hmodified, Option.map_eq_some_iff] at hnode ⊢
  obtain ⟨old, hold, rfl⟩ := hnode
  obtain ⟨above, habove, hdir⟩ := h k old hold (by split at hlisted <;> exact hlisted) hroot
  refine ⟨_, ⟨above, habove, rfl⟩, ?_⟩
  split <;> exact hdir

theorem Built.shownInDirectories {m : Memory} (h : Built m) : ShownInDirectories m.nodes := by
  induction h with
  | empty =>
    intro k node hnode hlisted hroot
    have hk := Maps.mem_of_getElem? hnode
    rw [Memory.empty, mem_insert_iff] at hk
    exact absurd hk (by simp [hroot])
  | putDirectory h path ih => exact ih.putDirectory path
  | putFile h path content ih => exact ih.putFile path content
  | write h path content ih => exact ih.write path content
  | append h path data ih => exact ih.append path data
  | told h faults readOnly ih => exact ih

/-! ## What is below -/

/-- Shown by a directory, or by one that is below it. -/
inductive Below (m : Memory) (dir : Bytes) : Bytes → Prop where
  | entry {k : Bytes} (h : k ∈ m.entries dir) : Below m dir k
  | deeper {d k : Bytes} (hd : Below m dir d) (h : k ∈ m.entries d) : Below m dir k

/-- No directory with something in it was removed or replaced by a file, so every directory shows all that is in
it. -/
def ShowsAll (m : Memory) : Prop := ∀ (k : Bytes) (node : Node), m.nodes[k]? = some node → k ≠ root → node.listed = true

/-- A directory whose names lead to what they are names of. Only the root can have others: it also shows what has a
path without a leading slash. -/
structure Straight (m : Memory) (dir : Bytes) : Prop where
  key : key dir = dir
  isAbsolute : Path.isAbsolute dir = true
  shown : dir = root → ∀ k ∈ m.entries dir, Path.isAbsolute k = true

theorem isKey_of_mem_entries {m : Memory} (htree : IsTree m.nodes) {dir k : Bytes} (hk : k ∈ m.entries dir) :
    IsKey k := by
  obtain ⟨node, hnode, -, hroot, -⟩ := mem_entries.1 hk
  exact ⟨htree.keys k (Maps.mem_of_getElem? hnode), hroot⟩

section Straight

variable {m : Memory} (htree : IsTree m.nodes) {dir : Bytes} (hdir : Straight m dir)
include htree hdir

theorem Straight.splits {k : Bytes} (hk : k ∈ m.entries dir) :
    ∃ q, Path.Splits k q (Path.base k) ∧ Path.isAbsolute k = true ∧
      Path.normalElements q = Path.normalElements dir := by
  have hkey := isKey_of_mem_entries htree hk
  have hparent := parent_of_mem_entries hk
  obtain ⟨q, e, hsplits⟩ := hkey.exists_splits
  have hq : Memory.key q = dir := by rw [← hparent, parent_of_splits hsplits]
  obtain rfl : e = Path.base k := hsplits.base.symm
  by_cases hroot : dir = root
  · have habs := hdir.shown hroot k hk
    refine ⟨q, hsplits, habs, ?_⟩
    rcases cases_of_key_eq_root (hq.trans hroot) with hnil | ⟨hrelative, -⟩
    · rw [hnil, hroot]
      decide
    · rw [hsplits.isAbsolute, habs] at hrelative
      cases hrelative
  · have hclean : Path.clean q = Path.clean dir := by
      have hne : Memory.key q ≠ root := by rwa [hq]
      rw [← key_of_ne_root hne, hq, ← key_of_ne_root (by rwa [hdir.key]), hdir.key]
    obtain ⟨habs, helements⟩ := Path.eq_of_clean_eq hclean
    exact ⟨q, hsplits, by rw [← hsplits.isAbsolute, habs, hdir.isAbsolute], helements⟩

theorem Straight.join_base {k : Bytes} (hk : k ∈ m.entries dir) : Path.join dir (Path.base k) = k := by
  obtain ⟨q, hsplits, habs, helements⟩ := hdir.splits htree hk
  exact hsplits.join (isKey_of_mem_entries htree hk).clean (hdir.isAbsolute.trans habs.symm) helements.symm

theorem Straight.normalElements {k : Bytes} (hk : k ∈ m.entries dir) :
    Path.normalElements k = Path.normalElements dir ++ [Path.base k] := by
  obtain ⟨q, hsplits, -, helements⟩ := hdir.splits htree hk
  rw [hsplits.elements, helements]

theorem Straight.entry {k : Bytes} (hk : k ∈ m.entries dir) : Straight m k := by
  obtain ⟨q, hsplits, habs, -⟩ := hdir.splits htree hk
  have hkey := isKey_of_mem_entries htree hk
  exact ⟨hkey.key, habs, fun hroot => absurd hroot hkey.ne_root⟩

theorem Straight.of_below {k : Bytes} (h : Below m dir k) :
    Straight m k ∧ k ∈ m.nodes ∧
      ∃ rest, rest ≠ [] ∧ Path.normalElements k = Path.normalElements dir ++ rest := by
  induction h with
  | entry h =>
    obtain ⟨node, hnode, -⟩ := mem_entries.1 h
    exact ⟨hdir.entry htree h, Maps.mem_of_getElem? hnode, _, List.cons_ne_nil _ _, hdir.normalElements htree h⟩
  | @deeper d k _ h ih =>
    obtain ⟨hd, -, rest, -, helements⟩ := ih
    obtain ⟨node, hnode, -⟩ := mem_entries.1 h
    refine ⟨hd.entry htree h, Maps.mem_of_getElem? hnode, rest ++ [Path.base k],
      List.append_ne_nil_of_right_ne_nil _ (List.cons_ne_nil _ _), ?_⟩
    rw [hd.normalElements htree h, helements, List.append_assoc]

/-- Nothing is at or below two entries of a directory. -/
theorem Straight.apart {k k' p : Bytes} (hk : k ∈ m.entries dir) (hk' : k' ∈ m.entries dir)
    (hp : p = k ∨ Below m k p) (hp' : p = k' ∨ Below m k' p) : k = k' := by
  -- The element behind those of the directory tells which of its entries the path leads through.
  have helements : ∀ k ∈ m.entries dir, (p = k ∨ Below m k p) →
      ∃ rest, Path.normalElements p = Path.normalElements dir ++ Path.base k :: rest := by
    intro k hk hp
    have hbase := hdir.normalElements htree hk
    rcases hp with rfl | hbelow
    · exact ⟨[], hbase⟩
    · obtain ⟨-, -, rest, -, hrest⟩ := (hdir.entry htree hk).of_below htree hbelow
      exact ⟨rest, by rw [hrest, hbase, List.append_assoc, List.singleton_append]⟩
  obtain ⟨rest, hrest⟩ := helements k hk hp
  obtain ⟨rest', hrest'⟩ := helements k' hk' hp'
  rw [hrest, List.append_cancel_left_eq, List.cons.injEq] at hrest'
  rw [← hdir.join_base htree hk, ← hdir.join_base htree hk', hrest'.1]

end Straight

theorem clean_of_key {p : Bytes} (h : key p = p) : Path.clean p = p := by
  by_cases hroot : p = root
  · rw [hroot]
    decide
  · rw [← key_of_ne_root (by rwa [h]), h]

theorem key_eq_self {p : Bytes} (habs : Path.isAbsolute p = true) (hclean : Path.clean p = p) : key p = p := by
  unfold key
  simp only [hclean]
  rw [if_neg]
  rintro (rfl | rfl) <;> exact absurd habs (by decide)

/-- A path that leads through a directory, but for its last element: the directory, or a shorter path through it. -/
theorem within_parent {dir k : Bytes} (hkey : key dir = dir) (habs : Path.isAbsolute dir = true) (hk : IsKey k)
    (hne : k ≠ dir) (hwithin : Path.Within k dir) :
    parent k = dir ∨ parent k ≠ dir ∧ Path.Within (parent k) dir ∧ (parent k).length < k.length := by
  obtain ⟨hkabs, rest, hdots, helements⟩ := hwithin
  have hrest : rest ≠ [] := by
    rintro rfl
    rw [List.append_nil] at helements
    apply hne
    rw [← hk.clean, ← clean_of_key hkey]
    exact Path.clean_eq_of_normalElements hkabs helements
  obtain ⟨above, last, rfl⟩ := List.eq_nil_or_concat rest |>.resolve_left hrest
  obtain ⟨q, e, hsplits⟩ := hk.exists_splits
  have hparent := parent_of_splits hsplits
  have hqabs : Path.isAbsolute q = Path.isAbsolute dir := hsplits.isAbsolute.trans hkabs
  have hq : Path.normalElements q = Path.normalElements dir ++ above := by
    have hsame := hsplits.elements.symm.trans helements
    rw [List.concat_eq_append, ← List.append_assoc] at hsame
    exact (List.append_inj' hsame rfl).1
  by_cases hnil : above = []
  · rw [hnil, List.append_nil] at hq
    rw [hparent, ← key_clean, Path.clean_eq_of_normalElements hqabs hq, clean_of_key hkey, hkey]
    exact .inl rfl
  · have hqroot : key q ≠ root := by
      intro hup
      rcases cases_of_key_eq_root hup with hnone | ⟨hrelative, -⟩
      · rw [hq] at hnone
        exact hnil (List.append_eq_nil_iff.1 hnone).2
      · rw [hqabs, habs] at hrelative
        cases hrelative
    have hclean : parent k = Path.clean q := by rw [hparent, key_of_ne_root hqroot]
    have hup : Path.normalElements (parent k) = Path.normalElements dir ++ above := by
      rw [hclean, Path.normalElements_clean, hq]
    have hupAbs : Path.isAbsolute (parent k) = Path.isAbsolute dir := by rw [hclean, Path.isAbsolute_clean, hqabs]
    refine .inr ⟨?_, ⟨hupAbs, above, ?_, hup⟩, hk.length_parent (hparent ▸ hqroot)⟩
    · intro heq
      rw [heq] at hup
      exact hnil (List.self_eq_append_right.1 hup)
    · exact fun hmem => hdots (by simp [hmem])

theorem ne_root_of_within {dir k : Bytes} (hkey : key dir = dir) (hne : k ≠ dir) (hwithin : Path.Within k dir) :
    k ≠ root := by
  rintro rfl
  obtain ⟨habs, rest, -, helements⟩ := hwithin
  have hroot : Path.normalElements root = [] := by decide
  have hdir : Path.normalElements dir = [] := (List.append_eq_nil_iff.1 (helements.symm.trans hroot)).1
  have hsame := Path.clean_eq_of_normalElements habs (hroot.trans hdir.symm)
  rw [clean_of_key hkey] at hsame
  exact hne (Eq.trans (by decide) hsame)

/-- Where nothing is hidden, what a path leads to through a directory is below it. The induction goes up the path. -/
theorem below_of_within {m : Memory} (htree : IsTree m.nodes) (hall : ShowsAll m) {dir : Bytes} (hdir : Straight m dir)
    {k : Bytes} (hk : k ∈ m.nodes) (hne : k ≠ dir) (hwithin : Path.Within k dir) : Below m dir k := by
  have hroot := ne_root_of_within hdir.key hne hwithin
  obtain ⟨node, hnode⟩ : ∃ node : Node, m.nodes[k]? = some node := by
    rwa [Std.ExtTreeMap.mem_iff_isSome_getElem?, Option.isSome_iff_exists] at hk
  have hentry : k ∈ m.entries (parent k) := mem_entries.2 ⟨node, hnode, hall k node hnode hroot, hroot, rfl⟩
  rcases within_parent hdir.key hdir.isAbsolute ⟨htree.keys k hk, hroot⟩ hne hwithin with hup | ⟨hup, hthrough, hshort⟩
  · exact .entry (hup ▸ hentry)
  · exact .deeper (below_of_within htree hall hdir (htree.parents k hk hroot) hup hthrough) hentry
termination_by k.length

theorem below_iff_within {m : Memory} (htree : IsTree m.nodes) (hall : ShowsAll m) {dir : Bytes}
    (hdir : Straight m dir) (k : Bytes) :
    Below m dir k ↔ k ∈ m.nodes ∧ k ≠ dir ∧ Path.Within k dir := by
  constructor
  · intro h
    obtain ⟨hk, hthere, rest, hrest, helements⟩ := hdir.of_below htree h
    refine ⟨hthere, ?_, hk.isAbsolute.trans hdir.isAbsolute.symm, rest, ?_, helements⟩
    · rintro rfl
      exact hrest (List.self_eq_append_right.1 helements)
    · have hdots := Path.dotDot_not_mem_normalElements hk.isAbsolute
      rw [helements, List.mem_append, not_or] at hdots
      exact hdots.2
  · rintro ⟨hk, hne, hwithin⟩
    exact below_of_within htree hall hdir hk hne hwithin

/-! ## Walks find what is below -/

section Walks

variable {m : Memory} (htree : IsTree m.nodes) (hfaults : m.faults = [])
include htree

/-- A straight directory leads to what is below it, by the paths that its nodes have. -/
theorem Straight.leads_iff (hshown : ShownInDirectories m.nodes) {dir : Bytes} (hdir : Straight m dir) {p : Bytes} :
    m.Leads dir p ↔ p = dir ∨ Below m dir p := by
  constructor
  · intro h
    induction h with
    | here => exact .inl rfl
    | into _ _ hk ih =>
      rcases ih with rfl | hbelow
      · rw [hdir.key] at hk
        rw [hdir.join_base htree hk]
        exact .inr (.entry hk)
      · have hpath := (hdir.of_below htree hbelow).1
        rw [hpath.key] at hk
        rw [hpath.join_base htree hk]
        exact .inr (.deeper hbelow hk)
  · have hstep : ∀ {d k : Bytes}, Straight m d → m.Leads dir d → k ∈ m.entries d → m.Leads dir k := by
      intro d k hd hleads hk
      obtain ⟨node, hnode, hlisted, hroot, rfl⟩ := mem_entries.1 hk
      rw [← hd.join_base htree hk]
      exact .into hleads (by rw [hd.key]; exact hshown k node hnode hlisted hroot) (by rwa [hd.key])
    rintro (rfl | hbelow)
    · exact .here
    · induction hbelow with
      | entry hk => exact hstep hdir .here hk
      | deeper hbelow hk ih => exact hstep (hdir.of_below htree hbelow).1 ih hk

include hfaults

/-- A walk from a path other than the root comes to an end: each step down makes the path longer. -/
theorem exists_visit {path : Bytes} (hroot : key path ≠ root) (hthere : key path ∈ m.nodes) (fuel : Nat)
    (hfuel : m.longestPath < fuel + (key path).length) : ∃ files, m.visit fuel path = .ok files := by
  induction fuel generalizing path with
  | zero =>
    have hlong := length_le_longestPath hthere
    omega
  | succ fuel ih =>
    obtain ⟨node, hnode⟩ : ∃ node : Node, m.nodes[key path]? = some node := by
      rwa [Std.ExtTreeMap.mem_iff_isSome_getElem?, Option.isSome_iff_exists] at hthere
    cases hisDir : node.isDir with
    | false => exact ⟨_, (visit_eq_ok_iff hfaults).2 (.inl ⟨⟨node, hnode, hisDir⟩, rfl⟩)⟩
    | true =>
      refine ⟨_, (visit_eq_ok_iff hfaults).2 (.inr ⟨⟨node, hnode, hisDir⟩, fuel, rfl, fun k hk => ?_, rfl⟩)⟩
      obtain ⟨entry, hentry, -⟩ := mem_entries.1 hk
      have hkey := isKey_of_mem_entries htree hk
      have hparent := parent_of_mem_entries hk
      have hlonger := hkey.length_parent (hparent ▸ hroot)
      rw [hkey.join_base hparent hroot]
      apply ih <;> rw [hkey.key]
      · exact hkey.ne_root
      · exact Maps.mem_of_getElem? hentry
      · rw [hparent] at hlonger
        omega

theorem Straight.nodup_visit (hshown : ShownInDirectories m.nodes) {dir : Bytes} (hdir : Straight m dir) {fuel : Nat}
    {files : List Bytes} (h : m.visit fuel dir = .ok files) : files.Nodup := by
  induction fuel using Nat.strongRecOn generalizing dir files with
  | ind fuel ih =>
    rcases (visit_eq_ok_iff hfaults).1 h with ⟨-, rfl⟩ | ⟨-, n, rfl, hinside, rfl⟩
    · exact List.nodup_singleton dir
    rw [hdir.key] at hinside ⊢
    have hvisit : ∀ k ∈ m.entries dir, m.visit n k = .ok (m.found n k) := by
      intro k hk
      obtain ⟨files, hfiles⟩ := hinside k hk
      rw [hdir.join_base htree hk] at hfiles
      rw [hfiles, found_of_visit hfiles]
    -- The walk goes by sorted names, and not in the order of the entries.
    have hperm : ((m.namesIn dir).flatMap fun name => m.found n (Path.join dir name)).Perm
        ((m.entries dir).flatMap (m.found n)) := by
      refine ((namesIn_perm m dir).flatMap_right _).trans ?_
      rw [List.flatMap_map]
      exact List.Perm.flatMap_left _ fun k hk => by rw [hdir.join_base htree hk]
    rw [hperm.nodup_iff, List.nodup_flatMap]
    refine ⟨fun k hk => ih n (Nat.lt_succ_self n) (hdir.entry htree hk) (hvisit k hk), ?_⟩
    have hbelow : ∀ {k p : Bytes}, k ∈ m.entries dir → p ∈ m.found n k → p = k ∨ Below m k p := by
      intro k p hk hp
      exact ((hdir.entry htree hk).leads_iff htree hshown).1 ((mem_visit_iff hfaults (hvisit k hk) p).1 hp).2
    refine (nodup_entries m dir).imp_of_mem fun {k k'} hk hk' hne p hp hp' => hne ?_
    exact hdir.apart htree hk hk' (hbelow hk hp) (hbelow hk' hp')

theorem Straight.filesBelow (hshown : ShownInDirectories m.nodes) {dir : Bytes} (hdir : Straight m dir)
    (hisDir : m.IsDirectory dir) :
    ∃ files, (Store.memory m).filesBelow dir = .ok files ∧ files.Nodup ∧
      ∀ p, p ∈ files ↔ m.IsFile p ∧ Below m dir p := by
  have hvisit : ∃ files, m.visit (m.longestPath + 1 + 1) dir = .ok files := by
    refine ⟨_, (visit_eq_ok_iff hfaults).2 (.inr ⟨by rwa [hdir.key], _, rfl, fun k hk => ?_, rfl⟩)⟩
    rw [hdir.key] at hk
    obtain ⟨entry, hentry, -⟩ := mem_entries.1 hk
    have hkey := isKey_of_mem_entries htree hk
    rw [hdir.join_base htree hk]
    exact exists_visit htree hfaults hkey.key_ne_root (by rw [hkey.key]; exact Maps.mem_of_getElem? hentry) _ (by omega)
  obtain ⟨files, hfiles⟩ := hvisit
  refine ⟨files, hfiles, hdir.nodup_visit htree hfaults hshown hfiles, fun p => ?_⟩
  rw [mem_visit_iff hfaults hfiles, hdir.leads_iff htree hshown]
  constructor
  · rintro ⟨hfile, rfl | hbelow⟩
    · rw [hdir.key] at hfile
      exact absurd hisDir hfile.not_isDirectory
    · rw [(hdir.of_below htree hbelow).1.key] at hfile
      exact ⟨hfile, hbelow⟩
  · rintro ⟨hfile, hbelow⟩
    rw [(hdir.of_below htree hbelow).1.key]
    exact ⟨hfile, .inr hbelow⟩

end Walks

end Memory

end LineCoverage
