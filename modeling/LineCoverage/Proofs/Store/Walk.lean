import LineCoverage.Proofs.Store.Tree

/-!
# Walks through a store

A walk that comes to an end has found the files that its path leads to. If it looks for wanted files, new directories
with nothing wanted in them, and files that are not wanted, do not change what it finds.
-/

namespace LineCoverage

namespace Memory

/-! ## Walks in a store without faults -/

def visit (m : Memory) (fuel : Nat) (path : Bytes) : Except FileError (List Bytes) := do
  Store.walkFrom (.memory m) fuel path (← (Store.memory m).lstat path)

def found (m : Memory) (fuel : Nat) (path : Bytes) : List Bytes :=
  match m.visit fuel path with
  | .ok files => files
  | .error _ => []

theorem filesBelow_eq_visit (m : Memory) (path : Bytes) :
    (Store.memory m).filesBelow path = m.visit (m.longestPath + 2) path := rfl

theorem found_of_visit {m : Memory} {fuel : Nat} {path : Bytes} {files : List Bytes} (h : m.visit fuel path = .ok files) :
    m.found fuel path = files := by
  simp [found, h]

theorem walkNames_cons (m : Memory) (fuel : Nat) (dir name : Bytes) (rest : List Bytes) :
    Store.walkNames (.memory m) fuel dir (name :: rest) = (do
      let files ← m.visit fuel (Path.join dir name)
      let more ← Store.walkNames (.memory m) fuel dir rest
      pure (files ++ more)) := by
  rw [Store.walkNames]
  unfold visit
  cases (Store.memory m).lstat (Path.join dir name) <;> rfl

theorem walkNames_eq_ok_iff {m : Memory} {fuel : Nat} {dir : Bytes} {names files : List Bytes} :
    Store.walkNames (.memory m) fuel dir names = .ok files ↔
      (∀ name ∈ names, ∃ some, m.visit fuel (Path.join dir name) = .ok some) ∧
        files = names.flatMap fun name => m.found fuel (Path.join dir name) := by
  induction names generalizing files with
  | nil => simp [Store.walkNames, eq_comm]
  | cons name rest ih =>
    rw [walkNames_cons]
    cases hvisit : m.visit fuel (Path.join dir name) with
    | error e => simp [bind, Except.bind, hvisit]
    | ok first =>
      cases hrest : Store.walkNames (.memory m) fuel dir rest with
      | error e =>
        have hno : ∀ files, ¬ Store.walkNames (.memory m) fuel dir rest = .ok files := by simp [hrest]
        simp only [bind, Except.bind, reduceCtorEq, false_iff, not_and]
        intro hall
        exact absurd (ih.2 ⟨fun n hn => hall n (List.mem_cons_of_mem _ hn), rfl⟩) (hno _)
      | ok more =>
        obtain ⟨hall, hmore⟩ := ih.1 hrest
        have hfound : ∀ name' ∈ name :: rest, ∃ some, m.visit fuel (Path.join dir name') = .ok some := by
          intro name' hname'
          rcases List.mem_cons.1 hname' with rfl | hname'
          · exact ⟨first, hvisit⟩
          · exact hall name' hname'
        rw [and_iff_right hfound, List.flatMap_cons, found_of_visit hvisit, ← hmore]
        simp [bind, Except.bind, pure, Except.pure, eq_comm]

theorem visit_eq {m : Memory} (h : m.faults = []) (fuel : Nat) (path : Bytes) :
    m.visit fuel path =
      match m.nodes[key path]? with
      | none => .error (.absent (key path))
      | some node =>
        if node.isDir then
          match fuel with
          | 0 => .error (.system "walk" path .endless)
          | fuel + 1 => Store.walkNames (.memory m) fuel path (m.namesIn (key path))
        else .ok [path] := by
  unfold visit Store.lstat stat find?
  simp only [faultAt_of_nil h]
  cases hnode : m.nodes[key path]? with
  | none => rfl
  | some node =>
    simp only [bind, Except.bind, pure, Except.pure]
    rw [Store.walkFrom.eq_def]
    split
    · cases fuel with
      | zero => rfl
      | succ fuel => simp [Store.names, Memory.names, faultAt_of_nil h, find?, hnode, bind, Except.bind, pure, Except.pure]
    · rfl

/-! ## Entries -/

def entries (m : Memory) (dir : Bytes) : List Bytes :=
  (m.nodes.toList.filter fun (p, node) => node.listed ∧ p ≠ root ∧ parent p = dir).map Prod.fst

theorem namesIn_perm (m : Memory) (dir : Bytes) : (m.namesIn dir).Perm ((m.entries dir).map Path.base) := by
  unfold namesIn entries
  rw [List.map_map]
  exact List.mergeSort_perm _ _

theorem mem_entries {m : Memory} {dir k : Bytes} :
    k ∈ m.entries dir ↔ ∃ node, m.nodes[k]? = some node ∧ node.listed = true ∧ k ≠ root ∧ parent k = dir := by
  simp [entries, Std.ExtTreeMap.mem_toList_iff_getElem?_eq_some]

theorem parent_of_mem_entries {m : Memory} {dir k : Bytes} (h : k ∈ m.entries dir) : parent k = dir := by
  obtain ⟨-, -, -, -, hparent⟩ := mem_entries.1 h
  exact hparent

theorem nodup_entries (m : Memory) (dir : Bytes) : (m.entries dir).Nodup := by
  unfold entries
  exact (Maps.nodup_names_toList m.nodes).sublist (List.filter_sublist.map Prod.fst)

private theorem length_le_foldl_max (l : List (Bytes × Node)) (n : Nat) :
    n ≤ l.foldl (fun n e => max n e.1.length) n ∧ ∀ e ∈ l, e.1.length ≤ l.foldl (fun n e => max n e.1.length) n := by
  induction l generalizing n with
  | nil => simp
  | cons e rest ih =>
    obtain ⟨hstart, hrest⟩ := ih (max n e.1.length)
    refine ⟨(Nat.le_max_left _ _).trans hstart, fun x hx => ?_⟩
    rcases List.mem_cons.1 hx with rfl | hx
    · exact (Nat.le_max_right _ _).trans hstart
    · exact hrest x hx

theorem length_le_longestPath {m : Memory} {k : Bytes} (h : k ∈ m.nodes) : k.length ≤ m.longestPath := by
  obtain ⟨node, hnode⟩ : ∃ node, m.nodes[k]? = some node := by
    rwa [Std.ExtTreeMap.mem_iff_isSome_getElem?, Option.isSome_iff_exists] at h
  unfold longestPath
  rw [Std.ExtTreeMap.foldl_eq_foldl_toList]
  exact (length_le_foldl_max m.nodes.toList 0).2 _ (Std.ExtTreeMap.mem_toList_iff_getElem?_eq_some.2 hnode)

/-! ## What a walk finds -/

/-- There is a file at the path. -/
def IsFile (m : Memory) (k : Bytes) : Prop := ∃ node : Node, m.nodes[k]? = some node ∧ node.isDir = false

/-- There is a directory at the path. -/
def IsDirectory (m : Memory) (k : Bytes) : Prop := ∃ node : Node, m.nodes[k]? = some node ∧ node.isDir = true

theorem IsFile.isDir_eq {m : Memory} {k : Bytes} {node : Node} (h : m.IsFile k) (hnode : m.nodes[k]? = some node) :
    node.isDir = false := by
  obtain ⟨file, hfile, hnoDir⟩ := h
  cases hnode.symm.trans hfile
  exact hnoDir

theorem IsFile.not_isDirectory {m : Memory} {k : Bytes} (h : m.IsFile k) : ¬ m.IsDirectory k := by
  rintro ⟨node, hnode, hdir⟩
  rw [h.isDir_eq hnode] at hdir
  cases hdir

/-- A path comes to itself, and a directory that it comes to takes it on to the names that the directory shows. -/
inductive Leads (m : Memory) (start : Bytes) : Bytes → Prop where
  | here : Leads m start start
  | into {path k : Bytes} (h : Leads m start path) (hdir : m.IsDirectory (key path)) (hk : k ∈ m.entries (key path)) :
      Leads m start (Path.join path (Path.base k))

theorem Leads.cons {m : Memory} {start k p : Bytes} (hdir : m.IsDirectory (key start)) (hk : k ∈ m.entries (key start))
    (h : Leads m (Path.join start (Path.base k)) p) : Leads m start p := by
  induction h with
  | here => exact .into .here hdir hk
  | into _ hdir' hk' ih => exact .into ih hdir' hk'

theorem Leads.cases_head {m : Memory} {start p : Bytes} (h : Leads m start p) :
    p = start ∨ m.IsDirectory (key start) ∧ ∃ k ∈ m.entries (key start), Leads m (Path.join start (Path.base k)) p := by
  induction h with
  | here => exact .inl rfl
  | into _ hdir hk ih =>
    rcases ih with rfl | ⟨hstart, k', hk', hleads⟩
    · exact .inr ⟨hdir, _, hk, .here⟩
    · exact .inr ⟨hstart, k', hk', .into hleads hdir hk⟩

section Visit

variable {m : Memory} (hfaults : m.faults = []) {fuel : Nat} {path : Bytes} {files : List Bytes}
include hfaults

/-- A walk that comes to an end was at a file, or came to an end at every entry of a directory. -/
theorem visit_eq_ok_iff :
    m.visit fuel path = .ok files ↔
      m.IsFile (key path) ∧ files = [path] ∨
      m.IsDirectory (key path) ∧ ∃ n, fuel = n + 1 ∧
        (∀ k ∈ m.entries (key path), ∃ inside, m.visit n (Path.join path (Path.base k)) = .ok inside) ∧
        files = (m.namesIn (key path)).flatMap fun name => m.found n (Path.join path name) := by
  rw [visit_eq hfaults]
  unfold IsFile IsDirectory
  cases hnode : m.nodes[key path]? with
  | none => simp
  | some node =>
    cases hdir : node.isDir with
    | false => simpa [hdir] using eq_comm
    | true =>
      cases fuel with
      | zero => simp [hdir]
      | succ n =>
        have hnames : (∀ name ∈ m.namesIn (key path), ∃ some, m.visit n (Path.join path name) = .ok some) ↔
            ∀ k ∈ m.entries (key path), ∃ inside, m.visit n (Path.join path (Path.base k)) = .ok inside := by
          simp only [(namesIn_perm m _).mem_iff, List.forall_mem_map]
        simp only [hdir, if_true, walkNames_eq_ok_iff, hnames]
        simp [hdir]

theorem mem_of_visit (h : m.visit fuel path = .ok files) : key path ∈ m.nodes := by
  rcases (visit_eq_ok_iff hfaults).1 h with ⟨⟨node, hnode, -⟩, -⟩ | ⟨⟨node, hnode, -⟩, -⟩ <;>
    exact Maps.mem_of_getElem? hnode

/-- A walk that comes to an end has found the files that its path leads to, and nothing else. -/
theorem mem_visit_iff (h : m.visit fuel path = .ok files) (p : Bytes) :
    p ∈ files ↔ m.IsFile (key p) ∧ m.Leads path p := by
  induction fuel using Nat.strongRecOn generalizing path files with
  | ind fuel ih =>
    rcases (visit_eq_ok_iff hfaults).1 h with ⟨hfile, rfl⟩ | ⟨hdir, n, rfl, hinside, rfl⟩
    · rw [List.mem_singleton]
      constructor
      · rintro rfl
        exact ⟨hfile, .here⟩
      · rintro ⟨-, hleads⟩
        exact hleads.cases_head.resolve_right fun hinto => hfile.not_isDirectory hinto.1
    · have hentry : ∀ k ∈ m.entries (key path), p ∈ m.found n (Path.join path (Path.base k)) ↔
          m.IsFile (key p) ∧ m.Leads (Path.join path (Path.base k)) p := by
        intro k hk
        obtain ⟨inside, hvisit⟩ := hinside k hk
        rw [found_of_visit hvisit]
        exact ih n (Nat.lt_succ_self n) hvisit
      rw [((namesIn_perm m _).flatMap_right _).mem_iff, List.flatMap_map, List.mem_flatMap]
      constructor
      · rintro ⟨k, hk, hp⟩
        obtain ⟨hfile, hleads⟩ := (hentry k hk).1 hp
        exact ⟨hfile, hleads.cons hdir hk⟩
      · rintro ⟨hfile, hleads⟩
        rcases hleads.cases_head with rfl | ⟨-, k, hk, hleads⟩
        · exact absurd hdir hfile.not_isDirectory
        · exact ⟨k, hk, (hentry k hk).2 ⟨hfile, hleads⟩⟩

end Visit

/-! ## Growing -/

section Grows

variable (wanted : Bytes → Bool)

/-- A node that a walk for wanted files does not notice: a directory that was not there, or a file that is not
wanted. -/
def Unnoticed (m : Memory) (k : Bytes) (node : Node) : Prop :=
  m.nodes[k]? = none ∧ node.isDir = true ∨ node.isDir = false ∧ wanted k = false

/-- What was there is still there, and what else is shown now goes unnoticed. -/
structure Grows (m m' : Memory) : Prop where
  tree : IsTree m.nodes
  keys : ∀ k ∈ m'.nodes, key k = k
  faults : m.faults = []
  faults' : m'.faults = []
  kept : ∀ (k : Bytes) (node : Node), m.nodes[k]? = some node → ∃ node' : Node, m'.nodes[k]? = some node' ∧
    node'.isDir = node.isDir ∧ (node.listed = true → node'.listed = true)
  fresh : ∀ (k : Bytes) (node' : Node), m'.nodes[k]? = some node' → node'.listed = true →
    (∃ node : Node, m.nodes[k]? = some node ∧ node.listed = true) ∨ Unnoticed wanted m k node'

variable {wanted} {m m' : Memory} (hg : Grows wanted m m')
include hg

theorem Grows.isKey {k dir : Bytes} (h : k ∈ m'.entries dir) : IsKey k := by
  obtain ⟨node, hnode, -, hroot, -⟩ := mem_entries.1 h
  exact ⟨hg.keys k (Maps.mem_of_getElem? hnode), hroot⟩

theorem Grows.entries_subset {k dir : Bytes} (h : k ∈ m.entries dir) : k ∈ m'.entries dir := by
  obtain ⟨node, hnode, hlisted, hroot, hparent⟩ := mem_entries.1 h
  obtain ⟨node', hnode', -, hlisted'⟩ := hg.kept k node hnode
  exact mem_entries.2 ⟨node', hnode', hlisted' hlisted, hroot, hparent⟩

theorem Grows.entries_perm (dir : Bytes) :
    (m'.entries dir).Perm (m.entries dir ++ (m'.entries dir).filter fun k => k ∉ m.entries dir) := by
  have hsplit := List.filter_append_perm (fun k => decide (k ∈ m.entries dir)) (m'.entries dir)
  have hold : ((m'.entries dir).filter fun k => k ∈ m.entries dir).Perm (m.entries dir) := by
    rw [List.perm_ext_iff_of_nodup ((nodup_entries m' dir).filter _) (nodup_entries m dir)]
    intro k
    simp only [List.mem_filter, decide_eq_true_eq, and_iff_right_iff_imp]
    exact hg.entries_subset
  refine hsplit.symm.trans (hold.append ?_)
  simp

theorem Grows.unnoticed {k dir : Bytes} (h : k ∈ m'.entries dir) (hnew : k ∉ m.entries dir) :
    ∃ node', m'.nodes[k]? = some node' ∧ Unnoticed wanted m k node' := by
  obtain ⟨node', hnode', hlisted, hroot, hparent⟩ := mem_entries.1 h
  refine ⟨node', hnode', (hg.fresh k node' hnode' hlisted).resolve_left ?_⟩
  rintro ⟨node, hnode, hlisted⟩
  exact hnew (mem_entries.2 ⟨node, hnode, hlisted, hroot, hparent⟩)

theorem Grows.visit_unnoticed {k : Bytes} {node' : Node} (hk : IsKey k) (hnode' : m'.nodes[k]? = some node')
    (hunnoticed : Unnoticed wanted m k node') (fuel : Nat) (hfuel : m'.longestPath < fuel + k.length) :
    ∃ files, m'.visit fuel k = .ok files ∧ files.filter wanted = [] := by
  induction fuel generalizing k node' with
  | zero =>
    have hlong := length_le_longestPath (Maps.mem_of_getElem? hnode')
    omega
  | succ fuel ih =>
    rcases hunnoticed with ⟨hnone, hdir⟩ | ⟨hfile, hname⟩
    · -- The directory was not there, so nothing in it was.
      have hinside : ∀ k' ∈ m'.entries k, ∃ files, m'.visit fuel (Path.join k (Path.base k')) = .ok files ∧
          files.filter wanted = [] := by
        intro k' hk'
        have hparent := parent_of_mem_entries hk'
        have hnew : k' ∉ m.entries k := by
          intro hold
          obtain ⟨node, hnode, -, hroot, -⟩ := mem_entries.1 hold
          have hthere := hg.tree.parents k' (Maps.mem_of_getElem? hnode) hroot
          rw [hparent, Std.ExtTreeMap.mem_iff_isSome_getElem?, hnone] at hthere
          cases hthere
        obtain ⟨node₁, hnode₁, hunnoticed₁⟩ := hg.unnoticed hk' hnew
        have hk₁ := hg.isKey hk'
        have hne : parent k' ≠ root := hparent ▸ hk.ne_root
        have hlonger := hk₁.length_parent hne
        rw [hk₁.join_base (hparent.trans hk.key.symm) hk.key_ne_root]
        exact ih hk₁ hnode₁ hunnoticed₁ (by rw [hparent] at hlonger; omega)
      refine ⟨_, (visit_eq_ok_iff hg.faults').2 (.inr ⟨⟨node', by rwa [hk.key], hdir⟩, fuel, rfl, ?_, rfl⟩), ?_⟩
      · rw [hk.key]
        intro k' hk'
        obtain ⟨files, hfiles, -⟩ := hinside k' hk'
        exact ⟨files, hfiles⟩
      · rw [hk.key, List.filter_flatMap, List.flatMap_eq_nil_iff]
        intro name hname
        obtain ⟨k', hk', rfl⟩ := List.mem_map.1 ((namesIn_perm m' k).mem_iff.1 hname)
        obtain ⟨files, hfiles, hnone⟩ := hinside k' hk'
        rw [found_of_visit hfiles, hnone]
    · exact ⟨_, (visit_eq_ok_iff hg.faults').2 (.inl ⟨⟨node', by rwa [hk.key], hfile⟩, rfl⟩), by simp [hname]⟩

theorem Grows.mem {k : Bytes} (h : k ∈ m.nodes) : k ∈ m'.nodes := by
  rw [Std.ExtTreeMap.mem_iff_isSome_getElem?, Option.isSome_iff_exists] at h ⊢
  obtain ⟨node, hnode⟩ := h
  obtain ⟨node', hnode', -⟩ := hg.kept k node hnode
  exact ⟨node', hnode'⟩

theorem Grows.flatMap_perm {path : Bytes} {fuel fuel' : Nat}
    (hold : ∀ k ∈ m.entries (key path), ∀ files, m.visit fuel (Path.join path (Path.base k)) = .ok files →
      ∃ files', m'.visit fuel' (Path.join path (Path.base k)) = .ok files' ∧
        (files'.filter wanted).Perm (files.filter wanted))
    (hnew : ∀ k ∈ m'.entries (key path), k ∉ m.entries (key path) →
      ∃ files', m'.visit fuel' (Path.join path (Path.base k)) = .ok files' ∧
        files'.filter wanted = [])
    (hvisit : ∀ k ∈ m.entries (key path), ∃ files, m.visit fuel (Path.join path (Path.base k)) = .ok files) :
    (((m'.namesIn (key path)).flatMap fun name => m'.found fuel' (Path.join path name)).filter
        wanted).Perm
      (((m.namesIn (key path)).flatMap fun name => m.found fuel (Path.join path name)).filter
        wanted) := by
  have hrest : ((m'.entries (key path)).filter fun k => k ∉ m.entries (key path)).flatMap (fun k =>
      (m'.found fuel' (Path.join path (Path.base k))).filter wanted) = [] := by
    rw [List.flatMap_eq_nil_iff]
    intro k hk
    rw [List.mem_filter, decide_eq_true_eq] at hk
    obtain ⟨files', hfiles', hnone⟩ := hnew k hk.1 hk.2
    rw [found_of_visit hfiles', hnone]
  rw [List.filter_flatMap, List.filter_flatMap]
  refine ((namesIn_perm m' _).flatMap_right _).trans (.trans ?_ ((namesIn_perm m _).symm.flatMap_right _))
  refine (((hg.entries_perm _).map Path.base).flatMap_right _).trans ?_
  rw [List.map_append, List.flatMap_append, List.flatMap_map, List.flatMap_map, List.flatMap_map, hrest,
    List.append_nil]
  refine List.Perm.flatMap_left _ fun k hk => ?_
  obtain ⟨files, hfiles⟩ := hvisit k hk
  obtain ⟨files', hfiles', hperm⟩ := hold k hk files hfiles
  rw [found_of_visit hfiles, found_of_visit hfiles']
  exact hperm

theorem Grows.visit_of_entries {path : Bytes} {fuel fuel' : Nat} {files : List Bytes}
    (hold : ∀ k ∈ m.entries (key path), ∀ files, m.visit fuel (Path.join path (Path.base k)) = .ok files →
      ∃ files', m'.visit fuel' (Path.join path (Path.base k)) = .ok files' ∧
        (files'.filter wanted).Perm (files.filter wanted))
    (hnew : ∀ k ∈ m'.entries (key path), k ∉ m.entries (key path) →
      ∃ files', m'.visit fuel' (Path.join path (Path.base k)) = .ok files' ∧
        files'.filter wanted = [])
    (h : m.visit (fuel + 1) path = .ok files) :
    ∃ files', m'.visit (fuel' + 1) path = .ok files' ∧
      (files'.filter wanted).Perm (files.filter wanted) := by
  rcases (visit_eq_ok_iff hg.faults).1 h with ⟨⟨node, hnode, hfile⟩, rfl⟩ | ⟨⟨node, hnode, hdir⟩, n, hn, hvisit, rfl⟩
  · obtain ⟨node', hnode', hkind, -⟩ := hg.kept _ node hnode
    exact ⟨_, (visit_eq_ok_iff hg.faults').2 (.inl ⟨⟨node', hnode', hkind.trans hfile⟩, rfl⟩), .refl _⟩
  · obtain rfl : fuel = n := Nat.succ.inj hn
    obtain ⟨node', hnode', hkind, -⟩ := hg.kept _ node hnode
    refine ⟨_, (visit_eq_ok_iff hg.faults').2
      (.inr ⟨⟨node', hnode', hkind.trans hdir⟩, fuel', rfl, fun k hk => ?_, rfl⟩), hg.flatMap_perm hold hnew hvisit⟩
    by_cases hthere : k ∈ m.entries (key path)
    · obtain ⟨files, hfiles⟩ := hvisit k hthere
      obtain ⟨files', hfiles', -⟩ := hold k hthere files hfiles
      exact ⟨files', hfiles'⟩
    · obtain ⟨files', hfiles', -⟩ := hnew k hk hthere
      exact ⟨files', hfiles'⟩

/-- What is found below a path other than the root. Each step down makes the path longer, so the walks do not end
early. -/
theorem Grows.visit {path : Bytes} (hpath : key path ≠ root) {fuel fuel' : Nat} {files : List Bytes}
    (hfuel : m.longestPath < fuel + (key path).length) (hfuel' : m'.longestPath < fuel' + (key path).length)
    (h : m.visit fuel path = .ok files) :
    ∃ files', m'.visit fuel' path = .ok files' ∧
      (files'.filter wanted).Perm (files.filter wanted) := by
  induction fuel generalizing path fuel' files with
  | zero =>
    have hlong := length_le_longestPath (mem_of_visit hg.faults h)
    omega
  | succ fuel ih =>
    obtain ⟨fuel', rfl⟩ : ∃ n, fuel' = n + 1 := by
      have hlong := length_le_longestPath (hg.mem (mem_of_visit hg.faults h))
      exact ⟨fuel' - 1, by omega⟩
    refine hg.visit_of_entries (fun k hk files hfiles => ?_) (fun k hk hnew => ?_) h
    · have hparent := parent_of_mem_entries hk
      have hkey := hg.isKey (hg.entries_subset hk)
      have hlonger := hkey.length_parent (hparent ▸ hpath)
      rw [hparent] at hlonger
      rw [hkey.join_base hparent hpath] at hfiles ⊢
      refine ih hkey.key_ne_root ?_ ?_ hfiles <;> rw [hkey.key] <;> omega
    · obtain ⟨node', hnode', hunnoticed⟩ := hg.unnoticed hk hnew
      have hparent := parent_of_mem_entries hk
      have hkey := hg.isKey hk
      have hlonger := hkey.length_parent (hparent ▸ hpath)
      rw [hparent] at hlonger
      rw [hkey.join_base hparent hpath]
      exact hg.visit_unnoticed hkey hnode' hunnoticed fuel' (by omega)

/-- What is found below any path. The root shows names of paths with and without a leading slash, so there the new
names have to lead to what they are names of. -/
theorem Grows.filesBelow {path : Bytes} {files : List Bytes}
    (hroot : key path = root → twoUp ∉ m.nodes ∧
      ∀ k ∈ m'.entries root, k ∉ m.entries root → Path.join path (Path.base k) = k)
    (h : (Store.memory m).filesBelow path = .ok files) :
    ∃ files', (Store.memory m').filesBelow path = .ok files' ∧
      (files'.filter wanted).Perm (files.filter wanted) := by
  rw [filesBelow_eq_visit] at h ⊢
  by_cases hpath : key path = root
  · obtain ⟨htwoUp, hjoin⟩ := hroot hpath
    refine hg.visit_of_entries (fun k hk files hfiles => ?_) (fun k hk hnew => ?_) h
    · rw [hpath] at hk
      have hkey := hg.isKey (hg.entries_subset hk)
      have hdots : Path.base k ≠ Path.dotDot := by
        intro hdots
        have heq := hkey.eq_twoUp (parent_of_mem_entries hk) hdots
        obtain ⟨node, hnode, -⟩ := mem_entries.1 hk
        exact htwoUp (heq ▸ Maps.mem_of_getElem? hnode)
      have hne := @key_join_ne_root path _ hkey.isElement_base hdots
      have hlong := List.length_pos_iff.2 (key_ne_nil (Path.join path (Path.base k)))
      exact hg.visit hne (by omega) (by omega) hfiles
    · rw [hpath] at hk hnew
      obtain ⟨node', hnode', hunnoticed⟩ := hg.unnoticed hk hnew
      rw [hjoin k hk hnew]
      exact hg.visit_unnoticed (hg.isKey hk) hnode' hunnoticed _ (by omega)
  · exact hg.visit hpath (by omega) (by omega) h

end Grows

end Memory

end LineCoverage
