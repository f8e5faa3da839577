import LineCoverage.Proofs.Path.Entry
import LineCoverage.Proofs.Store.Memory

/-!
# Memory stores are trees

The paths in a store that was built by its operations are clean, and the directory of each is there too. What is in
a directory other than the root is found again under the directory's path and its own name.
-/

namespace LineCoverage

namespace Memory

/-! ## Keys -/

theorem key_of_ne_root {p : Bytes} (h : key p ≠ root) : key p = Path.clean p := by
  unfold key at h ⊢
  simp only at h ⊢
  split
  · rename_i hdots
    rw [if_pos hdots] at h
    exact absurd rfl h
  · rfl

theorem key_clean (p : Bytes) : key (Path.clean p) = key p := by
  unfold key
  rw [Path.clean_clean]

theorem key_root : key root = root := by decide

@[simp]
theorem key_key (p : Bytes) : key (key p) = key p := by
  by_cases h : key p = root
  · rw [h, key_root]
  · conv => lhs; rw [key_of_ne_root h, key_clean]

theorem key_ne_nil (p : Bytes) : key p ≠ [] := by
  by_cases h : key p = root
  · rw [h]
    decide
  · rw [key_of_ne_root h]
    exact Path.clean_ne_nil p

theorem cases_of_key_eq_root {p : Bytes} (h : key p = root) :
    Path.normalElements p = [] ∨ Path.isAbsolute p = false ∧ Path.normalElements p = [Path.dotDot] := by
  have helements := Path.elements_clean p
  have habs := Path.isAbsolute_clean p
  unfold key at h
  simp only at h
  split at h
  · rename_i hdots
    rcases hdots with hdot | hdot
    · rw [hdot] at helements
      exact .inl (helements.symm.trans (by decide))
    · rw [hdot] at helements habs
      exact .inr ⟨habs.symm.trans (by decide), helements.symm.trans (by decide)⟩
  · rw [h] at helements
    exact .inl (helements.symm.trans (by decide))

theorem normalElements_ne_nil {p : Bytes} (h : key p ≠ root) : Path.normalElements p ≠ [] := by
  intro hnil
  apply h
  unfold key
  rw [Path.clean_eq_ofElements, hnil]
  cases Path.isAbsolute p <;> decide

theorem parent_of_splits {k q e : Bytes} (h : Path.Splits k q e) : parent k = key q := by
  rw [parent, h.dir, key_clean]

/-- A path under which a node other than the root can be kept. -/
structure IsKey (k : Bytes) : Prop where
  key : key k = k
  ne_root : k ≠ root

section IsKey

variable {k : Bytes} (h : IsKey k)
include h

theorem IsKey.key_ne_root : Memory.key k ≠ root := by
  rw [h.key]
  exact h.ne_root

theorem IsKey.clean : Path.clean k = k := by rw [← key_of_ne_root h.key_ne_root, h.key]

theorem IsKey.exists_splits : ∃ q e, Path.Splits k q e :=
  Path.exists_splits h.clean (normalElements_ne_nil h.key_ne_root)

theorem IsKey.isElement_base : Path.IsElement (Path.base k) := by
  obtain ⟨q, e, hsplits⟩ := h.exists_splits
  rw [hsplits.base]
  exact hsplits.isElement

theorem IsKey.join_base {path : Bytes} (hparent : parent k = Memory.key path) (hroot : Memory.key path ≠ root) :
    Path.join path (Path.base k) = k := by
  obtain ⟨q, e, hsplits⟩ := h.exists_splits
  have hq : Memory.key q = Memory.key path := by rw [← hparent, parent_of_splits hsplits]
  have hclean : Path.clean path = Path.clean q := by
    rw [← key_of_ne_root hroot, ← hq, key_of_ne_root (hq ▸ hroot)]
  obtain ⟨habs, hpath⟩ := Path.eq_of_clean_eq hclean
  exact hsplits.join h.clean (habs.trans hsplits.isAbsolute) hpath

theorem IsKey.length_parent (hroot : parent k ≠ root) : (parent k).length < k.length := by
  obtain ⟨q, e, hsplits⟩ := h.exists_splits
  rw [parent_of_splits hsplits] at hroot ⊢
  have hstem := Path.length_stem (normalElements_ne_nil hroot)
  have he := List.length_pos_iff.2 hsplits.isElement.nonempty
  rw [key_of_ne_root hroot, hsplits.eq, List.length_append]
  omega

theorem IsKey.parents : parents k = parent k :: Memory.parents (parent k) := by
  rw [Memory.parents, if_neg h.ne_root]
  simp only
  by_cases hroot : parent k = root
  · have hnone : Memory.parents root = [] := by simp [Memory.parents]
    rw [hroot, hnone]
    split <;> rfl
  · rw [dif_pos (h.length_parent hroot)]

def twoUp : Bytes := utf8 "../.."

theorem IsKey.eq_twoUp (hroot : parent k = root) (hbase : Path.base k = Path.dotDot) : k = twoUp := by
  obtain ⟨q, e, hsplits⟩ := h.exists_splits
  obtain rfl : e = Path.dotDot := hsplits.base.symm.trans hbase
  have hq : Memory.key q = root := by rw [← hroot, parent_of_splits hsplits]
  have hpush := hsplits.push
  have hclean := Path.clean_eq_ofElements k
  rw [hsplits.elements] at hclean
  rcases cases_of_key_eq_root hq with hnil | ⟨habs, hdots⟩
  · -- The parent itself, which is no key.
    rw [hnil] at hpush hclean
    have hrelative : Path.isAbsolute k = false := by
      cases habs : Path.isAbsolute k with
      | false => rfl
      | true =>
        rw [habs] at hpush
        revert hpush
        decide
    rw [hrelative] at hclean
    have hkey := h.key_ne_root
    rw [Memory.key, hclean] at hkey
    exact absurd (by decide) hkey
  · rw [← hsplits.isAbsolute, habs, hdots] at hclean
    rw [← h.clean, hclean]
    decide

end IsKey

theorem key_join_ne_root {path e : Bytes} (he : Path.IsElement e) (hdots : e ≠ Path.dotDot) :
    key (Path.join path e) ≠ root := by
  intro hroot
  have hjoin := Path.normalElements_join path he hdots
  rcases cases_of_key_eq_root hroot with h | ⟨-, h⟩
  · simp [hjoin] at h
  · rw [hjoin] at h
    have hlast := congrArg List.getLast? h
    simp at hlast
    exact hdots hlast

/-- A name in the root leads to the entry it is the name of if the entry is on the way from the root, as it is
spelled, to something below it. -/
theorem IsKey.join_base_root {k dir : Bytes} (h : IsKey k) (hparent : parent k = root) (hdir : Memory.key dir = root)
    (habs : Path.isAbsolute k = Path.isAbsolute dir) {tail rest : List Bytes} (hdots : Path.dotDot ∉ rest)
    (helements : Path.normalElements k ++ tail = Path.normalElements dir ++ rest) :
    Path.join dir (Path.base k) = k := by
  obtain ⟨q, e, hsplits⟩ := h.exists_splits
  have hq : Memory.key q = root := by rw [← hparent, parent_of_splits hsplits]
  refine hsplits.join h.clean habs.symm ?_
  rw [hsplits.elements, List.append_assoc, List.singleton_append] at helements
  rcases cases_of_key_eq_root hq with hnil | ⟨-, hup⟩ <;> rcases cases_of_key_eq_root hdir with hnil' | ⟨-, hup'⟩
  · rw [hnil, hnil']
  · -- Then the entry would be the parent of the working directory, which is no key.
    rw [hnil, hup'] at helements
    obtain ⟨rfl, -⟩ : e = Path.dotDot ∧ tail = rest := by simpa using helements
    have htwoUp := h.eq_twoUp hparent hsplits.base
    have hlength := congrArg List.length hsplits.elements
    rw [hnil, htwoUp] at hlength
    exact absurd hlength (by decide)
  · rw [hup, hnil', List.nil_append] at helements
    rw [← helements] at hdots
    simp at hdots
  · rw [hup, hup']

theorem cases_of_mem_parents {p k : Bytes} (hp : key p = p) (hmem : k ∈ p :: parents p) (hk : k ≠ root) :
    IsKey k ∧ Path.isAbsolute k = Path.isAbsolute p ∧
      ∃ tail, Path.normalElements k ++ tail = Path.normalElements p := by
  rcases List.mem_cons.1 hmem with rfl | hmem
  · exact ⟨⟨hp, hk⟩, rfl, [], List.append_nil _⟩
  · have hpr : p ≠ root := by
      rintro rfl
      simp [parents] at hmem
    have hkey : IsKey p := ⟨hp, hpr⟩
    rw [hkey.parents] at hmem
    have hne : parent p ≠ root := by
      intro hroot
      rw [hroot] at hmem
      simp [parents, hk] at hmem
    have hshort := hkey.length_parent hne
    obtain ⟨hkey', habs, tail, htail⟩ := cases_of_mem_parents (p := parent p) (key_key _) hmem hk
    obtain ⟨q, e, hsplits⟩ := hkey.exists_splits
    have hq : parent p = Path.clean q := by
      rw [parent_of_splits hsplits] at hne ⊢
      rw [key_of_ne_root hne]
    refine ⟨hkey', ?_, tail ++ [e], ?_⟩
    · rw [habs, hq, Path.isAbsolute_clean, hsplits.isAbsolute]
    · rw [← List.append_assoc, htail, hq, Path.normalElements_clean, hsplits.elements]
termination_by p.length

/-! ## Trees -/

/-- All paths are clean, and the directory of each is there. -/
structure IsTree (nodes : Std.ExtTreeMap Bytes Node) : Prop where
  root : root ∈ nodes
  keys : ∀ k ∈ nodes, key k = k
  parents : ∀ k ∈ nodes, k ≠ Memory.root → parent k ∈ nodes

theorem mem_insert_iff {nodes : Std.ExtTreeMap Bytes Node} {p k : Bytes} {node : Node} :
    k ∈ nodes.insert p node ↔ k = p ∨ k ∈ nodes := by
  rw [Std.ExtTreeMap.mem_insert, Std.LawfulEqCmp.compare_eq_iff_eq, eq_comm]

theorem IsTree.congr {nodes nodes' : Std.ExtTreeMap Bytes Node} (h : IsTree nodes) (hmem : ∀ k, k ∈ nodes' ↔ k ∈ nodes) :
    IsTree nodes' := by
  refine ⟨(hmem _).2 h.root, fun k hk => h.keys k ((hmem k).1 hk), fun k hk hroot => ?_⟩
  exact (hmem _).2 (h.parents k ((hmem k).1 hk) hroot)

theorem isTree_linkParents {p : Bytes} (hp : key p = p) {nodes : Std.ExtTreeMap Bytes Node} (hroot : root ∈ nodes)
    (hkeys : ∀ k ∈ nodes, key k = k) (hparents : ∀ k ∈ nodes, k ≠ root → k ≠ p → parent k ∈ nodes) :
    IsTree (linkParents nodes (parents p)) := by
  by_cases hpr : p = root
  · subst hpr
    have hnone : parents root = [] := by simp [parents]
    rw [hnone]
    exact ⟨hroot, hkeys, fun k hk hne => hparents k hk hne hne⟩
  rw [IsKey.parents ⟨hp, hpr⟩, linkParents]
  split
  · rename_i node hnode
    have hthere : parent p ∈ nodes := Maps.mem_of_getElem? hnode
    have htree : IsTree nodes := by
      refine ⟨hroot, hkeys, fun k hk hne => ?_⟩
      by_cases hkp : k = p
      · rw [hkp]
        exact hthere
      · exact hparents k hk hne hkp
    refine htree.congr fun k => ?_
    rw [mem_insert_iff, or_iff_right_of_imp]
    rintro rfl
    exact hthere
  · rename_i hnone
    have hmissing : parent p ∉ nodes := by simp [Std.ExtTreeMap.mem_iff_isSome_getElem?, hnone]
    have hne : parent p ≠ root := by
      rintro h
      exact hmissing (h ▸ hroot)
    have hshort := IsKey.length_parent ⟨hp, hpr⟩ hne
    refine isTree_linkParents (key_key _) (mem_insert_iff.2 (.inr hroot)) ?_ ?_
    · intro k hk
      rcases mem_insert_iff.1 hk with rfl | hk
      · exact key_key _
      · exact hkeys k hk
    · intro k hk hkr hkp
      rcases mem_insert_iff.1 hk with rfl | hk
      · exact absurd rfl hkp
      · rw [mem_insert_iff]
        by_cases hkp : k = p
        · exact .inl (by rw [hkp])
        · exact .inr (hparents k hk hkr hkp)
termination_by p.length

theorem IsTree.put {m : Memory} (h : IsTree m.nodes) (path : Bytes) (node : Node) : IsTree (m.put path node).nodes := by
  refine isTree_linkParents (key_key _) (mem_insert_iff.2 (.inr h.root)) ?_ ?_
  · intro k hk
    rcases mem_insert_iff.1 hk with rfl | hk
    · exact key_key _
    · exact h.keys k hk
  · intro k hk hroot hkp
    rcases mem_insert_iff.1 hk with rfl | hk
    · exact absurd rfl hkp
    · exact mem_insert_iff.2 (.inr (h.parents k hk hroot))

theorem IsTree.putDirectory {m : Memory} (h : IsTree m.nodes) (path : Bytes) : IsTree (m.putDirectory path).nodes := by
  unfold Memory.putDirectory
  split
  · exact h
  · exact h.put path _

theorem IsTree.putFile {m : Memory} (h : IsTree m.nodes) (path content : Bytes) :
    IsTree (m.putFile path content).nodes := by
  refine IsTree.put ?_ path _
  split
  · refine h.congr fun k => ?_
    unfold hideBelow
    simp [Std.ExtTreeMap.mem_map]
  · exact h

theorem IsTree.write {m : Memory} (h : IsTree m.nodes) (path content : Bytes) : IsTree (m.write path content).nodes := by
  unfold Memory.write
  split
  · rename_i node hnode
    refine h.congr fun k => ?_
    rw [mem_insert_iff, or_iff_right_of_imp]
    rintro rfl
    exact Maps.mem_of_getElem? hnode
  · exact h.put path _

theorem IsTree.append {m : Memory} (h : IsTree m.nodes) (path data : Bytes) : IsTree (m.append path data).nodes := by
  refine h.congr fun k => ?_
  unfold Memory.append
  simp [Std.ExtTreeMap.mem_modify]

/-- A store that was built by making directories and creating, writing and appending files, with or without faults that
it was told to show. Nothing was removed from it. -/
inductive Built : Memory → Prop where
  | empty : Built .empty
  | putDirectory {m : Memory} (h : Built m) (path : Bytes) : Built (m.putDirectory path)
  | putFile {m : Memory} (h : Built m) (path content : Bytes) : Built (m.putFile path content)
  | write {m : Memory} (h : Built m) (path content : Bytes) : Built (m.write path content)
  | append {m : Memory} (h : Built m) (path data : Bytes) : Built (m.append path data)
  | told {m : Memory} (h : Built m) (faults : List Fault) (readOnly : Bool) : Built ⟨m.nodes, faults, readOnly⟩

theorem Built.isTree {m : Memory} (h : Built m) : IsTree m.nodes := by
  induction h with
  | empty =>
    have hmem : ∀ k, k ∈ Memory.empty.nodes ↔ k = root := by
      intro k
      rw [Memory.empty, mem_insert_iff]
      simp
    refine ⟨(hmem _).2 rfl, fun k hk => ?_, fun k hk hroot => absurd ((hmem k).1 hk) hroot⟩
    rw [(hmem k).1 hk, key_root]
  | putDirectory h path ih => exact ih.putDirectory path
  | putFile h path content ih => exact ih.putFile path content
  | write h path content ih => exact ih.write path content
  | append h path data ih => exact ih.append path data
  | told h faults readOnly ih => exact ih

end Memory

end LineCoverage
