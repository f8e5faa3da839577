import LineCoverage.Proofs.Maps
import LineCoverage.Proofs.Path
import LineCoverage.Store

/-!
# What changes in a memory store

Creating and filling a file changes the content of that file only. Around it no content changes, but
empty directories may turn up.
-/

namespace LineCoverage

namespace Memory

/-- The content of the node that is kept under a path. -/
def contentAt (m : Memory) (k : Bytes) : Option Bytes := m.nodes[k]?.map Node.content

/-- A content that was there stays; where nothing was, an empty directory may come. -/
def Keeps (before after : Option Bytes) : Prop := after = before ∨ before = none ∧ after = some []

theorem Keeps.refl (c : Option Bytes) : Keeps c c := .inl rfl

theorem Keeps.trans {a b c : Option Bytes} (hab : Keeps a b) (hbc : Keeps b c) : Keeps a c := by
  rcases hab with rfl | ⟨rfl, rfl⟩
  · exact hbc
  · rcases hbc with rfl | ⟨h, _⟩
    · exact .inr ⟨rfl, rfl⟩
    · cases h

theorem Keeps.eq_some {a : Bytes} {b : Option Bytes} (h : Keeps (some a) b) : b = some a := by
  rcases h with rfl | ⟨h, _⟩
  · rfl
  · cases h

/-! ## The operations -/

theorem keeps_linkParents (nodes : Std.ExtTreeMap Bytes Node) (parents : List Bytes) (k : Bytes) :
    Keeps (nodes[k]?.map Node.content) ((linkParents nodes parents)[k]?.map Node.content) := by
  induction parents generalizing nodes with
  | nil => exact .refl _
  | cons p above ih =>
    unfold linkParents
    cases hp : nodes[p]? with
    | some node =>
      simp only [Maps.getElem?_insert_eq]
      by_cases hk : p = k
      · subst hk
        simp [hp, Keeps]
      · simp [hk, Keeps]
    | none =>
      refine Keeps.trans ?_ (ih (nodes.insert p .directory))
      rw [Maps.getElem?_insert_eq]
      by_cases hk : p = k
      · subst hk
        simp [hp, Keeps, Node.directory]
      · simp [hk, Keeps]

theorem getElem?_linkParents (nodes : Std.ExtTreeMap Bytes Node) {parents : List Bytes} {k : Bytes}
    (h : k ∉ parents) : (linkParents nodes parents)[k]? = nodes[k]? := by
  induction parents generalizing nodes with
  | nil => rfl
  | cons p above ih =>
    rw [List.mem_cons, not_or] at h
    unfold linkParents
    split
    · rw [Maps.getElem?_insert_eq, if_neg (Ne.symm h.1)]
    · rw [ih _ h.2, Maps.getElem?_insert_eq, if_neg (Ne.symm h.1)]

theorem length_of_mem_parents {p k : Bytes} (h : k ∈ parents p) : k = root ∨ k.length < p.length := by
  induction p using parents.induct with
  | case1 => simp [parents] at h
  | case2 p hroot above hshort ih =>
    rw [parents, if_neg hroot, dif_pos hshort, List.mem_cons] at h
    rcases h with rfl | h
    · exact .inr hshort
    · rcases ih h with rfl | hlt
      · exact .inl rfl
      · exact .inr (hlt.trans hshort)
  | case3 p hroot above hlong =>
    rw [parents, if_neg hroot, dif_neg hlong, List.mem_singleton] at h
    exact .inl h

theorem contentAt_put (m : Memory) (path : Bytes) (node : Node) :
    (m.put path node).contentAt (key path) = some node.content := by
  refine Keeps.eq_some (Keeps.trans ?_ (keeps_linkParents (m.nodes.insert (key path) node) _ (key path)))
  rw [Maps.getElem?_insert_eq]
  simp [Keeps]

theorem keeps_put (m : Memory) {path k : Bytes} (node : Node) (h : key path ≠ k) :
    Keeps (m.contentAt k) ((m.put path node).contentAt k) := by
  refine Keeps.trans ?_ (keeps_linkParents (m.nodes.insert (key path) node) _ k)
  rw [Maps.getElem?_insert_eq, if_neg h]
  exact .refl _

theorem contentAt_put_of_ne (m : Memory) {path k : Bytes} (node : Node) (h : k ∉ key path :: parents (key path)) :
    (m.put path node).contentAt k = m.contentAt k := by
  rw [List.mem_cons, not_or] at h
  unfold contentAt put
  rw [getElem?_linkParents _ h.2, Maps.getElem?_insert_eq, if_neg (Ne.symm h.1)]

theorem contentAt_hideBelow (m : Memory) (path k : Bytes) : (m.hideBelow path).contentAt k = m.contentAt k := by
  unfold hideBelow contentAt
  simp only [Std.ExtTreeMap.getElem?_map]
  cases m.nodes[k]? with
  | none => rfl
  | some node =>
    simp only [Option.map_some]
    split <;> rfl

theorem contentAt_putFile (m : Memory) (path content : Bytes) :
    (m.putFile path content).contentAt (key path) = some content :=
  contentAt_put _ path (.file content)

theorem keeps_putFile (m : Memory) {path k : Bytes} (content : Bytes) (h : key path ≠ k) :
    Keeps (m.contentAt k) ((m.putFile path content).contentAt k) := by
  refine Keeps.trans ?_ (keeps_put _ _ h)
  split
  · rw [contentAt_hideBelow]
    exact .refl _
  · exact .refl _

theorem contentAt_putFile_of_ne (m : Memory) {path k : Bytes} (content : Bytes)
    (h : k ∉ key path :: parents (key path)) : (m.putFile path content).contentAt k = m.contentAt k := by
  unfold putFile
  rw [contentAt_put_of_ne _ _ h]
  split
  · exact contentAt_hideBelow m path k
  · rfl

theorem contentAt_putDirectory_of_ne (m : Memory) {path k : Bytes} (h : k ∉ key path :: parents (key path)) :
    (m.putDirectory path).contentAt k = m.contentAt k := by
  unfold putDirectory
  split
  · rfl
  · exact contentAt_put_of_ne m _ h

theorem keeps_putDirectory (m : Memory) (path k : Bytes) :
    Keeps (m.contentAt k) ((m.putDirectory path).contentAt k) := by
  unfold putDirectory
  split
  · exact .refl _
  · rename_i hnone
    by_cases hk : key path = k
    · subst hk
      refine .inr ⟨?_, contentAt_put m path .directory⟩
      simpa [contentAt] using hnone
    · exact keeps_put m .directory hk

theorem contentAt_append (m : Memory) (path data k : Bytes) :
    (m.append path data).contentAt k =
      if key path = k then (m.contentAt k).map (· ++ data) else m.contentAt k := by
  unfold append contentAt
  simp only [Std.ExtTreeMap.getElem?_modify, Std.LawfulEqCmp.compare_eq_iff_eq]
  split
  · rename_i h
    subst h
    cases m.nodes[key path]? <;> rfl
  · rfl

/-! ## Stores without faults -/

theorem faultAt_of_nil {m : Memory} (h : m.faults = []) (op : FileOp) (path : Bytes) :
    m.faultAt op path = .ok () := by
  simp [faultAt, h]

@[simp]
theorem faults_putDirectory (m : Memory) (path : Bytes) : (m.putDirectory path).faults = m.faults := by
  unfold putDirectory
  split <;> rfl

@[simp]
theorem readOnly_putDirectory (m : Memory) (path : Bytes) : (m.putDirectory path).readOnly = m.readOnly := by
  unfold putDirectory
  split <;> rfl

@[simp]
theorem faults_putFile (m : Memory) (path content : Bytes) : (m.putFile path content).faults = m.faults := by
  unfold putFile put
  simp only
  split <;> rfl

@[simp]
theorem readOnly_putFile (m : Memory) (path content : Bytes) : (m.putFile path content).readOnly = m.readOnly := by
  unfold putFile put
  simp only
  split <;> rfl

@[simp]
theorem faults_write (m : Memory) (path content : Bytes) : (m.write path content).faults = m.faults := by
  unfold write
  split <;> rfl

theorem makeDirs_eq {m : Memory} (h : m.faults = []) (path : Bytes) :
    m.makeDirs path = if m.readOnly then .error .refused else .ok (m.putDirectory path) := by
  unfold makeDirs checkWritable
  rw [faultAt_of_nil h]
  split <;> rfl

theorem create_eq {m : Memory} (h : m.faults = []) (path : Bytes) :
    m.create path = if m.readOnly then .error .refused else .ok (m.putFile path []) := by
  unfold create checkWritable
  rw [faultAt_of_nil h]
  split <;> rfl

theorem openFile_eq {m : Memory} (h : m.faults = []) (path : Bytes) :
    (Store.memory m).openFile path =
      match m.contentAt (key path) with
      | some content => .ok ⟨.ok content, .ok ()⟩
      | none => .error (.absent (key path)) := by
  unfold Store.openFile find? contentAt
  simp only [faultAt_of_nil h]
  cases m.nodes[key path]? <;> rfl

theorem fileContent_eq_ok_iff {m : Memory} (h : m.faults = []) {path content : Bytes} :
    (Store.memory m).fileContent path = .ok content ↔ m.contentAt (key path) = some content := by
  unfold Store.fileContent
  rw [openFile_eq h]
  cases m.contentAt (key path) with
  | none => simp [bind, Except.bind]
  | some c => simp [bind, Except.bind]

end Memory

end LineCoverage
