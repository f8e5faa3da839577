import LineCoverage.Proofs.Maps
import LineCoverage.Trace.Files

/-!
# Reading trace files

A listing filters what a walk has found. The blocks of several files are those of each file, one behind the other, and
there are none if one of the files cannot be read.
-/

namespace LineCoverage

namespace Trace

theorem list_of_filesBelow {s : Store} {dir : Bytes} {files : List Bytes} (h : s.filesBelow dir = .ok files) :
    list s dir = .ok ((files.filter isFilePath).mergeSort (· ≤ ·)) := by
  unfold list
  rw [h]
  rfl

theorem list_eq_ok_iff {s : Store} {dir : Bytes} {files : List Bytes} :
    list s dir = .ok files ↔
      ∃ found, s.filesBelow dir = .ok found ∧ files = (found.filter isFilePath).mergeSort (· ≤ ·) := by
  cases h : s.filesBelow dir with
  | error e => simp [list, h, bind, Except.bind]
  | ok found => simp [list_of_filesBelow h, eq_comm]

theorem getD_append (all more : BlockMap) (module : Bytes) :
    (append all more).getD module [] = all.getD module [] ++ more.getD module [] := by
  have hfold := Maps.getElem?_foldl_alter_of_perm (List.Perm.refl more.toList)
    (fun blocks old => some (old.getD [] ++ blocks)) all module
  have happend : append all more = more.toList.foldl
      (fun all e => all.alter e.1 fun old => some (old.getD [] ++ e.2)) all := by
    rw [append, Std.ExtTreeMap.foldl_eq_foldl_toList]
  rw [← happend] at hfold
  simp only [Std.ExtTreeMap.getD_eq_getD_getElem?, hfold]
  cases more[module]? with
  | none => simp
  | some blocks => simp

section Files

variable {s : Store} {all result : BlockMap} {path : Bytes} {files rest : List Bytes}

theorem aggregateFrom_cons_of_error {e : FileReadError} (h : readFile s path = .error e) :
    aggregateFrom s all (path :: rest) = .error e := by
  rw [aggregateFrom, h]
  rfl

theorem aggregateFrom_cons_of_ok {blocks : BlockMap} (h : readFile s path = .ok blocks) :
    aggregateFrom s all (path :: rest) = aggregateFrom s (append all blocks) rest := by
  rw [aggregateFrom, h]
  rfl

theorem exists_aggregateFrom_iff :
    (∃ result, aggregateFrom s all files = .ok result) ↔ ∀ path ∈ files, ∃ blocks, readFile s path = .ok blocks := by
  induction files generalizing all with
  | nil => simp [aggregateFrom]
  | cons path rest ih =>
    cases h : readFile s path with
    | error e => simp [aggregateFrom_cons_of_error h, h]
    | ok blocks => simp [aggregateFrom_cons_of_ok h, ih, h]

/-- The blocks of a module in a trace file. -/
def blocksIn (s : Store) (module path : Bytes) : List Block :=
  match readFile s path with
  | .ok blocks => blocks.getD module []
  | .error _ => []

theorem getD_aggregateFrom (h : aggregateFrom s all files = .ok result) (module : Bytes) :
    result.getD module [] = all.getD module [] ++ files.flatMap (blocksIn s module) := by
  induction files generalizing all with
  | nil =>
    cases h
    simp
  | cons path rest ih =>
    cases hread : readFile s path with
    | error e =>
      rw [aggregateFrom_cons_of_error hread] at h
      cases h
    | ok blocks =>
      rw [aggregateFrom_cons_of_ok hread] at h
      rw [ih h, getD_append, List.flatMap_cons, List.append_assoc]
      simp [blocksIn, hread]

theorem aggregateFrom_congr {s' : Store}
    (h : ∀ path ∈ files, ∀ blocks, readFile s path = .ok blocks → readFile s' path = .ok blocks)
    (hresult : aggregateFrom s all files = .ok result) : aggregateFrom s' all files = .ok result := by
  induction files generalizing all with
  | nil => exact hresult
  | cons path rest ih =>
    cases hpath : readFile s path with
    | error e =>
      rw [aggregateFrom_cons_of_error hpath] at hresult
      cases hresult
    | ok blocks =>
      rw [aggregateFrom_cons_of_ok hpath] at hresult
      rw [aggregateFrom_cons_of_ok (h path List.mem_cons_self blocks hpath)]
      exact ih (fun p hp => h p (List.mem_cons_of_mem _ hp)) hresult

end Files

end Trace

end LineCoverage
