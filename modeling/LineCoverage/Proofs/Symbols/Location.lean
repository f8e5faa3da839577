import LineCoverage.Proofs.Maps
import LineCoverage.Symbols

/-!
# Where a binary is found

The binary of a module is looked for at the module's own path, and then in one search path after the other. The list
that is searched has lost its empty and its repeated search paths. The empty ones count for nothing, and a repeated
one finds nothing that was not found in it before.
-/

namespace LineCoverage

namespace Symbols

/-! ## Places -/

/-- There is something at a path, and it is no directory. -/
def HasFile (s : Store) (path : Bytes) : Prop := s.stat path = .ok false

/-- The places in the search paths as they are given, one search path after the other. -/
def placesIn (module : Bytes) : List Bytes → List Bytes
  | [] => []
  | dir :: rest =>
    if dir = [] then placesIn module rest
    else
      Path.join dir (Path.base module) :: Path.join dir (Path.base module ++ utf8 ".debug") ::
        Path.join dir module :: placesIn module rest

/-- The path is one of the three places in a search path. -/
def IsPlaceIn (module dir path : Bytes) : Prop :=
  path = Path.join dir (Path.base module) ∨ path = Path.join dir (Path.base module ++ utf8 ".debug") ∨
    path = Path.join dir module

/-- The module's own path, or a place in some search path. -/
def IsPlace (searchPaths : List Bytes) (module path : Bytes) : Prop :=
  path = module ∨ ∃ dir ∈ searchPaths, dir ≠ [] ∧ IsPlaceIn module dir path

/-- The first of the paths with a file. -/
def FirstFile (s : Store) (paths : List Bytes) (path : Bytes) : Prop :=
  ∃ before after, paths = before ++ path :: after ∧ HasFile s path ∧ ∀ p ∈ before, ¬ HasFile s p

theorem isFile_iff (s : Store) (path : Bytes) : isFile s path = true ↔ HasFile s path := by
  unfold isFile HasFile
  cases s.stat path with
  | ok isDir => simp
  | error e => simp

theorem mem_placesIn {searchPaths : List Bytes} {module path : Bytes} :
    path ∈ placesIn module searchPaths ↔ ∃ dir ∈ searchPaths, dir ≠ [] ∧ IsPlaceIn module dir path := by
  induction searchPaths with
  | nil => simp [placesIn]
  | cons dir rest ih =>
    unfold placesIn
    split
    · rename_i hempty
      simp [ih, hempty]
    · rename_i hdir
      simp [ih, hdir, IsPlaceIn, or_assoc]

theorem isPlace_iff {searchPaths : List Bytes} {module path : Bytes} :
    IsPlace searchPaths module path ↔ path ∈ module :: placesIn module searchPaths := by
  rw [IsPlace, List.mem_cons, mem_placesIn]

/-! ## The search -/

theorem candidates_nonempty (searchPaths : List Bytes) (module : Bytes) :
    candidates (searchPaths.filter (· ≠ [])) module = module :: placesIn module searchPaths := by
  unfold candidates
  simp only [List.cons.injEq, true_and]
  induction searchPaths with
  | nil => rfl
  | cons dir rest ih =>
    unfold placesIn
    split
    · rename_i hempty
      simpa [hempty] using ih
    · rename_i hdir
      rw [List.filter_cons_of_pos (by simpa using hdir), List.flatMap_cons, ih]
      rfl

theorem find?_candidates_make (p : Bytes → Bool) (searchPaths : List Bytes) (cacheSize : Int64) (module : Bytes) :
    (candidates (make searchPaths cacheSize).searchPaths module).find? p =
      (module :: placesIn module searchPaths).find? p := by
  rw [← candidates_nonempty]
  unfold candidates make
  simp only [List.find?_cons, List.find?_flatMap, Maps.findSome?_eraseDups]

theorem find?_eq_some_iff (s : Store) (paths : List Bytes) (path : Bytes) :
    paths.find? (isFile s) = some path ↔ FirstFile s paths path := by
  have hnone : ∀ p, (!isFile s p) = true ↔ ¬ HasFile s p := by
    intro p
    rw [← isFile_iff]
    simp
  rw [List.find?_eq_some_iff_append, isFile_iff]
  constructor
  · rintro ⟨hfile, before, after, hpaths, hbefore⟩
    exact ⟨before, after, hpaths, hfile, fun p hp => (hnone p).1 (hbefore p hp)⟩
  · rintro ⟨before, after, hpaths, hfile, hbefore⟩
    exact ⟨hfile, before, after, hpaths, fun p hp => (hnone p).2 (hbefore p hp)⟩

section Locate

variable {s : Store} {searchPaths : List Bytes} {cacheSize : Int64} {module : Bytes}

theorem locate_eq_ok_iff {path : Bytes} :
    (make searchPaths cacheSize).locate s module = .ok path ↔
      FirstFile s (module :: placesIn module searchPaths) path := by
  unfold locate
  rw [find?_candidates_make, ← find?_eq_some_iff]
  cases (module :: placesIn module searchPaths).find? (isFile s) with
  | some found => simp
  | none => simp

theorem locate_eq_error_iff {e : SymbolError} :
    (make searchPaths cacheSize).locate s module = .error e ↔
      e = .notFound module ∧ ¬ ∃ path, IsPlace searchPaths module path ∧ HasFile s path := by
  have hnone : (module :: placesIn module searchPaths).find? (isFile s) = none ↔
      ¬ ∃ path, IsPlace searchPaths module path ∧ HasFile s path := by
    simp only [List.find?_eq_none, isFile_iff, isPlace_iff, not_exists, not_and]
  unfold locate
  rw [find?_candidates_make, ← hnone]
  cases (module :: placesIn module searchPaths).find? (isFile s) with
  | some found => simp
  | none => simp [eq_comm]

end Locate

/-- The binary of a module is located exactly if its own path or a place in a search path has a file. What is located
is then the first such place, the search paths taken as they were given, repeated ones again and empty ones not at
all. If there is none, the module is reported as not found. -/
theorem first_file_located (s : Store) (searchPaths : List Bytes) (cacheSize : Int64) (module : Bytes) :
    let located := (make searchPaths cacheSize).locate s module
    ((∃ path, located = .ok path) ↔ ∃ path, IsPlace searchPaths module path ∧ HasFile s path) ∧
    (∀ path, located = .ok path ↔ FirstFile s (module :: placesIn module searchPaths) path) ∧
    ∀ e, located = .error e ↔
      e = .notFound module ∧ ¬ ∃ path, IsPlace searchPaths module path ∧ HasFile s path := by
  refine ⟨?_, fun path => locate_eq_ok_iff, fun e => locate_eq_error_iff⟩
  constructor
  · rintro ⟨path, hpath⟩
    obtain ⟨before, after, hplaces, hfile, _⟩ := locate_eq_ok_iff.1 hpath
    exact ⟨path, isPlace_iff.2 (by simp [hplaces]), hfile⟩
  · intro hplace
    cases hlocated : (make searchPaths cacheSize).locate s module with
    | ok found => exact ⟨found, rfl⟩
    | error e => exact absurd hplace (locate_eq_error_iff.1 hlocated).2

example :
    let s := Store.memory ((Memory.empty.putFile (utf8 "/syms/a.debug") []).putFile (utf8 "a") [])
    (make [utf8 "/proj", [], utf8 "/syms", utf8 "/proj"] 0).locate s (utf8 "/bin/a") = .ok (utf8 "/syms/a.debug") := by
  decide +kernel

end Symbols

end LineCoverage
