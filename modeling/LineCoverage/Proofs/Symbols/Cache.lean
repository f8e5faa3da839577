import LineCoverage.Proofs.Symbols

/-!
# The cache of line tables cannot be seen

On a store that does not change, symbols answer every question as new ones would. Their tables are looked up through a
cache, and all else that an answer depends on stays as it is.
-/

namespace LineCoverage

namespace Symbols

/-! ## Questions -/

/-- A question about the lines of a module; it may come too late. -/
structure Question where
  canceled : Bool
  module : Bytes
  counts : AddressCount
  coveredFilesOnly : Bool

def Question.ask (q : Question) (s : Store) (sym : Symbols) : Except SymbolError FileLines × Symbols :=
  sym.coverage s q.canceled q.module q.counts q.coveredFilesOnly

/-- Asks the questions in turn: the answers, and the symbols afterwards. -/
def askAll (s : Store) (sym : Symbols) : List Question → List (Except SymbolError FileLines) × Symbols
  | [] => ([], sym)
  | q :: rest =>
    let (answer, sym) := q.ask s sym
    let (answers, sym) := askAll s sym rest
    (answer :: answers, sym)

/-! ## Questions as the cache sees them -/

def Question.query (q : Question) (s : Store) (sym : Symbols) : Keeper.Query Bytes LineTable FileLines SymbolError where
  key := if q.canceled then .error .canceled else sym.locate s q.module
  use := fun t => mapLines t q.counts q.coveredFilesOnly

variable (s : Store) (sym : Symbols)

theorem lineTable_eq_get (path : Bytes) :
    sym.lineTable s path = ((Cache.keeper.get (load s) sym.tables path).1,
      { sym with tables := (Cache.keeper.get (load s) sym.tables path).2 }) := by
  unfold lineTable Keeper.get
  cases hfind : sym.tables.find? path with
  | some t => simp [Cache.keeper, hfind]
  | none => cases hload : load s path <;> simp [Cache.keeper, hfind]

theorem ask_eq (q : Question) :
    q.ask s sym = ((Cache.keeper.ask (load s) sym.tables (q.query s sym)).1,
      { sym with tables := (Cache.keeper.ask (load s) sym.tables (q.query s sym)).2 }) := by
  unfold Question.ask coverage Keeper.ask Question.query
  cases q.canceled with
  | true => rfl
  | false =>
    simp only [Bool.false_eq_true, if_false]
    cases sym.locate s q.module with
    | error e => rfl
    | ok path => simp only [lineTable_eq_get]

theorem askAll_eq (questions : List Question) :
    askAll s sym questions =
      ((Cache.keeper.askAll (load s) sym.tables (questions.map fun q => q.query s sym)).1,
        { sym with tables := (Cache.keeper.askAll (load s) sym.tables (questions.map fun q => q.query s sym)).2 }) := by
  induction questions generalizing sym with
  | nil => rfl
  | cons q rest ih =>
    simp only [askAll, List.map_cons, Keeper.askAll, ask_eq, ih]
    rfl

/-! ## Their answers -/

variable {s sym}

theorem askAll_of_sound (h : Cache.keeper.Sound (load s) sym.tables) (questions : List Question) :
    (askAll s sym questions).1 = questions.map (fun q => (q.query s sym).answer (load s)) ∧
      Cache.keeper.Sound (load s) (askAll s sym questions).2.tables := by
  rw [askAll_eq]
  obtain ⟨hanswers, hlast⟩ := h.askAll (questions.map fun q => q.query s sym)
  exact ⟨by rw [hanswers, List.map_map]; rfl, hlast⟩

theorem ask_of_sound (h : Cache.keeper.Sound (load s) sym.tables) (q : Question) :
    (q.ask s sym).1 = (q.query s sym).answer (load s) := by
  rw [ask_eq]
  exact (h.ask _).1

theorem askAll_fits (h : sym.tables.entries.length ≤ sym.tables.capacity) (questions : List Question) :
    (askAll s sym questions).2.tables.capacity = sym.tables.capacity ∧
      (askAll s sym questions).2.tables.entries.length ≤ sym.tables.capacity := by
  rw [askAll_eq]
  refine Keeper.askAll_keeps (I := fun c : Cache LineTable => c.capacity = sym.tables.capacity ∧
    c.entries.length ≤ sym.tables.capacity) ?_ ⟨rfl, h⟩ _
  rintro c path t ⟨hcapacity, -⟩
  exact ⟨hcapacity, hcapacity ▸ Cache.length_insert_le c path t⟩

/-- The symbols keep what cannot be told from the outside. Asked any questions on a store that does not
change, they give the answers that new symbols give to each question alone, with this cache size or any
other. A table that is kept afterwards is the one that its path gives again, so nothing is kept of a path that
cannot be loaded; a table that was just used is kept, and there are never more than the cache is made for:
16 if its size is not positive. -/
theorem cache_unobservable (s : Store) (searchPaths : List Bytes) (cacheSize : Int64)
    (questions : List Question) :
    let fresh := make searchPaths cacheSize
    let last := askAll s fresh questions
    last.1 = questions.map (fun q => (q.ask s fresh).1) ∧
    (∀ otherSize, (askAll s (make searchPaths otherSize) questions).1 = last.1) ∧
    (∀ path t, last.2.tables.find? path = some t → load s path = .ok t) ∧
    (∀ path e, load s path = .error e → last.2.tables.find? path = none) ∧
    (∀ path t, load s path = .ok t → (last.2.lineTable s path).2.tables.find? path = some t) ∧
    last.2.tables.entries.length ≤ last.2.tables.capacity ∧
    last.2.tables.capacity = if cacheSize ≤ 0 then 16 else cacheSize.toNatClampNeg := by
  intro fresh last
  have hempty : ∀ size, Cache.keeper.Sound (load s) (make searchPaths size).tables := Cache.sound_empty _
  obtain ⟨hanswers, hlast⟩ := askAll_of_sound (hempty cacheSize) questions
  obtain ⟨hcapacity, hsize⟩ := @askAll_fits s fresh (Nat.zero_le _) questions
  refine ⟨?_, fun otherSize => ?_, hlast, fun path e he => ?_, fun path t ht => ?_, ?_, hcapacity⟩
  · rw [hanswers]
    exact List.map_congr_left fun q _ => (ask_of_sound (hempty cacheSize) q).symm
  · -- Where a module is looked for does not depend on the size.
    rw [(askAll_of_sound (hempty otherSize) questions).1, hanswers]
    refine List.map_congr_left fun q _ => ?_
    simp only [Question.query, locate, make]
  · cases hfind : last.2.tables.find? path with
    | none => rfl
    | some t => cases he.symm.trans (hlast path t hfind)
  · rcases lineTable_cases last.2 s path with ⟨t', hfrom, heq⟩ | ⟨e, hload, -⟩
    · have ht' : load s path = .ok t' := hfrom.elim (hlast path t') id
      cases ht.symm.trans ht'
      rw [heq]
      apply Cache.find?_insert_self
      rw [hcapacity]
      exact Cache.capacity_pos cacheSize
    · cases ht.symm.trans hload
  · rwa [hcapacity]

end Symbols

end LineCoverage
