import LineCoverage.Proofs.Cache
import LineCoverage.Proofs.Content
import LineCoverage.Proofs.Store.Memory
import LineCoverage.Symbols

/-!
# Line tables come from binaries

Nothing that a report writes is ever taken for a binary: a line
table that is used is the one of a binary that was there before the report.
-/

namespace LineCoverage

/-! ## What is no binary -/

/-- What a report leaves in the directories and files it makes: nothing, or a text that begins with `TN`. -/
def IsReported (content : Bytes) : Prop := content = [] ∨ ∃ rest, content = ch 'T' :: rest

theorem parse?_of_isReported {content : Bytes} (h : IsReported content) :
    Binary.Elf.parse? (Content.toArray content) = none := by
  unfold Binary.Elf.parse? Compression.slice?
  rcases h with rfl | ⟨rest, rfl⟩
  · rfl
  · have hmagic : ((Content.toArray (ch 'T' :: rest)).extract 0 (0 + 16)).data.toList.take 4 ≠
        [0x7F, 0x45, 0x4C, 0x46] := by
      have hhead : ch 'T' ≠ 0x7F := by decide
      simp [Content.toArray, ByteArray.data_extract, List.take_take, hhead]
    split
    · exact if_pos hmagic
    · rfl

theorem decode_of_isReported {content : Bytes} (path : Bytes) (h : IsReported content) :
    Content.decode path content = .ok (.ok content) := by
  apply Content.decode_of_plain
  rcases h with rfl | ⟨rest, rfl⟩
  · rfl
  · exact Format.detect_cons rest (by decide) (by decide)

/-! ## Loading -/

/-- A store that differs from an earlier one only by what reports leave. -/
def Memory.Descends (m₀ m : Memory) : Prop :=
  ∀ k, m.contentAt k = m₀.contentAt k ∨ ∃ content, m.contentAt k = some content ∧ IsReported content

theorem Memory.Descends.refl (m : Memory) : Memory.Descends m m := fun _ => .inl rfl

theorem Memory.Descends.keeps {m₀ m : Memory} (h : Memory.Descends m₀ m) {k : Bytes} {c : Option Bytes}
    (hkeeps : Memory.Keeps (m.contentAt k) c) :
    c = m₀.contentAt k ∨ ∃ content, c = some content ∧ IsReported content := by
  rcases hkeeps with rfl | ⟨_, rfl⟩
  · exact h k
  · exact .inr ⟨[], rfl, .inl rfl⟩

namespace Symbols

theorem read_eq {m : Memory} (h : m.faults = []) (path : Bytes) :
    Content.read (.memory m) path =
      match m.contentAt (Memory.key path) with
      | some stored => Content.decode path stored >>= id
      | none => .error (.unopened (.absent (Memory.key path))) := by
  unfold Content.read Content.readWith Content.openFileWith Content.decode
  rw [Memory.openFile_eq h]
  cases m.contentAt (Memory.key path) with
  | none => rfl
  | some stored =>
    simp only [bind, Except.bind, Except.mapError, pure, Except.pure]
    cases Content.decodeWith .standard path stored <;> rfl

theorem load_of_descends {m₀ m : Memory} (h₀ : m₀.faults = []) (h : m.faults = []) (hm : Memory.Descends m₀ m)
    {path : Bytes} {t : LineTable} (hload : load (.memory m) path = .ok t) : load (.memory m₀) path = .ok t := by
  unfold load at hload ⊢
  rw [read_eq h] at hload
  rw [read_eq h₀]
  rcases hm (Memory.key path) with hsame | ⟨content, hcontent, hreported⟩
  · rw [← hsame]
    exact hload
  · simp only [hcontent, decode_of_isReported path hreported, bind, Except.bind, id, Except.mapError,
      parse?_of_isReported hreported] at hload
    cases hload

theorem lineTable_cases (sym : Symbols) (s : Store) (path : Bytes) :
    (∃ t, (sym.tables.find? path = some t ∨ load s path = .ok t) ∧
      sym.lineTable s path = (.ok t, { sym with tables := sym.tables.insert path t })) ∨
    ∃ e, load s path = .error e ∧ sym.lineTable s path = (.error e, sym) := by
  unfold lineTable
  cases sym.tables.find? path with
  | some t => exact .inl ⟨t, .inl rfl, rfl⟩
  | none =>
    cases load s path with
    | error e => exact .inr ⟨e, rfl, rfl⟩
    | ok t => exact .inl ⟨t, .inr rfl, rfl⟩

/-- Every kept table is that of a binary in the store. -/
def Faithful (m₀ : Memory) (sym : Symbols) : Prop := Cache.keeper.Sound (load (.memory m₀)) sym.tables

theorem faithful_make (m₀ : Memory) (searchPaths : List Bytes) (cacheSize : Int64) :
    Faithful m₀ (make searchPaths cacheSize) := Cache.sound_empty _ cacheSize

variable {m₀ m : Memory} {sym : Symbols}

theorem lineTable_faithful (h₀ : m₀.faults = []) (h : m.faults = []) (hm : Memory.Descends m₀ m)
    (hsym : sym.Faithful m₀) (path : Bytes) :
    (sym.lineTable (.memory m) path).2.Faithful m₀ ∧
      ∀ t, (sym.lineTable (.memory m) path).1 = .ok t → load (.memory m₀) path = .ok t := by
  rcases lineTable_cases sym (.memory m) path with ⟨t, hfrom, heq⟩ | ⟨e, _, heq⟩
  · have ht : load (.memory m₀) path = .ok t := by
      rcases hfrom with hfind | hload
      · exact hsym path t hfind
      · exact load_of_descends h₀ h hm hload
    rw [heq]
    refine ⟨Keeper.Sound.insert hsym ht, fun t' ht' => ?_⟩
    cases ht'
    exact ht
  · rw [heq]
    exact ⟨hsym, fun t ht => by cases ht⟩

theorem coverage_eq (s : Store) (module : Bytes) (counts : AddressCount) (only : Bool) :
    (∃ e, sym.coverage s false module counts only = (.error e, sym)) ∨
      ∃ path, sym.locate s module = .ok path ∧
        sym.coverage s false module counts only =
          ((sym.lineTable s path).1.map fun t => mapLines t counts only, (sym.lineTable s path).2) := by
  unfold coverage
  cases hlocate : sym.locate s module with
  | error e => exact .inl ⟨e, rfl⟩
  | ok path => exact .inr ⟨path, rfl, rfl⟩

theorem coverage_faithful (h₀ : m₀.faults = []) (h : m.faults = []) (hm : Memory.Descends m₀ m)
    (hsym : sym.Faithful m₀) (module : Bytes) (counts : AddressCount) (only : Bool) :
    (sym.coverage (.memory m) false module counts only).2.Faithful m₀ := by
  rcases @coverage_eq sym (.memory m) module counts only with ⟨e, heq⟩ | ⟨path, _, heq⟩
  · rw [heq]
    exact hsym
  · rw [heq]
    exact (lineTable_faithful h₀ h hm hsym path).1

end Symbols

end LineCoverage
