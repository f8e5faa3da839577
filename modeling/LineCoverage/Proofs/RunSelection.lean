import LineCoverage.Proofs.Path.Entry
import LineCoverage.Proofs.Store.Memory
import LineCoverage.Proofs.Text.Decimal
import LineCoverage.RunSelection

/-!
# Selected runs

Only the latest runs are looked for in the store. Their directories have names that end in a digit.
-/

namespace LineCoverage

theorem mapError_eq_ok_iff {ε ε' α : Type} {x : Except ε α} {f : ε → ε'} {a : α} :
    x.mapError f = .ok a ↔ x = .ok a := by
  cases x <;> simp [Except.mapError]

namespace RunSelection

theorem existing_memory {m : Memory} (h : m.faults = []) (paths : List Bytes) :
    existing (.memory m) paths = .ok (paths.filter fun path => (m.nodes[Memory.key path]?).isSome) := by
  induction paths with
  | nil => rfl
  | cons path rest ih =>
    have hexists : (Store.memory m).exists? path = .ok (m.nodes[Memory.key path]?).isSome := by
      unfold Store.exists? Store.stat Memory.stat Memory.find?
      simp only [Memory.faultAt_of_nil h]
      cases m.nodes[Memory.key path]? <;> rfl
    rw [existing, hexists, ih, List.filter_cons]
    rfl

theorem select_cases (realPath : Bytes → Except Bytes Bytes) (cfg : RunConfig) :
    (∃ r, ∀ s, select s realPath cfg = r) ∨
      ∃ dir index count, ∀ s, select s realPath cfg = (existing s (candidates dir index count)).mapError .file := by
  unfold select
  cases hvalid : cfg.validate with
  | error e => exact .inl ⟨.error (.config e), fun _ => rfl⟩
  | ok _ =>
    simp only [Except.mapError, bind, Except.bind]
    split
    · cases realPath cfg.lastRunPath with
      | error why => exact .inl ⟨_, fun _ => rfl⟩
      | ok target =>
        unfold lastRuns
        cases hindex : parseRunIndex (Path.base target) with
        | error e => exact .inl ⟨.error (.config e), fun _ => by simp only [hindex]; rfl⟩
        | ok index =>
          refine .inr ⟨Path.dir target, index.toNatClampNeg, cfg.lastRuns.toNatClampNeg, fun _ => ?_⟩
          simp only [hindex]
          rfl
    · exact .inl ⟨_, fun _ => rfl⟩

theorem mem_candidates {dir c : Bytes} {index count : Nat} (h : c ∈ candidates dir index count) :
    ∃ i, c = Path.join dir (runDirName i) := by
  unfold candidates at h
  obtain ⟨i, -, rfl⟩ := List.mem_map.1 h
  exact ⟨_, rfl⟩

theorem isElement_runDirName (i : Int64) : Path.IsElement (runDirName i) ∧ runDirName i ≠ Path.dotDot := by
  have hlength : 7 ≤ (runDirName i).length := by
    have hstem : runDirStem.length = 7 := by decide
    simp [runDirName, hstem]
  have hne : ∀ short : Bytes, short.length < 7 → runDirName i ≠ short := by
    rintro short hshort rfl
    omega
  refine ⟨⟨hne _ (by decide), hne _ (by decide), fun hslash => ?_⟩, hne _ (by decide)⟩
  have hdigit : Decimal.isDigit Path.slash = false := by decide
  unfold runDirName at hslash
  rcases List.mem_append.1 hslash with h | h
  · revert h
    decide
  · rcases List.mem_cons.1 h with h | h
    · revert h
      decide
    · rcases Decimal.mem_ofInt64 i _ h with h | h
      · revert h
        decide
      · rw [hdigit] at h
        cases h

theorem getLast?_runDirName (i : Int64) : (runDirName i).getLast? ≠ some (ch 'o') := by
  have hsuffix : Decimal.ofInt64 i <:+ runDirName i := by
    unfold runDirName
    rw [List.append_cons]
    exact List.suffix_append _ _
  rw [Bytes.getLast?_of_suffix hsuffix (Decimal.ofInt64_ne_nil i)]
  intro hlast
  rcases Decimal.mem_ofInt64 i _ (List.mem_of_getLast? hlast) with h | h
  · revert h
    decide
  · revert h
    decide

end RunSelection

end LineCoverage
