import LineCoverage.Store

/-! # What is at a path -/

namespace LineCoverage

namespace Store

def has (s : Store) (path : Bytes) : Bool := (s.stat path).isOk

/-- A path cannot be looked up, and not because there is nothing. -/
def Fails (s : Store) (path : Bytes) (e : FileError) : Prop := s.stat path = .error e ∧ e.isAbsence = false

variable {s : Store} {path : Bytes} {e : FileError}

theorem exists?_of_fails (h : s.Fails path e) : s.exists? path = .error e := by
  obtain ⟨hstat, habsence⟩ := h
  unfold exists?
  rw [hstat]
  simp [habsence]

theorem exists?_of_answers (h : ∀ e, ¬ s.Fails path e) : s.exists? path = .ok (s.has path) := by
  unfold exists? has
  cases hstat : s.stat path with
  | ok isDir => rfl
  | error e =>
    cases habsence : e.isAbsence with
    | true => simp [habsence, Except.isOk, Except.toBool]
    | false => exact absurd ⟨hstat, habsence⟩ (h e)

theorem fails_memory_iff {m : Memory} : (Store.memory m).Fails path e ↔ m.faultAt .stat path = .error e := by
  unfold Fails stat Memory.stat
  cases h : m.faultAt .stat path with
  | error fault =>
    have habsence : fault.isAbsence = false := by
      unfold Memory.faultAt at h
      split at h
      · cases h
        rfl
      · cases h
    simp only [h, bind, Except.bind, Except.error.injEq]
    constructor
    · exact And.left
    · rintro rfl
      exact ⟨rfl, habsence⟩
  | ok _ =>
    simp only [h, bind, Except.bind, reduceCtorEq, iff_false]
    unfold Memory.find?
    cases m.nodes[Memory.key path]? with
    | some node => simp [pure, Except.pure]
    | none =>
      rintro ⟨herror, habsence⟩
      cases herror
      cases habsence

end Store

end LineCoverage
