import LineCoverage.Proofs.Maps
import LineCoverage.Symbols

/-!
# Looking up through a cache

A cache may forget what it likes, but what it finds was put under that key last. That is enough for its answers to be
those of loading anew each time, whatever it was asked before.
-/

namespace LineCoverage

/-! ## Any cache -/

/-- A cache, as far as it can be relied on. -/
structure Keeper (γ κ α : Type) where
  find? : γ → κ → Option α
  insert : γ → κ → α → γ
  find?_insert : ∀ (c : γ) (k : κ) (v : α) (k' : κ) (w : α), find? (insert c k v) k' = some w →
    k' = k ∧ w = v ∨ k' ≠ k ∧ find? c k' = some w

namespace Keeper

variable {γ κ α β ε : Type} (K : Keeper γ κ α) (load : κ → Except ε α)

/-- What is found under a key, or else what is loaded. It is put there again. -/
def get (c : γ) (k : κ) : Except ε α × γ :=
  match K.find? c k with
  | some v => (.ok v, K.insert c k v)
  | none =>
    match load k with
    | .ok v => (.ok v, K.insert c k v)
    | .error e => (.error e, c)

/-- A question: the key that it is about, unless there is none, and what is made of the value. -/
structure Query (κ α β ε : Type) where
  key : Except ε κ
  use : α → β

def ask (c : γ) (q : Query κ α β ε) : Except ε β × γ :=
  match q.key with
  | .error e => (.error e, c)
  | .ok k => ((K.get load c k).1.map q.use, (K.get load c k).2)

/-- The answers to the questions, asked in turn, and the cache afterwards. -/
def askAll (c : γ) : List (Query κ α β ε) → List (Except ε β) × γ
  | [] => ([], c)
  | q :: rest =>
    let (answer, c) := K.ask load c q
    let (answers, c) := askAll c rest
    (answer :: answers, c)

def Query.answer (q : Query κ α β ε) : Except ε β := do
  let v ← load (← q.key)
  pure (q.use v)

/-- All that is found is what would be loaded. -/
def Sound (c : γ) : Prop := ∀ k v, K.find? c k = some v → load k = .ok v

variable {K load} {c : γ}

theorem Sound.insert (h : K.Sound load c) {k : κ} {v : α} (hv : load k = .ok v) : K.Sound load (K.insert c k v) := by
  intro k' w hfind
  rcases K.find?_insert c k v k' w hfind with ⟨rfl, rfl⟩ | ⟨-, hold⟩
  · exact hv
  · exact h k' w hold

theorem Sound.get (h : K.Sound load c) (k : κ) : (K.get load c k).1 = load k ∧ K.Sound load (K.get load c k).2 := by
  unfold Keeper.get
  cases hfind : K.find? c k with
  | some v => exact ⟨(h k v hfind).symm, h.insert (h k v hfind)⟩
  | none =>
    cases hload : load k with
    | ok v => exact ⟨rfl, h.insert hload⟩
    | error e => exact ⟨rfl, h⟩

theorem Sound.ask (h : K.Sound load c) (q : Query κ α β ε) :
    (K.ask load c q).1 = q.answer load ∧ K.Sound load (K.ask load c q).2 := by
  unfold Keeper.ask Query.answer
  cases q.key with
  | error e => exact ⟨rfl, h⟩
  | ok k =>
    obtain ⟨hvalue, hnext⟩ := h.get k
    simp only [hvalue]
    exact ⟨rfl, hnext⟩

/-- No sequence of questions tells a cache from loading anew each time. -/
theorem Sound.askAll (h : K.Sound load c) (questions : List (Query κ α β ε)) :
    (K.askAll load c questions).1 = questions.map (Query.answer load) ∧ K.Sound load (K.askAll load c questions).2 := by
  induction questions generalizing c with
  | nil => exact ⟨rfl, h⟩
  | cons q rest ih =>
    obtain ⟨hanswer, hnext⟩ := h.ask q
    obtain ⟨hanswers, hlast⟩ := ih hnext
    exact ⟨by simp only [Keeper.askAll, hanswer, hanswers, List.map_cons], hlast⟩

section Keeps

variable {I : γ → Prop} (hinsert : ∀ c k v, I c → I (K.insert c k v)) (h : I c)
include hinsert h

theorem get_keeps (k : κ) : I (K.get load c k).2 := by
  unfold Keeper.get
  split
  · exact hinsert c k _ h
  · split
    · exact hinsert c k _ h
    · exact h

theorem ask_keeps (q : Query κ α β ε) : I (K.ask load c q).2 := by
  unfold Keeper.ask
  split
  · exact h
  · exact get_keeps hinsert h _

theorem askAll_keeps (questions : List (Query κ α β ε)) : I (K.askAll load c questions).2 := by
  induction questions generalizing c with
  | nil => exact h
  | cons q rest ih => exact ih (ask_keeps hinsert h q)

end Keeps

end Keeper

/-! ## The cache that drops what was used least recently -/

namespace Cache

variable {α : Type}

theorem lookup_of_take {entries : List (Bytes × α)} {n : Nat} {k : Bytes} {v : α}
    (h : (entries.take n).lookup k = some v) : entries.lookup k = some v := by
  induction entries generalizing n with
  | nil => simp at h
  | cons entry rest ih =>
    cases n with
    | zero => cases h
    | succ n =>
      rw [List.take_succ_cons, List.lookup_cons] at h
      rw [List.lookup_cons]
      split at h
      · exact h
      · exact ih h

theorem lookup_filter_ne {entries : List (Bytes × α)} {k k' : Bytes} (h : k' ≠ k) :
    (entries.filter (·.1 ≠ k)).lookup k' = entries.lookup k' := by
  induction entries with
  | nil => rfl
  | cons entry rest ih =>
    rw [List.filter_cons]
    split
    · rw [List.lookup_cons, List.lookup_cons, ih]
    · rename_i heq
      have hne : (k' == entry.1) = false := by
        rw [beq_eq_false_iff_ne]
        rintro rfl
        exact heq (by simpa using h)
      rw [List.lookup_cons, hne, ih]

def keeper : Keeper (Cache α) Bytes α where
  find? := find?
  insert := insert
  find?_insert := by
    intro c k v k' w h
    have hfront := lookup_of_take h
    rw [List.lookup_cons] at hfront
    split at hfront
    · rename_i heq
      exact .inl ⟨beq_iff_eq.1 heq, (Option.some.inj hfront).symm⟩
    · rename_i hne
      rw [beq_eq_false_iff_ne] at hne
      rw [lookup_filter_ne hne] at hfront
      exact .inr ⟨hne, hfront⟩

theorem sound_empty {ε : Type} (load : Bytes → Except ε α) (size : Int64) : keeper.Sound load (empty size) := by
  intro k v h
  cases h

theorem capacity_pos (size : Int64) : 0 < (empty size : Cache α).capacity := by
  unfold empty
  simp only
  split
  · decide
  · rename_i h
    have hzero : (0 : Int64).toInt = 0 := rfl
    rw [Int64.not_le, Int64.lt_iff_toInt_lt, hzero] at h
    rw [Int64.toNatClampNeg]
    omega

theorem find?_insert_self {c : Cache α} (h : 0 < c.capacity) (key : Bytes) (value : α) :
    (c.insert key value).find? key = some value := by
  obtain ⟨n, hn⟩ : ∃ n, c.capacity = n + 1 := ⟨c.capacity - 1, by omega⟩
  simp [insert, find?, hn]

theorem length_insert_le (c : Cache α) (key : Bytes) (value : α) :
    (c.insert key value).entries.length ≤ c.capacity :=
  List.length_take_le _ _

end Cache

end LineCoverage
