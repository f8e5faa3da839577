import LineCoverage.Proofs.Bytes
import Std.Data.ExtTreeMap

/-!
# Ordered maps

What a map holds at a key after a fold, the list of its entries, sums over it, and lists whose repetitions are left
out.
-/

namespace LineCoverage

namespace Maps

variable {κ β γ : Type} [Ord κ] [Std.TransOrd κ] [Std.LawfulEqOrd κ] [DecidableEq κ]

theorem getElem?_alter_eq (t : Std.ExtTreeMap κ β) (k k' : κ) (f : Option β → Option β) :
    (t.alter k f)[k']? = if k = k' then f t[k']? else t[k']? := by
  rw [Std.ExtTreeMap.getElem?_alter]
  by_cases h : k = k'
  · simp [h]
  · simp [h, Std.LawfulEqCmp.compare_eq_iff_eq]

theorem getElem?_insert_eq (t : Std.ExtTreeMap κ β) (k k' : κ) (v : β) :
    (t.insert k v)[k']? = if k = k' then some v else t[k']? := by
  rw [Std.ExtTreeMap.getElem?_insert]
  simp [Std.LawfulEqCmp.compare_eq_iff_eq]

omit [Std.LawfulEqOrd κ] [DecidableEq κ] in
theorem mem_of_getElem? {t : Std.ExtTreeMap κ β} {k : κ} {v : β} (h : t[k]? = some v) : k ∈ t := by
  rw [Std.ExtTreeMap.mem_iff_isSome_getElem?, h]
  rfl

theorem getElem?_foldl_alter (entries : List γ) (key : γ → κ) (f : γ → Option β → Option β)
    (t : Std.ExtTreeMap κ β) (k : κ) :
    (entries.foldl (fun t e => t.alter (key e) (f e)) t)[k]? =
      (entries.filter fun e => key e = k).foldl (fun old e => f e old) t[k]? := by
  induction entries generalizing t with
  | nil => rfl
  | cons e rest ih =>
    rw [List.foldl_cons, ih, getElem?_alter_eq, List.filter_cons]
    by_cases h : key e = k <;> simp [h]

theorem foldl_some_getD (entries : List γ) (g : γ → β → β) (d : β) :
    entries.foldl (fun old e => some (g e (old.getD d))) none =
      if entries = [] then none else some (entries.foldl (fun acc e => g e acc) d) := by
  have hsome : ∀ (entries : List γ) (b : β), entries.foldl (fun old e => some (g e (old.getD d))) (some b) =
      some (entries.foldl (fun acc e => g e acc) b) := by
    intro entries
    induction entries with
    | nil => simp
    | cons e rest ih =>
      intro b
      exact ih (g e b)
  cases entries with
  | nil => rfl
  | cons e rest => simp [hsome]

/-! ## The entries of a map -/

omit [Std.LawfulEqOrd κ] [DecidableEq κ] in
theorem nodup_names_toList (t : Std.ExtTreeMap κ β) : (t.toList.map Prod.fst).Nodup := by
  rw [Std.ExtTreeMap.map_fst_toList_eq_keys]
  exact Std.ExtTreeMap.nodup_keys

omit [Std.LawfulEqOrd κ] [DecidableEq κ] in
theorem nodup_of_ascending {entries : List (κ × β)} (h : entries.Pairwise fun a b => compare a.1 b.1 = .lt) :
    entries.Nodup := by
  refine h.imp ?_
  rintro a b hlt rfl
  simp at hlt

omit [Std.LawfulEqOrd κ] [DecidableEq κ] in
theorem nodup_toList (t : Std.ExtTreeMap κ β) : t.toList.Nodup := nodup_of_ascending t.ordered_keys_toList

theorem filter_toList_eq_nil {t : Std.ExtTreeMap κ β} {k : κ} (h : t[k]? = none) :
    (t.toList.filter fun e => e.1 = k) = [] := by
  rw [List.filter_eq_nil_iff]
  rintro ⟨k', v⟩ hmem hk
  rw [Std.ExtTreeMap.mem_toList_iff_getElem?_eq_some] at hmem
  simp only [decide_eq_true_eq] at hk
  rw [hk, h] at hmem
  cases hmem

theorem filter_toList_eq_singleton {t : Std.ExtTreeMap κ β} {k : κ} {v : β} (h : t[k]? = some v) :
    (t.toList.filter fun e => e.1 = k) = [(k, v)] := by
  apply List.perm_singleton.1
  rw [List.perm_ext_iff_of_nodup ((nodup_toList t).filter _) (by simp)]
  rintro ⟨k', v'⟩
  rw [List.mem_filter, Std.ExtTreeMap.mem_toList_iff_getElem?_eq_some, List.mem_singleton]
  constructor
  · rintro ⟨hv, hk⟩
    simp only [decide_eq_true_eq] at hk
    rw [hk, h] at hv
    simp only [Option.some.injEq] at hv
    rw [hk, hv]
  · rintro ⟨⟩
    exact ⟨h, by simp⟩

theorem filter_entries_of_perm {t : Std.ExtTreeMap κ β} {entries : List (κ × β)}
    (h : entries.Perm t.toList) (k : κ) :
    (entries.filter fun e => e.1 = k) = t[k]?.toList.map fun v => (k, v) := by
  have hp := h.filter fun e => e.1 = k
  cases hk : t[k]? with
  | none =>
    rw [filter_toList_eq_nil hk] at hp
    simpa using hp.eq_nil
  | some v =>
    rw [filter_toList_eq_singleton hk] at hp
    simpa using List.perm_singleton.1 hp

theorem getElem?_foldl_alter_of_perm {more : Std.ExtTreeMap κ γ} {entries : List (κ × γ)}
    (h : entries.Perm more.toList) (f : γ → Option β → Option β) (t : Std.ExtTreeMap κ β) (k : κ) :
    (entries.foldl (fun t e => t.alter e.1 (f e.2)) t)[k]? =
      match more[k]? with
      | none => t[k]?
      | some v => f v t[k]? := by
  rw [getElem?_foldl_alter entries Prod.fst (fun e => f e.2), filter_entries_of_perm h]
  cases more[k]? <;> rfl

omit [DecidableEq κ] in
theorem toList_eq_map_of_sorted {t : Std.ExtTreeMap κ β} {keys : List κ} {value : κ → β}
    (hsorted : keys.Pairwise fun a b => compare a b = .lt)
    (hget : ∀ k v, t[k]? = some v ↔ k ∈ keys ∧ v = value k) :
    t.toList = keys.map fun k => (k, value k) := by
  have hpairs : (keys.map fun k => (k, value k)).Pairwise fun a b => compare a.1 b.1 = .lt := by
    rw [List.pairwise_map]
    exact hsorted
  refine List.Perm.eq_of_pairwise ?_ t.ordered_keys_toList hpairs ?_
  · intro a b _ _ hab hba
    exact absurd hba (Std.OrientedCmp.not_lt_of_lt hab)
  · rw [List.perm_ext_iff_of_nodup (nodup_toList t) (nodup_of_ascending hpairs)]
    rintro ⟨k, v⟩
    rw [Std.ExtTreeMap.mem_toList_iff_getElem?_eq_some, hget]
    simp only [List.mem_map, Prod.mk.injEq]
    constructor
    · rintro ⟨hk, rfl⟩
      exact ⟨k, hk, rfl, rfl⟩
    · rintro ⟨k', hk, rfl, rfl⟩
      exact ⟨hk, rfl⟩

/-! ## Sums -/

theorem foldl_add_word {ω : Type} [Add ω] (word : Nat → ω) (hadd : ∀ m n, word (m + n) = word m + word n)
    (l : List γ) (f : γ → Nat) (n : Nat) :
    l.foldl (fun acc x => acc + word (f x)) (word n) = word (n + (l.map f).sum) := by
  induction l generalizing n with
  | nil => rfl
  | cons x rest ih => rw [List.foldl_cons, ← hadd, ih, List.map_cons, List.sum_cons, Nat.add_assoc]

/-! ## Lists without repetitions -/

section Repetitions

variable {α : Type} [BEq α]

/-- Induction along the members that stay: behind each of them its repetitions are left out. -/
theorem eraseDups_induction {motive : List α → Prop} (nil : motive [])
    (cons : ∀ a l, motive (l.filter fun b => !b == a) → motive (a :: l)) (l : List α) : motive l := by
  induction h : l.length using Nat.strongRecOn generalizing l with
  | ind n ih =>
    cases l with
    | nil => exact nil
    | cons a l =>
      refine cons a l (ih _ ?_ _ rfl)
      have := List.length_filter_le (fun b => !b == a) l
      rw [List.length_cons] at h
      omega

variable [LawfulBEq α]

theorem nodup_eraseDups (l : List α) : l.eraseDups.Nodup := by
  induction l using eraseDups_induction with
  | nil => simp
  | cons a l ih =>
    rw [List.eraseDups_cons, List.nodup_cons]
    exact ⟨by simp [List.mem_eraseDups], ih⟩

theorem findSome?_filter_of_none {f : α → Option γ} {a : α} (h : f a = none) (l : List α) :
    (l.filter fun b => !b == a).findSome? f = l.findSome? f := by
  induction l with
  | nil => rfl
  | cons b l ih =>
    by_cases hb : b = a
    · subst hb
      simpa [List.findSome?_cons, h] using ih
    · simp [hb, List.findSome?_cons, ih]

theorem findSome?_eraseDups (f : α → Option γ) (l : List α) : l.eraseDups.findSome? f = l.findSome? f := by
  induction l using eraseDups_induction with
  | nil => rfl
  | cons a l ih =>
    rw [List.eraseDups_cons, List.findSome?_cons, List.findSome?_cons]
    cases ha : f a with
    | some found => rfl
    | none => rw [ih, findSome?_filter_of_none ha]

end Repetitions

/-! ## Ascending lists -/

section Ascending

variable {κ : Type} [Ord κ] [BEq κ]

def ascending (l : List κ) : List κ := l.eraseDups.mergeSort fun a b => (compare a b).isLE

variable [LawfulBEq κ]

@[simp]
theorem mem_ascending {l : List κ} {a : κ} : a ∈ ascending l ↔ a ∈ l := by
  rw [ascending, List.mem_mergeSort, List.mem_eraseDups]

theorem pairwise_ascending [Std.TransOrd κ] [Std.LawfulEqOrd κ] (l : List κ) :
    (ascending l).Pairwise fun a b => compare a b = .lt := by
  have htotal : ∀ a b : κ, ((compare a b).isLE || (compare b a).isLE) = true := by
    intro a b
    have hswap : compare b a = (compare a b).swap := Std.OrientedCmp.eq_swap
    rw [hswap]
    cases compare a b <;> rfl
  have hsorted : (ascending l).Pairwise fun a b => (compare a b).isLE = true :=
    List.pairwise_mergeSort (fun _ _ _ => Std.TransCmp.isLE_trans) htotal _
  have hdistinct : (ascending l).Pairwise fun a b => a ≠ b :=
    (List.mergeSort_perm l.eraseDups _).nodup_iff.2 (nodup_eraseDups l)
  refine (hsorted.and hdistinct).imp ?_
  rintro a b ⟨hle, hne⟩
  rcases Ordering.isLE_iff_eq_lt_or_eq_eq.1 hle with h | h
  · exact h
  · exact absurd (Std.LawfulEqCmp.eq_of_compare h) hne

end Ascending

theorem keys_ascending (t : Std.ExtTreeMap Bytes β) : t.keys.Pairwise (· < ·) :=
  t.ordered_keys.imp fun {a b} h => (Bytes.compare_eq_lt_iff a b).1 h

end Maps

end LineCoverage
