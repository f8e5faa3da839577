import LineCoverage.Path
import LineCoverage.Proofs.Bytes

/-!
# Clean paths

Cleaning a clean path changes nothing: the elements of the normal form are read back as they are. The clean
paths of all that is in one directory differ only in the names behind the directory's stem.
-/

namespace LineCoverage

namespace Path

theorem clean_ne_nil (p : Bytes) : clean p ≠ [] := by
  unfold clean
  simp only
  split
  · exact List.cons_ne_nil _ _
  · split
    · decide
    · assumption

theorem join_ne_nil (p : Bytes) {q : Bytes} (h : q ≠ []) : join p q ≠ [] := by
  unfold join joinAll
  split
  · rename_i hnone
    have hmem : q ∈ [p, q].filter (· ≠ []) := by simp [h]
    rw [hnone] at hmem
    cases hmem
  · exact clean_ne_nil _

/-! ## Elements -/

/-- What an element of a path can be. -/
structure IsElement (e : Bytes) : Prop where
  nonempty : e ≠ []
  notDot : e ≠ dot
  noSlash : slash ∉ e

theorem isElement_dotDot : IsElement dotDot := ⟨by decide, by decide, by decide⟩

theorem isElement_of_mem_elements {p e : Bytes} (h : e ∈ elements p) : IsElement e := by
  simp only [elements, List.mem_filter, Bool.and_eq_true, decide_eq_true_eq] at h
  exact ⟨h.2.1, h.2.2, (Bytes.mem_of_mem_splitOn p e h.1).1⟩

theorem isElement_pushElement {rooted : Bool} {kept : List Bytes} {e : Bytes} (hkept : ∀ k ∈ kept, IsElement k)
    (he : IsElement e) : ∀ k ∈ pushElement rooted kept e, IsElement k := by
  unfold pushElement
  intro k hk
  split at hk
  · split at hk
    · split at hk
      · cases hk
      · rw [List.mem_singleton.1 hk]
        exact isElement_dotDot
    · rename_i last rest
      split at hk
      · rcases List.mem_cons.1 hk with rfl | hk
        · exact isElement_dotDot
        · exact hkept k hk
      · exact hkept k (List.mem_cons_of_mem _ hk)
  · rcases List.mem_cons.1 hk with rfl | hk
    · exact he
    · exact hkept k hk

theorem isElement_foldl {rooted : Bool} {es kept : List Bytes} (hes : ∀ e ∈ es, IsElement e)
    (hkept : ∀ k ∈ kept, IsElement k) : ∀ k ∈ es.foldl (pushElement rooted) kept, IsElement k := by
  induction es generalizing kept with
  | nil => exact hkept
  | cons e rest ih =>
    exact ih (fun e' he' => hes e' (List.mem_cons_of_mem _ he'))
      (isElement_pushElement hkept (hes e List.mem_cons_self))

theorem isElement_of_mem_normalElements {p e : Bytes} (h : e ∈ normalElements p) : IsElement e :=
  isElement_foldl (fun _ he => isElement_of_mem_elements he) (by simp) e (List.mem_reverse.1 h)

/-! ## Normal elements stay -/

/-- The elements, kept back to front, that are kept as they are. -/
def Settled (rooted : Bool) (kept : List Bytes) : Prop := kept.reverse.foldl (pushElement rooted) [] = kept

theorem foldl_reverse_cons (rooted : Bool) (e : Bytes) (kept : List Bytes) :
    (e :: kept).reverse.foldl (pushElement rooted) [] =
      pushElement rooted (kept.reverse.foldl (pushElement rooted) []) e := by
  rw [List.reverse_cons, List.foldl_append]
  rfl

theorem settled_pushElement {rooted : Bool} {kept : List Bytes} (e : Bytes) (h : Settled rooted kept) :
    Settled rooted (pushElement rooted kept e) := by
  unfold Settled at h ⊢
  by_cases he : e = dotDot
  · subst he
    cases kept with
    | nil => cases rooted <;> decide
    | cons last rest =>
      by_cases hlast : last = dotDot
      · have hpush : pushElement rooted (last :: rest) dotDot = dotDot :: last :: rest := by
          simp [pushElement, hlast]
        rw [hpush, foldl_reverse_cons, h, hpush]
      · have hpush : pushElement rooted (last :: rest) dotDot = rest := by simp [pushElement, hlast]
        rw [foldl_reverse_cons] at h
        rw [hpush]
        -- The element in front was put there by itself, so what is behind it was there before.
        simp only [pushElement, hlast, if_false, List.cons.injEq, true_and] at h
        exact h
  · have hpush : pushElement rooted kept e = e :: kept := by simp [pushElement, he]
    rw [hpush, foldl_reverse_cons, h, hpush]

theorem settled_foldl {rooted : Bool} (es : List Bytes) {kept : List Bytes} (h : Settled rooted kept) :
    Settled rooted (es.foldl (pushElement rooted) kept) := by
  induction es generalizing kept with
  | nil => exact h
  | cons e rest ih => exact ih (settled_pushElement e h)

theorem foldl_normalElements (p : Bytes) :
    ((normalElements p).foldl (pushElement (isAbsolute p)) []).reverse = normalElements p := by
  have h := settled_foldl (elements p) (show Settled (isAbsolute p) [] from rfl)
  unfold Settled at h
  unfold normalElements
  rw [h]

/-! ## Reading a clean path -/

theorem join_eq_nil_iff {es : List Bytes} (h : ∀ e ∈ es, IsElement e) : Bytes.join [slash] es = [] ↔ es = [] := by
  cases es with
  | nil => simp
  | cons e rest =>
    have he := (h e List.mem_cons_self).nonempty
    cases rest with
    | nil => simp [he]
    | cons next rest => simp [Bytes.join_cons_cons]

theorem head?_join_ne_slash {es : List Bytes} (h : ∀ e ∈ es, IsElement e) :
    (Bytes.join [slash] es).head? ≠ some slash := by
  cases es with
  | nil => simp
  | cons e rest =>
    obtain ⟨b, e', rfl⟩ := List.exists_cons_of_ne_nil (h e List.mem_cons_self).nonempty
    have hb : b ≠ slash := by
      rintro rfl
      exact (h _ List.mem_cons_self).noSlash List.mem_cons_self
    cases rest with
    | nil => simpa using hb
    | cons next rest => simpa [Bytes.join_cons_cons] using hb

theorem isAbsolute_clean (p : Bytes) : isAbsolute (clean p) = isAbsolute p := by
  have helements := fun e he => @isElement_of_mem_normalElements p e he
  unfold clean
  simp only
  cases hp : isAbsolute p with
  | true => rfl
  | false =>
    simp only [Bool.false_eq_true, if_false]
    split
    · decide
    · unfold isAbsolute
      rw [decide_eq_false_iff_not]
      exact head?_join_ne_slash helements

theorem filter_elements {es : List Bytes} (h : ∀ e ∈ es, IsElement e) :
    (es.filter fun e => e ≠ [] && e ≠ dot) = es := by
  rw [List.filter_eq_self]
  intro e he
  simp [(h e he).nonempty, (h e he).notDot]

theorem elements_join {es : List Bytes} (h : ∀ e ∈ es, IsElement e) : elements (Bytes.join [slash] es) = es := by
  unfold elements
  cases es with
  | nil => rfl
  | cons e rest =>
    rw [Bytes.splitOn_join (by simp) fun e he => (h e he).noSlash]
    exact filter_elements h

theorem elements_clean (p : Bytes) : elements (clean p) = normalElements p := by
  have helements := fun e he => @isElement_of_mem_normalElements p e he
  unfold clean
  simp only
  split
  · have hskip : ∀ s : Bytes, elements (slash :: s) = elements s := by
      intro s
      simp [elements]
    rw [hskip, elements_join helements]
  · split
    · rename_i hnil
      rw [(join_eq_nil_iff helements).1 hnil]
      decide
    · exact elements_join helements

theorem normalElements_clean (p : Bytes) : normalElements (clean p) = normalElements p := by
  conv => lhs; unfold normalElements
  rw [elements_clean, isAbsolute_clean, foldl_normalElements]

@[simp]
theorem clean_clean (p : Bytes) : clean (clean p) = clean p := by
  have hclean : ∀ q, clean q =
      if isAbsolute q then slash :: Bytes.join [slash] (normalElements q)
      else if Bytes.join [slash] (normalElements q) = [] then dot
      else Bytes.join [slash] (normalElements q) := fun _ => rfl
  rw [hclean (clean p), normalElements_clean, isAbsolute_clean, ← hclean]

/-! ## Paths in a directory -/

theorem elements_append (p q : Bytes) : elements (p ++ slash :: q) = elements p ++ elements q := by
  simp [elements, Bytes.splitOn_append]

/-- What stands in front of the names of what is in a directory. -/
def stem (p : Bytes) : Bytes :=
  (if isAbsolute p then [slash] else []) ++
    if normalElements p = [] then [] else Bytes.join [slash] (normalElements p) ++ [slash]

theorem isAbsolute_append {p : Bytes} (h : p ≠ []) (q : Bytes) : isAbsolute (p ++ q) = isAbsolute p := by
  obtain ⟨b, p, rfl⟩ := List.exists_cons_of_ne_nil h
  rfl

section Child

variable {p q e : Bytes} (hp : p ≠ []) (hq : elements q = [e]) (hdots : e ≠ dotDot)
include hp hq hdots

theorem normalElements_child : normalElements (p ++ slash :: q) = normalElements p ++ [e] := by
  unfold normalElements
  rw [elements_append, hq, isAbsolute_append hp, List.foldl_append]
  simp [pushElement, hdots]

theorem clean_child : clean (p ++ slash :: q) = stem p ++ e := by
  have he : e ≠ [] := (isElement_of_mem_elements (hq ▸ List.mem_singleton_self e)).nonempty
  have hbody : Bytes.join [slash] (normalElements p ++ [e]) =
      (if normalElements p = [] then [] else Bytes.join [slash] (normalElements p) ++ [slash]) ++ e := by
    by_cases hnil : normalElements p = []
    · simp [hnil]
    · simp [Bytes.join_append_singleton _ _ hnil, hnil]
  have hne : Bytes.join [slash] (normalElements p ++ [e]) ≠ [] := by
    rw [hbody]
    exact List.append_ne_nil_of_right_ne_nil _ he
  unfold clean stem
  rw [normalElements_child hp hq hdots, isAbsolute_append hp]
  simp only [hne, if_false]
  split <;> simp [hbody]

end Child

theorem elements_stem (p : Bytes) : elements (stem p) = normalElements p := by
  have helements := fun e he => @isElement_of_mem_normalElements p e he
  have hskip : ∀ s : Bytes, elements ((if isAbsolute p then [slash] else []) ++ s) = elements s := by
    intro s
    split
    · simp [elements]
    · rfl
  unfold stem
  rw [hskip]
  split
  · rename_i hnil
    rw [hnil]
    rfl
  · rw [elements_append, elements_join helements]
    simp [elements]

theorem isAbsolute_stem (p : Bytes) : isAbsolute (stem p) = isAbsolute p := by
  have helements := fun e he => @isElement_of_mem_normalElements p e he
  unfold stem
  cases hp : isAbsolute p with
  | true => rfl
  | false =>
    simp only [Bool.false_eq_true, if_false, List.nil_append]
    split
    · rfl
    · rename_i hne
      rw [isAbsolute_append (mt (join_eq_nil_iff helements).1 hne)]
      unfold isAbsolute
      rw [decide_eq_false_iff_not]
      exact head?_join_ne_slash helements

theorem clean_eq_of_normalElements {p q : Bytes} (habs : isAbsolute p = isAbsolute q)
    (h : normalElements p = normalElements q) : clean p = clean q := by
  unfold clean
  rw [habs, h]

theorem clean_stem (p : Bytes) : clean (stem p) = clean p := by
  apply clean_eq_of_normalElements (isAbsolute_stem p)
  rw [normalElements, elements_stem, isAbsolute_stem, foldl_normalElements]

theorem upToLastSlash_stem_append (p : Bytes) {e : Bytes} (h : slash ∉ e) : upToLastSlash (stem p ++ e) = stem p := by
  have hstem : (stem p).reverse.dropWhile (· ≠ slash) = (stem p).reverse := by
    unfold stem
    split <;> split <;> simp
  have he : ∀ b ∈ e.reverse, decide (b ≠ slash) = true := by
    intro b hb
    simpa using ne_of_mem_of_not_mem (List.mem_reverse.1 hb) h
  unfold upToLastSlash
  rw [List.reverse_append, List.dropWhile_append_of_pos he, hstem, List.reverse_reverse]

theorem dir_stem_append (p : Bytes) {e : Bytes} (h : slash ∉ e) : dir (stem p ++ e) = clean p := by
  rw [dir, upToLastSlash_stem_append p h, clean_stem]

theorem length_clean_le (p : Bytes) : (clean p).length ≤ (stem p).length + 1 := by
  unfold clean stem
  by_cases hnil : normalElements p = []
  · cases isAbsolute p <;> simp [hnil, dot]
  · have hne := mt (join_eq_nil_iff fun e he => isElement_of_mem_normalElements he).1 hnil
    simp only [hnil, hne, if_false]
    split <;> simp only [List.length_cons, List.length_append, List.length_nil] <;> omega

theorem base_cases (p : Bytes) : base p = [slash] ∨ base p ≠ [] ∧ slash ∉ base p := by
  unfold base
  split
  · exact .inr (by decide)
  · simp only
    split
    · exact .inl rfl
    · rename_i hne
      refine .inr ⟨hne, fun h => ?_⟩
      unfold afterLastSlash at h
      simpa using List.mem_takeWhile_imp (List.mem_reverse.1 h)

theorem join_eq_clean {p q : Bytes} (hp : p ≠ []) (hq : q ≠ []) : join p q = clean (p ++ slash :: q) := by
  simp [join, joinAll, hp, hq, Bytes.join_cons_cons]

end Path

end LineCoverage
