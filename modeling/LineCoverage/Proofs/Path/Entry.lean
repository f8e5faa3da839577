import LineCoverage.Proofs.Path

/-!
# Entries of a directory

A clean path is its last element behind the stem of its directory. Joining the directory and the last element gives
the path back.
-/

namespace LineCoverage

namespace Path

/-! ## Clean paths by their elements -/

def ofElements (rooted : Bool) (es : List Bytes) : Bytes :=
  let body := Bytes.join [slash] es
  if rooted then slash :: body else if body = [] then dot else body

theorem clean_eq_ofElements (p : Bytes) : clean p = ofElements (isAbsolute p) (normalElements p) := rfl

theorem isElement_singleton {e : Bytes} (h : IsElement e) : elements e = [e] := by
  unfold elements
  rw [Bytes.splitOn_eq_singleton h.noSlash]
  simp [h.nonempty, h.notDot]

theorem isAbsolute_of_isElement {e : Bytes} (h : IsElement e) : isAbsolute e = false := by
  obtain ⟨b, rest, rfl⟩ := List.exists_cons_of_ne_nil h.nonempty
  have hb : b ≠ slash := by
    rintro rfl
    exact h.noSlash List.mem_cons_self
  simpa [isAbsolute] using hb

/-- Elements that stay as they are. -/
def Normal (rooted : Bool) (es : List Bytes) : Prop := Settled rooted es.reverse

theorem normal_normalElements (p : Bytes) : Normal (isAbsolute p) (normalElements p) := by
  have h := settled_foldl (elements p) (show Settled (isAbsolute p) [] from rfl)
  unfold Normal normalElements
  rwa [List.reverse_reverse]

theorem Normal.foldl {rooted : Bool} {es : List Bytes} (h : Normal rooted es) :
    es.foldl (pushElement rooted) [] = es.reverse := by
  unfold Normal Settled at h
  rwa [List.reverse_reverse] at h

theorem pushElement_cases (rooted : Bool) (kept : List Bytes) (e : Bytes) :
    pushElement rooted kept e = e :: kept ∨ (pushElement rooted kept e).length ≤ kept.length := by
  unfold pushElement
  split
  · rename_i he
    split
    · cases rooted <;> simp [he]
    · split
      · simp [he]
      · simp
  · exact .inl rfl

theorem length_foldl_pushElement (rooted : Bool) (es : List Bytes) :
    (es.foldl (pushElement rooted) []).length ≤ es.length := by
  induction es using List.reverseRecOn with
  | nil => simp
  | append_singleton es e ih =>
    rw [List.foldl_append, List.foldl_cons, List.foldl_nil, List.length_append, List.length_singleton]
    rcases pushElement_cases rooted (es.foldl (pushElement rooted) []) e with h | h
    · rw [h, List.length_cons]
      omega
    · omega

theorem Normal.of_append {rooted : Bool} {es : List Bytes} {e : Bytes} (h : Normal rooted (es ++ [e])) :
    Normal rooted es ∧ pushElement rooted es.reverse e = e :: es.reverse := by
  have hlength := length_foldl_pushElement rooted es
  have hpush := h.foldl
  rw [List.foldl_append, List.foldl_cons, List.foldl_nil, List.reverse_append, List.reverse_singleton,
    List.singleton_append] at hpush
  rcases pushElement_cases rooted (es.foldl (pushElement rooted) []) e with hcons | hshort
  · have hes : es.foldl (pushElement rooted) [] = es.reverse := by
      rw [hpush, List.cons.injEq] at hcons
      exact hcons.2.symm
    rw [hes] at hpush
    refine ⟨?_, hpush⟩
    unfold Normal Settled
    rwa [List.reverse_reverse]
  · rw [hpush, List.length_cons, List.length_reverse] at hshort
    omega

theorem isAbsolute_ofElements {rooted : Bool} {es : List Bytes} (h : ∀ e ∈ es, IsElement e) :
    isAbsolute (ofElements rooted es) = rooted := by
  unfold ofElements
  cases rooted with
  | true => rfl
  | false =>
    simp only [Bool.false_eq_true, if_false]
    split
    · decide
    · unfold isAbsolute
      rw [decide_eq_false_iff_not]
      exact head?_join_ne_slash h

theorem elements_ofElements {rooted : Bool} {es : List Bytes} (h : ∀ e ∈ es, IsElement e) :
    elements (ofElements rooted es) = es := by
  unfold ofElements
  simp only
  split
  · have hskip : elements (slash :: Bytes.join [slash] es) = elements (Bytes.join [slash] es) := by simp [elements]
    rw [hskip, elements_join h]
  · split
    · rename_i hnil
      rw [(join_eq_nil_iff h).1 hnil]
      decide
    · exact elements_join h

theorem normalElements_ofElements {rooted : Bool} {es : List Bytes} (h : ∀ e ∈ es, IsElement e)
    (hnormal : Normal rooted es) : normalElements (ofElements rooted es) = es := by
  unfold normalElements
  rw [elements_ofElements h, isAbsolute_ofElements h, hnormal.foldl, List.reverse_reverse]

/-! ## The last element -/

theorem stripSlashes_eq_self {p e : Bytes} (hne : e ≠ []) (hslash : slash ∉ e) : stripSlashes (p ++ e) = p ++ e := by
  obtain ⟨front, b, rfl⟩ := List.eq_nil_or_concat e |>.resolve_left hne
  have hb : b ≠ slash := by
    rintro rfl
    simp at hslash
  simp [stripSlashes, hb]

theorem afterLastSlash_stem_append (q : Bytes) {e : Bytes} (hslash : slash ∉ e) :
    afterLastSlash (stem q ++ e) = e := by
  have hstem : (stem q).reverse.takeWhile (· ≠ slash) = [] := by
    unfold stem
    split <;> split <;> simp
  have he : ∀ b ∈ e.reverse, decide (b ≠ slash) = true := by
    intro b hb
    simpa using ne_of_mem_of_not_mem (List.mem_reverse.1 hb) hslash
  unfold afterLastSlash
  rw [List.reverse_append, List.takeWhile_append_of_pos he, hstem, List.append_nil, List.reverse_reverse]

theorem base_stem_append (q : Bytes) {e : Bytes} (hne : e ≠ []) (hslash : slash ∉ e) : base (stem q ++ e) = e := by
  unfold base
  rw [if_neg (List.append_ne_nil_of_right_ne_nil _ hne), stripSlashes_eq_self hne hslash,
    afterLastSlash_stem_append q hslash]
  simp [hne]

/-- A clean path as its last element behind the stem of a directory. -/
structure Splits (k q e : Bytes) : Prop where
  eq : k = stem q ++ e
  isElement : IsElement e
  isAbsolute : Path.isAbsolute q = Path.isAbsolute k
  elements : normalElements k = normalElements q ++ [e]

theorem exists_splits {k : Bytes} (hclean : clean k = k) (hne : normalElements k ≠ []) : ∃ q e, Splits k q e := by
  obtain ⟨es, e, hes⟩ : ∃ es e, normalElements k = es ++ [e] := by
    rcases List.eq_nil_or_concat (normalElements k) with h | ⟨es, e, h⟩
    · exact absurd h hne
    · exact ⟨es, e, by simpa using h⟩
  have helements := fun e he => @isElement_of_mem_normalElements k e he
  rw [hes] at helements
  have hbefore : ∀ x ∈ es, IsElement x := fun x hx => helements x (List.mem_append_left _ hx)
  have hnormal := normal_normalElements k
  rw [hes] at hnormal
  have hq := normalElements_ofElements hbefore hnormal.of_append.1
  have hrooted := @isAbsolute_ofElements (isAbsolute k) es hbefore
  refine ⟨ofElements (isAbsolute k) es, e, ?_, helements e (by simp), hrooted, by rw [hq, hes]⟩
  have hbody : Bytes.join [slash] (es ++ [e]) =
      (if es = [] then [] else Bytes.join [slash] es ++ [slash]) ++ e := by
    by_cases hnil : es = []
    · simp [hnil]
    · simp [Bytes.join_append_singleton _ _ hnil, hnil]
  have hbodyne : Bytes.join [slash] (es ++ [e]) ≠ [] := by
    rw [hbody]
    exact List.append_ne_nil_of_right_ne_nil _ (helements e (by simp)).nonempty
  conv => lhs; rw [← hclean, clean_eq_ofElements, hes]
  unfold stem ofElements
  rw [show (if isAbsolute k = true then slash :: Bytes.join [slash] es else _) = ofElements (isAbsolute k) es from rfl,
    hq, hrooted]
  simp only [hbodyne, if_false]
  split <;> simp [hbody]

section Splits

variable {k q e : Bytes} (h : Splits k q e)
include h

theorem Splits.dir : dir k = clean q := by
  rw [h.eq, dir_stem_append q h.isElement.noSlash]

theorem Splits.base : base k = e := by
  rw [h.eq, base_stem_append q h.isElement.nonempty h.isElement.noSlash]

theorem Splits.push : pushElement (Path.isAbsolute k) (normalElements q).reverse e = e :: (normalElements q).reverse := by
  have hnormal := normal_normalElements k
  rw [h.elements] at hnormal
  exact hnormal.of_append.2

end Splits

/-! ## Joining -/

theorem join_nil {e : Bytes} (he : e ≠ []) : join [] e = clean e := by simp [join, joinAll, he]

theorem join_element (p : Bytes) {e : Bytes} (he : IsElement e) :
    join p e = ofElements (isAbsolute p) (pushElement (isAbsolute p) (normalElements p).reverse e).reverse := by
  rcases eq_or_ne p [] with rfl | hp
  · rw [join_nil he.nonempty, clean_eq_ofElements, isAbsolute_of_isElement he, normalElements, isElement_singleton he,
      isAbsolute_of_isElement he]
    rfl
  · rw [join_eq_clean hp he.nonempty, clean_eq_ofElements, isAbsolute_append hp]
    unfold normalElements
    rw [elements_append, isElement_singleton he, isAbsolute_append hp, List.foldl_append]
    simp

theorem Splits.join {k q e : Bytes} (h : Splits k q e) (hclean : clean k = k) {p : Bytes}
    (habs : Path.isAbsolute p = Path.isAbsolute k) (hp : normalElements p = normalElements q) :
    Path.join p (Path.base k) = k := by
  rw [h.base, join_element p h.isElement, habs, hp, h.push]
  conv => rhs; rw [← hclean, clean_eq_ofElements, h.elements]
  simp

theorem join_dir_base {p : Bytes} (hclean : clean p = p) (hne : normalElements p ≠ []) : join (dir p) (base p) = p := by
  obtain ⟨q, e, hsplits⟩ := exists_splits hclean hne
  apply hsplits.join hclean
  · rw [hsplits.dir, isAbsolute_clean, hsplits.isAbsolute]
  · rw [hsplits.dir, normalElements_clean]

theorem join_eq_stem_append {p e : Bytes} (hp : p ≠ []) (he : IsElement e) (hdots : e ≠ dotDot) :
    join p e = stem p ++ e := by
  rw [join_eq_clean hp he.nonempty, clean_child hp (isElement_singleton he) hdots]

theorem normalElements_join (p : Bytes) {e : Bytes} (he : IsElement e) (hdots : e ≠ dotDot) :
    normalElements (join p e) = normalElements p ++ [e] := by
  rcases eq_or_ne p [] with rfl | hp
  · rw [join_nil he.nonempty, normalElements_clean, normalElements, isElement_singleton he]
    simp [pushElement, hdots, normalElements, elements]
  · rw [join_eq_clean hp he.nonempty, normalElements_clean,
      normalElements_child hp (isElement_singleton he) hdots]

theorem clean_join (p : Bytes) {e : Bytes} (he : e ≠ []) : clean (join p e) = join p e := by
  rcases eq_or_ne p [] with rfl | hp
  · rw [join_nil he, clean_clean]
  · rw [join_eq_clean hp he, clean_clean]

/-- At or below a directory, as both are spelled. -/
def Within (p dir : Bytes) : Prop :=
  isAbsolute p = isAbsolute dir ∧ ∃ rest, dotDot ∉ rest ∧ normalElements p = normalElements dir ++ rest

theorem eq_of_clean_eq {p q : Bytes} (h : clean p = clean q) :
    isAbsolute p = isAbsolute q ∧ normalElements p = normalElements q := by
  rw [← isAbsolute_clean p, ← normalElements_clean p, h, isAbsolute_clean, normalElements_clean]
  exact ⟨rfl, rfl⟩

theorem length_stem {q : Bytes} (h : normalElements q ≠ []) : (stem q).length = (clean q).length + 1 := by
  have hne := mt (join_eq_nil_iff fun e he => isElement_of_mem_normalElements he).1 h
  unfold clean stem
  simp only [h, hne, if_false]
  split <;> simp

/-! ## Base names -/

theorem elements_slashes {s : Bytes} (h : ∀ b ∈ s, b = slash) : elements s = [] := by
  induction s with
  | nil => decide
  | cons b rest ih =>
    obtain rfl := h b List.mem_cons_self
    have happend := elements_append [] rest
    rw [List.nil_append] at happend
    rw [happend, ih fun c hc => h c (List.mem_cons_of_mem _ hc)]
    decide

theorem elements_stripSlashes (p : Bytes) : elements (stripSlashes p) = elements p := by
  have hp : p = stripSlashes p ++ (p.reverse.takeWhile (· = slash)).reverse := by
    unfold stripSlashes
    rw [← List.reverse_append, List.takeWhile_append_dropWhile, List.reverse_reverse]
  have hslashes : ∀ b ∈ (p.reverse.takeWhile (· = slash)).reverse, b = slash := by
    intro b hb
    simpa using List.mem_takeWhile_imp (List.mem_reverse.1 hb)
  conv => rhs; rw [hp]
  cases htail : (p.reverse.takeWhile (· = slash)).reverse with
  | nil => rw [List.append_nil]
  | cons b rest =>
    rw [htail] at hslashes
    obtain rfl := hslashes b List.mem_cons_self
    rw [elements_append, elements_slashes fun c hc => hslashes c (List.mem_cons_of_mem _ hc), List.append_nil]

theorem exists_elements_base {p : Bytes} (h : IsElement (base p)) : ∃ before, elements p = before ++ [base p] := by
  have hbase : base p = afterLastSlash (stripSlashes p) := by
    unfold base at h ⊢
    split at h
    · exact absurd rfl h.notDot
    · rename_i hne
      simp only [hne, if_false] at h ⊢
      split at h
      · exact absurd (List.mem_singleton_self slash) h.noSlash
      · rename_i hlast
        rw [if_neg hlast]
  rw [← elements_stripSlashes p]
  generalize stripSlashes p = s at hbase
  have hs : s = upToLastSlash s ++ base p := by
    rw [hbase]
    unfold upToLastSlash afterLastSlash
    rw [← List.reverse_append, List.takeWhile_append_dropWhile, List.reverse_reverse]
  cases hfront : s.reverse.dropWhile (· ≠ slash) with
  | nil =>
    have hnil : upToLastSlash s = [] := by rw [upToLastSlash, hfront, List.reverse_nil]
    rw [hs, hnil, List.nil_append, isElement_singleton h]
    exact ⟨[], rfl⟩
  | cons b rest =>
    have hb : b = slash := by
      have hhead := List.head?_dropWhile_not (fun b : UInt8 => decide (b ≠ slash)) s.reverse
      rw [hfront] at hhead
      simpa using hhead
    have hup : upToLastSlash s = rest.reverse ++ [slash] := by rw [upToLastSlash, hfront, hb, List.reverse_cons]
    rw [hs, hup, List.append_assoc, List.singleton_append, elements_append, isElement_singleton h]
    exact ⟨_, rfl⟩

theorem exists_normalElements_base {p : Bytes} (h : IsElement (base p)) (hdots : base p ≠ dotDot) :
    ∃ before, normalElements p = before ++ [base p] := by
  obtain ⟨before, hbefore⟩ := exists_elements_base h
  unfold normalElements
  rw [hbefore, List.foldl_append]
  refine ⟨(before.foldl (pushElement (isAbsolute p)) []).reverse, ?_⟩
  simp [pushElement, hdots]

end Path

end LineCoverage
