import LineCoverage.Text.Space
import LineCoverage.Text.Utf8
import Mathlib

/-!
# What trimming leaves

A text is left alone at its end exactly if it does not end in a white space character.
-/

namespace LineCoverage

namespace Space

def codePoints : List Nat :=
  [0x09, 0x0A, 0x0B, 0x0C, 0x0D, 0x20, 0x85, 0xA0, 0x1680, 0x2000, 0x2001, 0x2002, 0x2003, 0x2004, 0x2005,
    0x2006, 0x2007, 0x2008, 0x2009, 0x200A, 0x2028, 0x2029, 0x202F, 0x205F, 0x3000]

def EndsInSpace (s : Bytes) : Prop := ∃ c ∈ codePoints, Utf8.encode c <:+ s

instance (s : Bytes) : Decidable (EndsInSpace s) :=
  inferInstanceAs (Decidable (∃ c ∈ codePoints, Utf8.encode c <:+ s))

/-! ## The end of a text, back to front -/

def beginsReversed : Bytes → Bool
  | [] => false
  | [a] => isAsciiSpace a
  | [b, a] => isAsciiSpace b || isSeparatorPair a b
  | c :: b :: a :: _ => isAsciiSpace c || isSeparatorPair b c || isSeparatorTail a b c

theorem trimLeftReversed_isSuffix (r : Bytes) : trimLeftReversed r <:+ r := by
  fun_induction trimLeftReversed r with
  | case1 => exact List.suffix_refl _
  | case2 a h => exact List.nil_suffix
  | case3 a h => exact List.suffix_refl _
  | case4 b a h ih => exact ih.trans (List.suffix_cons _ _)
  | case5 b a h1 h2 => exact List.nil_suffix
  | case6 b a h1 h2 => exact List.suffix_refl _
  | case7 c b a rest h ih => exact ih.trans (List.suffix_cons _ _)
  | case8 c b a rest h1 h2 ih => exact ih.trans (List.suffix_append [c, b] _)
  | case9 c b a rest h1 h2 h3 ih => exact ih.trans (List.suffix_append [c, b, a] _)
  | case10 c b a rest h1 h2 h3 => exact List.suffix_refl _

theorem beginsReversed_trimLeftReversed (r : Bytes) : beginsReversed (trimLeftReversed r) = false := by
  fun_induction trimLeftReversed r with
  | case1 => rfl
  | case2 a h => rfl
  | case3 a h => simpa [beginsReversed] using h
  | case4 b a h ih => exact ih
  | case5 b a h1 h2 => rfl
  | case6 b a h1 h2 => simp [beginsReversed, h1, h2]
  | case7 c b a rest h ih => exact ih
  | case8 c b a rest h1 h2 ih => exact ih
  | case9 c b a rest h1 h2 h3 ih => exact ih
  | case10 c b a rest h1 h2 h3 => simp [beginsReversed, h1, h2, h3]

theorem trimLeftReversed_eq_self {r : Bytes} (h : beginsReversed r = false) : trimLeftReversed r = r := by
  unfold trimLeftReversed
  split <;> simp_all [beginsReversed]

/-! ## White space as bytes -/

def spaces : List Bytes :=
  [[9], [10], [11], [12], [13], [32], [0xC2, 0x85], [0xC2, 0xA0], [0xE1, 0x9A, 0x80],
    [0xE2, 0x80, 0x80], [0xE2, 0x80, 0x81], [0xE2, 0x80, 0x82], [0xE2, 0x80, 0x83], [0xE2, 0x80, 0x84],
    [0xE2, 0x80, 0x85], [0xE2, 0x80, 0x86], [0xE2, 0x80, 0x87], [0xE2, 0x80, 0x88], [0xE2, 0x80, 0x89],
    [0xE2, 0x80, 0x8A], [0xE2, 0x80, 0xA8], [0xE2, 0x80, 0xA9], [0xE2, 0x80, 0xAF], [0xE2, 0x81, 0x9F],
    [0xE3, 0x80, 0x80]]

theorem encode_codePoints : codePoints.map Utf8.encode = spaces := by decide

theorem mem_spaces_one (a : UInt8) : [a] ∈ spaces ↔ isAsciiSpace a = true := by
  simp [spaces, isAsciiSpace, ← UInt8.toNat_inj, UInt8.le_iff_toNat_le]
  omega

theorem mem_spaces_two (a b : UInt8) : [a, b] ∈ spaces ↔ isSeparatorPair a b = true := by
  simp [spaces, isSeparatorPair]
  grind

theorem between_iff (c : UInt8) :
    (0x80 ≤ c ∧ c ≤ 0x8A) ↔ c ∈ [0x80, 0x81, 0x82, 0x83, 0x84, 0x85, 0x86, 0x87, 0x88, 0x89, 0x8A] := by
  simp [← UInt8.toNat_inj, UInt8.le_iff_toNat_le]
  omega

theorem mem_spaces_three (a b c : UInt8) : [a, b, c] ∈ spaces ↔ isSeparatorTail a b c = true := by
  have h := between_iff c
  simp only [spaces, isSeparatorTail, Bool.or_eq_true, Bool.and_eq_true, decide_eq_true_eq, h]
  by_cases ha : a = 0xE2
  · by_cases hb : b = 0x80
    · simp [ha, hb, or_assoc]
    · simp [ha, hb]
  · simp [ha, and_assoc]

theorem length_of_mem_spaces : ∀ e ∈ spaces, e.length = 1 ∨ e.length = 2 ∨ e.length = 3 := by decide

theorem beginsReversed_iff (r : Bytes) :
    beginsReversed r = true ↔
      (∃ a t, r = a :: t ∧ isAsciiSpace a = true) ∨
      (∃ b a t, r = b :: a :: t ∧ isSeparatorPair a b = true) ∨
      ∃ c b a t, r = c :: b :: a :: t ∧ isSeparatorTail a b c = true := by
  match r with
  | [] => simp [beginsReversed]
  | [a] => simp [beginsReversed]
  | [b, a] => simp [beginsReversed, and_assoc]
  | c :: b :: a :: t => simp [beginsReversed, or_assoc, and_assoc]

theorem endsInSpace_iff (s : Bytes) : EndsInSpace s ↔ beginsReversed s.reverse = true := by
  have hspaces : EndsInSpace s ↔ ∃ e ∈ spaces, e <:+ s := by
    rw [← encode_codePoints]
    simp only [EndsInSpace, List.mem_map]
    constructor
    · rintro ⟨c, hc, hs⟩
      exact ⟨_, ⟨c, hc, rfl⟩, hs⟩
    · rintro ⟨_, ⟨c, hc, rfl⟩, hs⟩
      exact ⟨c, hc, hs⟩
  rw [hspaces, beginsReversed_iff]
  simp only [← mem_spaces_one, ← mem_spaces_two, ← mem_spaces_three, List.reverse_eq_cons_iff]
  constructor
  · rintro ⟨e, he, t, rfl⟩
    have hlen := length_of_mem_spaces e he
    match e, hlen with
    | [a], _ => exact .inl ⟨a, t.reverse, by simp, he⟩
    | [a, b], _ => exact .inr (.inl ⟨b, a, t.reverse, by simp, he⟩)
    | [a, b, c], _ => exact .inr (.inr ⟨c, b, a, t.reverse, by simp, he⟩)
  · rintro (⟨a, t, rfl, he⟩ | ⟨b, a, t, rfl, he⟩ | ⟨c, b, a, t, rfl, he⟩)
    · exact ⟨_, he, t.reverse, rfl⟩
    · exact ⟨_, he, t.reverse, by simp⟩
    · exact ⟨_, he, t.reverse, by simp⟩

/-! ## Trimming -/

theorem trimRight_eq_self {s : Bytes} (h : ¬ EndsInSpace s) : trimRight s = s := by
  rw [endsInSpace_iff, Bool.not_eq_true] at h
  unfold trimRight
  rw [trimLeftReversed_eq_self h, List.reverse_reverse]

theorem not_endsInSpace_trimRight (s : Bytes) : ¬ EndsInSpace (trimRight s) := by
  rw [endsInSpace_iff, trimRight, List.reverse_reverse, beginsReversed_trimLeftReversed]
  simp

theorem trimRight_isPrefix (s : Bytes) : trimRight s <+: s := by
  rw [← List.reverse_suffix, trimRight, List.reverse_reverse]
  exact trimLeftReversed_isSuffix s.reverse

theorem trimLeft_isSuffix (s : Bytes) : trimLeft s <:+ s := by
  fun_induction trimLeft s with
  | case1 => exact List.suffix_refl _
  | case2 a h => exact List.nil_suffix
  | case3 a h => exact List.suffix_refl _
  | case4 a b h ih => exact ih.trans (List.suffix_cons _ _)
  | case5 a b h1 h2 => exact List.nil_suffix
  | case6 a b h1 h2 => exact List.suffix_refl _
  | case7 a b c rest h ih => exact ih.trans (List.suffix_cons _ _)
  | case8 a b c rest h1 h2 ih => exact ih.trans (List.suffix_append [a, b] _)
  | case9 a b c rest h1 h2 h3 ih => exact ih.trans (List.suffix_append [a, b, c] _)
  | case10 a b c rest h1 h2 h3 => exact List.suffix_refl _

theorem trim_isInfix (s : Bytes) : trim s <:+: s :=
  (trimRight_isPrefix (trimLeft s)).isInfix.trans (trimLeft_isSuffix s).isInfix

theorem not_endsInSpace_trim (s : Bytes) : ¬ EndsInSpace (trim s) := not_endsInSpace_trimRight _

/-! ## Visible bytes -/

/-- The bytes of ASCII characters that can be seen. None of them is part of white space. -/
def isVisible (b : UInt8) : Bool := 0x21 ≤ b && b ≤ 0x7E

theorem not_visible_of_mem_spaces : ∀ e ∈ spaces, ∀ b ∈ e, isVisible b = false := by
  have hall : (spaces.all fun e => e.all fun b => !isVisible b) = true := by decide
  intro e he b hb
  simpa using List.all_eq_true.1 (List.all_eq_true.1 hall e he) b hb

theorem trimLeft_eq_self {a : UInt8} (rest : Bytes) (h : isVisible a = true) :
    trimLeft (a :: rest) = a :: rest := by
  have hnot : ∀ e ∈ spaces, a ∉ e := by
    intro e he ha
    rw [not_visible_of_mem_spaces e he a ha] at h
    cases h
  have h1 : isAsciiSpace a = false := by
    rw [← Bool.not_eq_true, ← mem_spaces_one]
    exact fun h => hnot _ h (by simp)
  have h2 : ∀ b, isSeparatorPair a b = false := fun b => by
    rw [← Bool.not_eq_true, ← mem_spaces_two]
    exact fun h => hnot _ h (by simp)
  have h3 : ∀ b c, isSeparatorTail a b c = false := fun b c => by
    rw [← Bool.not_eq_true, ← mem_spaces_three]
    exact fun h => hnot _ h (by simp)
  unfold trimLeft
  split <;> simp_all

theorem endsInSpace_append_cons {b : UInt8} (front rest : Bytes) (h : isVisible b = true) :
    EndsInSpace (front ++ b :: rest) ↔ EndsInSpace rest := by
  have hmem : ∀ c ∈ codePoints, Utf8.encode c ∈ spaces := by
    intro c hc
    rw [← encode_codePoints]
    exact List.mem_map_of_mem hc
  constructor
  · rintro ⟨c, hc, hs⟩
    rcases List.suffix_or_suffix_of_suffix hs (List.suffix_append front (b :: rest)) with h1 | h1
    · rcases List.suffix_cons_iff.1 h1 with h2 | h2
      · have := not_visible_of_mem_spaces _ (hmem c hc) b (by simp [h2])
        rw [h] at this
        cases this
      · exact ⟨c, hc, h2⟩
    · have := not_visible_of_mem_spaces _ (hmem c hc) b (h1.subset (by simp))
      rw [h] at this
      cases this
  · rintro ⟨c, hc, hs⟩
    exact ⟨c, hc, hs.trans ((List.suffix_cons b rest).trans (List.suffix_append front _))⟩

theorem not_endsInSpace_nil : ¬ EndsInSpace [] := by decide

theorem trim_eq_self {a : UInt8} {rest : Bytes} (ha : isVisible a = true) (h : ¬ EndsInSpace (a :: rest)) :
    trim (a :: rest) = a :: rest := by
  unfold trim
  rw [trimLeft_eq_self rest ha, trimRight_eq_self h]

theorem not_endsInSpace_of_visible {s : Bytes} (h : ∀ b ∈ s, isVisible b = true) : ¬ EndsInSpace s := by
  rcases List.eq_nil_or_concat s with rfl | ⟨front, b, rfl⟩
  · exact not_endsInSpace_nil
  · rw [List.concat_eq_append, endsInSpace_append_cons front [] (h b (by simp))]
    exact not_endsInSpace_nil

theorem trim_of_visible {s : Bytes} (h : ∀ b ∈ s, isVisible b = true) : trim s = s := by
  cases s with
  | nil => rfl
  | cons a rest => exact trim_eq_self (h a List.mem_cons_self) (not_endsInSpace_of_visible h)

end Space

end LineCoverage
