import LineCoverage.Proofs.Text.Decimal

/-!
# Which texts are numbers

A number is read exactly if the text is a numeral, with or without a sign, whose value fits into 64 bits.
-/

namespace LineCoverage

namespace Decimal

/-- The value of digits, the most significant first, behind digits that are worth `acc`. -/
def valueFrom (acc : Nat) (digits : Bytes) : Nat := digits.foldl (fun n b => 10 * n + (b.toNat - 48)) acc

/-- One or more digits. -/
def IsNumeral (s : Bytes) : Prop := s ≠ [] ∧ ∀ b ∈ s, isDigit b = true

def IsUnsigned (s : Bytes) (n : UInt64) : Prop := IsNumeral s ∧ n.toNat = valueFrom 0 s

/-- The text is a numeral for a signed 64-bit number, perhaps with one sign in front. -/
def IsSigned (s : Bytes) (n : Int64) : Prop :=
  ∃ digits, IsNumeral digits ∧
    ((s = digits ∨ s = ch '+' :: digits) ∧ n.toInt = valueFrom 0 digits ∨
      s = ch '-' :: digits ∧ n.toInt = -(valueFrom 0 digits : Int))

/-! ## Digits -/

theorem le_valueFrom (acc : Nat) (digits : Bytes) : acc ≤ valueFrom acc digits := by
  unfold valueFrom
  induction digits generalizing acc with
  | nil => exact Nat.le_refl acc
  | cons b rest ih =>
    have := ih (10 * acc + (b.toNat - 48))
    rw [List.foldl_cons]
    omega

theorem readDigits_eq_ok_iff {acc n : Nat} (s : Bytes) (hacc : acc < wordLimit) :
    readDigits acc s = .ok n ↔ (∀ b ∈ s, isDigit b = true) ∧ n = valueFrom acc s ∧ n < wordLimit := by
  induction s generalizing acc with
  | nil =>
    simp only [readDigits, valueFrom, List.foldl_nil, Except.ok.injEq, List.not_mem_nil, false_implies, implies_true,
      true_and]
    constructor
    · rintro rfl
      exact ⟨rfl, hacc⟩
    · rintro ⟨rfl, _⟩
      rfl
  | cons b rest ih =>
    have hvalue : valueFrom acc (b :: rest) = valueFrom (10 * acc + (b.toNat - 48)) rest := rfl
    rw [readDigits, hvalue, List.forall_mem_cons]
    cases hb : isDigit b with
    | false => simp
    | true =>
      simp only [Bool.not_true, Bool.false_eq_true, if_false, true_and]
      split
      · rename_i hlt
        exact ih hlt
      · -- The value only grows, so it cannot come back below the limit.
        rename_i hge
        have hle := le_valueFrom (10 * acc + (b.toNat - 48)) rest
        constructor
        · intro h
          cases h
        · rintro ⟨_, rfl, hlt⟩
          omega

theorem magnitude_eq_ok_iff {s : Bytes} {n : Nat} :
    magnitude s = .ok n ↔ IsNumeral s ∧ n = valueFrom 0 s ∧ n < wordLimit := by
  unfold magnitude IsNumeral
  cases s with
  | nil => simp
  | cons b rest =>
    rw [if_neg (by simp), readDigits_eq_ok_iff _ (by decide)]
    simp

theorem readUnsigned_eq_ok_iff {s : Bytes} {n : UInt64} : readUnsigned s = .ok n ↔ IsUnsigned s n := by
  unfold readUnsigned IsUnsigned
  constructor
  · intro h
    cases hm : magnitude s with
    | error e => simp [hm, Except.map] at h
    | ok k =>
      obtain ⟨hs, hk, hlt⟩ := magnitude_eq_ok_iff.1 hm
      obtain rfl : UInt64.ofNat k = n := by simpa [hm, Except.map] using h
      refine ⟨hs, ?_⟩
      rw [UInt64.toNat_ofNat_of_lt' (by simpa using hlt), hk]
  · rintro ⟨hs, hn⟩
    rw [magnitude_eq_ok_iff.2 ⟨hs, hn, n.toNat_lt⟩]
    simp [Except.map]

/-! ## Shortest numerals -/

/-- A numeral without zeros in front. -/
def IsShortest (s : Bytes) : Prop := IsNumeral s ∧ (s.head? = some (ch '0') → s = [ch '0'])

theorem valueFrom_append_singleton (acc : Nat) (s : Bytes) (b : UInt8) :
    valueFrom acc (s ++ [b]) = 10 * valueFrom acc s + (b.toNat - 48) := by
  unfold valueFrom
  rw [List.foldl_append]
  rfl

theorem digitByte_of_isDigit {b : UInt8} (h : isDigit b = true) : b.toNat - 48 < 10 ∧ digitByte (b.toNat - 48) = b := by
  simp only [isDigit, Bool.and_eq_true, decide_eq_true_eq, UInt8.le_iff_toNat_le] at h
  have hlow : 48 ≤ b.toNat := h.1
  have hhigh : b.toNat ≤ 57 := h.2
  refine ⟨by omega, ?_⟩
  apply UInt8.toNat_inj.1
  rw [toNat_digitByte (by omega)]
  omega

theorem head?_ofNat {n : Nat} (h : 0 < n) : (ofNat n).head? ≠ some (ch '0') := by
  induction n using Nat.base_induction 10 (by omega) with
  | single d hd =>
    rw [ofNat_single hd]
    intro hzero
    have hbyte : digitByte d = ch '0' := by simpa using hzero
    have hd' := toNat_digitByte hd
    rw [hbyte] at hd'
    have hch : (ch '0').toNat = 48 := by decide
    omega
  | digit m d hd hm ih =>
    rw [ofNat_digit hm hd, List.head?_append_of_ne_nil _ (ofNat_ne_nil m)]
    exact ih hm

theorem isShortest_ofNat (n : Nat) : IsShortest (ofNat n) := by
  refine ⟨⟨ofNat_ne_nil n, isDigit_of_mem_ofNat n⟩, ?_⟩
  intro hzero
  rcases Nat.eq_zero_or_pos n with rfl | hn
  · decide
  · exact absurd hzero (head?_ofNat hn)

theorem ofNat_valueFrom {s : Bytes} (h : IsShortest s) : ofNat (valueFrom 0 s) = s := by
  obtain ⟨⟨hne, hdigits⟩, hlead⟩ := h
  induction s using List.reverseRecOn with
  | nil => exact absurd rfl hne
  | append_singleton front b ih =>
    obtain ⟨hlt, hb⟩ := digitByte_of_isDigit (hdigits b (by simp))
    rw [valueFrom_append_singleton]
    by_cases hfront : front = []
    · subst hfront
      have hvalue : valueFrom 0 [] = 0 := rfl
      rw [hvalue, Nat.mul_zero, Nat.zero_add, ofNat_single hlt, hb]
      rfl
    · have hhead : front.head? ≠ some (ch '0') := by
        intro hzero
        have hwhole := hlead (by rw [List.head?_append_of_ne_nil _ hfront]; exact hzero)
        have hlength := congrArg List.length hwhole
        simp [hfront] at hlength
      have hbefore := ih (fun hzero => absurd hzero hhead) hfront fun c hc => hdigits c (List.mem_append_left _ hc)
      have hpos : 0 < valueFrom 0 front := by
        apply Nat.pos_of_ne_zero
        intro hzero
        rw [hzero] at hbefore
        apply hhead
        rw [← hbefore]
        decide
      rw [ofNat_digit hpos hlt, hbefore, hb]

/-! ## Signs -/

theorem isDigit_sign : isDigit (ch '-') = false ∧ isDigit (ch '+') = false := by decide

theorem splitSign_of_numeral {s : Bytes} (h : IsNumeral s) : splitSign s = (false, s) := by
  cases s with
  | nil => rfl
  | cons b rest =>
    have hb := h.2 b List.mem_cons_self
    have hminus : b ≠ ch '-' := by
      rintro rfl
      rw [isDigit_sign.1] at hb
      cases hb
    have hplus : b ≠ ch '+' := by
      rintro rfl
      rw [isDigit_sign.2] at hb
      cases hb
    simp [splitSign, hminus, hplus]

theorem splitSign_cases {s digits : Bytes} {negative : Bool} (h : splitSign s = (negative, digits)) :
    negative = true ∧ s = ch '-' :: digits ∨ negative = false ∧ (s = digits ∨ s = ch '+' :: digits) := by
  cases s with
  | nil =>
    cases h
    exact .inr ⟨rfl, .inl rfl⟩
  | cons b rest =>
    simp only [splitSign] at h
    split at h
    · rename_i hb
      cases h
      exact .inl ⟨rfl, by rw [hb]⟩
    · split at h
      · rename_i hb
        cases h
        exact .inr ⟨rfl, .inr (by rw [hb])⟩
      · cases h
        exact .inr ⟨rfl, .inl rfl⟩

theorem readSigned_eq_ok_iff_magnitude {s digits : Bytes} {negative : Bool} {n : Int64}
    (h : splitSign s = (negative, digits)) :
    readSigned s = .ok n ↔ ∃ k : Nat, magnitude digits = .ok k ∧ n.toInt = if negative then -(k : Int) else k := by
  unfold readSigned
  simp only [h]
  cases magnitude digits with
  | error e => simp [bind, Except.bind]
  | ok k =>
    simp only [bind, Except.bind, Except.ok.injEq, exists_eq_left']
    have hlow := n.le_toInt
    have hhigh := n.toInt_lt
    generalize (if negative then -(k : Int) else k) = v
    constructor
    · intro hn
      split at hn
      · rename_i hfits
        obtain rfl : Int64.ofInt v = n := by simpa [pure, Except.pure] using hn
        exact Int64.toInt_ofInt_of_le (by simpa using hfits.1) (by simpa using hfits.2)
      · cases hn
    · rintro rfl
      rw [if_pos ⟨by simpa using hlow, by simpa using hhigh⟩, Int64.ofInt_toInt]
      rfl

theorem readSigned_eq_ok_iff {s : Bytes} {n : Int64} : readSigned s = .ok n ↔ IsSigned s n := by
  rcases hsplit : splitSign s with ⟨negative, digits⟩
  rw [readSigned_eq_ok_iff_magnitude hsplit]
  constructor
  · rintro ⟨k, hk, hn⟩
    obtain ⟨hdigits, rfl, _⟩ := magnitude_eq_ok_iff.1 hk
    refine ⟨digits, hdigits, ?_⟩
    rcases splitSign_cases hsplit with ⟨rfl, hs⟩ | ⟨rfl, hs⟩
    · exact .inr ⟨hs, hn⟩
    · exact .inl ⟨hs, hn⟩
  · rintro ⟨digits', hdigits, hcase⟩
    have hlow := n.le_toInt
    have hhigh := n.toInt_lt
    have hread : ∀ negative', splitSign s = (negative', digits') →
        (n.toInt = if negative' then -(valueFrom 0 digits' : Int) else valueFrom 0 digits') →
        ∃ k : Nat, magnitude digits = .ok k ∧ n.toInt = if negative then -(k : Int) else k := by
      rintro negative' hsplit' hn
      rw [hsplit] at hsplit'
      obtain ⟨rfl, rfl⟩ := Prod.mk.inj hsplit'
      refine ⟨_, magnitude_eq_ok_iff.2 ⟨hdigits, rfl, ?_⟩, hn⟩
      unfold wordLimit
      split at hn <;> omega
    rcases hcase with ⟨hs | hs, hn⟩ | ⟨hs, hn⟩
    · exact hread false (by rw [hs]; exact splitSign_of_numeral hdigits) hn
    · exact hread false (by rw [hs]; rfl) hn
    · exact hread true (by rw [hs]; rfl) hn

theorem signed_eq_ok_iff {s : Bytes} {n : Int64} : signed s = .ok n ↔ IsSigned s n := by
  rw [← readSigned_eq_ok_iff, signed]
  cases readSigned s <;> simp [Except.mapError]

theorem unsigned_eq_ok_iff {s : Bytes} {n : UInt64} : unsigned s = .ok n ↔ IsUnsigned s n := by
  rw [← readUnsigned_eq_ok_iff, unsigned]
  cases readUnsigned s <;> simp [Except.mapError]

end Decimal

end LineCoverage
