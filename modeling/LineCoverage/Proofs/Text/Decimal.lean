import LineCoverage.Text.NumberError
import Mathlib

/-!
# Decimal numbers are read back

Reading the digits of a number gives the number, for all 64-bit numbers.
-/

namespace LineCoverage

namespace Decimal

def digitByte (d : Nat) : UInt8 := UInt8.ofNat (48 + d)

theorem ofNat_single {d : Nat} (h : d < 10) : ofNat d = [digitByte d] := by
  simp [ofNat, Nat.toDigits_of_lt_base h, ch, Nat.toNat_digitChar_of_lt_ten h, digitByte]

theorem ofNat_digit {m d : Nat} (hm : 0 < m) (hd : d < 10) :
    ofNat (10 * m + d) = ofNat m ++ [digitByte d] := by
  rw [← ofNat_single hd]
  unfold ofNat
  rw [← List.map_append, Nat.toDigits_append_toDigits (by omega) hm hd]

theorem ofNat_ne_nil (n : Nat) : ofNat n ≠ [] := by simp [ofNat]

theorem ofInt64_ne_nil (n : Int64) : ofInt64 n ≠ [] := by
  unfold ofInt64 ofInt
  split
  · exact ofNat_ne_nil _
  · exact List.cons_ne_nil _ _

theorem toNat_digitByte {d : Nat} (h : d < 10) : (digitByte d).toNat = 48 + d := by
  unfold digitByte
  rw [UInt8.toNat_ofNat']
  omega

theorem isDigit_digitByte {d : Nat} (h : d < 10) : isDigit (digitByte d) = true := by
  simp only [isDigit, Bool.and_eq_true, decide_eq_true_eq, UInt8.le_iff_toNat_le, toNat_digitByte h]
  simp
  omega

theorem isDigit_of_mem_ofNat (n : Nat) : ∀ b ∈ ofNat n, isDigit b = true := by
  induction n using Nat.base_induction 10 (by omega) with
  | single d hd =>
    rw [ofNat_single hd]
    simpa using isDigit_digitByte hd
  | digit m d hd hm ih =>
    rw [ofNat_digit hm hd]
    intro b hb
    rcases List.mem_append.1 hb with hb | hb
    · exact ih b hb
    · rw [List.mem_singleton.1 hb]
      exact isDigit_digitByte hd

theorem length_ofNat_le (n : Nat) (h : n < wordLimit) : (ofNat n).length ≤ 20 := by
  unfold ofNat
  rw [List.length_map, Nat.length_toDigits_le_iff (by omega) (by omega)]
  exact Nat.lt_trans h (by decide)

theorem mem_ofInt64 (n : Int64) : ∀ b ∈ ofInt64 n, b = ch '-' ∨ isDigit b = true := by
  intro b hb
  unfold ofInt64 ofInt at hb
  split at hb
  · exact .inr (isDigit_of_mem_ofNat _ b hb)
  · rcases List.mem_cons.1 hb with rfl | hb
    · exact .inl rfl
    · exact .inr (isDigit_of_mem_ofNat _ b hb)

theorem length_ofInt64_le (n : Int64) : (ofInt64 n).length ≤ 21 := by
  have hlow := n.le_toInt
  have hhigh := n.toInt_lt
  unfold ofInt64 ofInt
  split
  · rename_i m hm
    have hm' : n.toInt = (m : Int) := hm
    have := length_ofNat_le m (by unfold wordLimit; omega)
    omega
  · rename_i m hm
    have := length_ofNat_le (m + 1) (by unfold wordLimit; omega)
    rw [List.length_cons]
    omega

/-! ## Reading -/

theorem readDigits_digitByte {acc d : Nat} (rest : Bytes) (hd : d < 10) (h : 10 * acc + d < wordLimit) :
    readDigits acc (digitByte d :: rest) = readDigits (10 * acc + d) rest := by
  rw [readDigits, isDigit_digitByte hd, toNat_digitByte hd]
  simp [h]

theorem readDigits_ofNat_append (n : Nat) (rest : Bytes) (h : n < wordLimit) :
    readDigits 0 (ofNat n ++ rest) = readDigits n rest := by
  induction n using Nat.base_induction 10 (by omega) generalizing rest with
  | single d hd =>
    rw [ofNat_single hd, List.singleton_append, readDigits_digitByte rest hd (by omega)]
    simp
  | digit m d hd hm ih =>
    rw [ofNat_digit hm hd, List.append_assoc, ih _ (by omega), List.singleton_append,
      readDigits_digitByte rest hd h]

theorem magnitude_ofNat (n : Nat) (h : n < wordLimit) : magnitude (ofNat n) = .ok n := by
  unfold magnitude
  rw [if_neg (by simp [ofNat_ne_nil])]
  simpa [readDigits] using readDigits_ofNat_append n [] h

theorem splitSign_ofNat (n : Nat) : splitSign (ofNat n) = (false, ofNat n) := by
  cases h : ofNat n with
  | nil => rfl
  | cons b rest =>
    have hb := isDigit_of_mem_ofNat n b (by simp [h])
    have hminus : b ≠ ch '-' := by rintro rfl; simp [isDigit, ch] at hb
    have hplus : b ≠ ch '+' := by rintro rfl; simp [isDigit, ch] at hb
    simp [splitSign, hminus, hplus]

theorem readSigned_ofNat (n : Nat) (h : n < signedLimit) : readSigned (ofNat n) = .ok (Int64.ofNat n) := by
  unfold readSigned
  rw [splitSign_ofNat]
  simp only [magnitude_ofNat n (Nat.lt_trans h (by decide)), bind, Except.bind]
  simp only [Bool.false_eq_true, if_false]
  rw [if_pos (by omega)]
  simp [pure, Except.pure, Int64.ofInt_eq_ofNat]

theorem readSigned_negative (n : Nat) (h : n ≤ signedLimit) :
    readSigned (ch '-' :: ofNat n) = .ok (Int64.ofInt (-n)) := by
  unfold readSigned
  simp only [splitSign, if_true, magnitude_ofNat n (Nat.lt_of_le_of_lt h (by decide)), bind, Except.bind]
  rw [if_pos (by unfold signedLimit at *; omega)]
  rfl

theorem readSigned_ofInt64 (n : Int64) : readSigned (ofInt64 n) = .ok n := by
  have hlow := n.le_toInt
  have hhigh := n.toInt_lt
  have hn := n.ofInt_toInt
  unfold ofInt64
  cases h : n.toInt with
  | ofNat k =>
    rw [h, Int.ofNat_eq_natCast] at hhigh hn
    have hk : k < signedLimit := by unfold signedLimit; omega
    rw [ofInt, readSigned_ofNat k hk, ← hn, Int64.ofInt_eq_ofNat]
  | negSucc k =>
    rw [h] at hlow hn
    have hk : k + 1 ≤ signedLimit := by unfold signedLimit; omega
    rw [ofInt, readSigned_negative (k + 1) hk, ← hn]
    rfl

theorem readUnsigned_ofUInt64 (n : UInt64) : readUnsigned (ofUInt64 n) = .ok n := by
  unfold readUnsigned ofUInt64
  rw [magnitude_ofNat _ n.toNat_lt]
  simp [Except.map]

theorem signed_ofInt64 (n : Int64) : signed (ofInt64 n) = .ok n := by
  unfold signed
  rw [readSigned_ofInt64]
  rfl

theorem signed_ofNat (n : Nat) (h : n < signedLimit) : signed (ofNat n) = .ok (Int64.ofNat n) := by
  unfold signed
  rw [readSigned_ofNat n h]
  rfl

theorem unsigned_ofUInt64 (n : UInt64) : unsigned (ofUInt64 n) = .ok n := by
  unfold unsigned
  rw [readUnsigned_ofUInt64]
  rfl

end Decimal

end LineCoverage
