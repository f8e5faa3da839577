import LineCoverage.Proofs.Text.Decimal
import LineCoverage.Trace.Token

/-!
# Tokens are read back

The machine gives out the tokens that a text spells, whatever white space stands between them. A number is
given out with the byte behind it, so until then it is pending.
-/

namespace LineCoverage

namespace Trace

/-! ## Spelling -/

/-- How a token is written. Names are written as they are, numbers in plain decimal. -/
def Token.spelling : Token → Bytes
  | .openObject => [0x7B]
  | .closeObject => [0x7D]
  | .openList => [ch '[']
  | .closeList => [ch ']']
  | .comma => [ch ',']
  | .colon => [ch ':']
  | .null => utf8 "null"
  | .name text => ch '"' :: text ++ [ch '"']
  | .number value => Decimal.ofUInt64 value

/-- A text that spells tokens one after the other, with any white space before, between and behind them. -/
inductive Spells : List Token → Bytes → Prop where
  | done {blanks : Bytes} (hblanks : ∀ b ∈ blanks, isBlank b = true) : Spells [] blanks
  | token {blanks text : Bytes} {rest : List Token} (t : Token) (hblanks : ∀ b ∈ blanks, isBlank b = true)
      (hrest : Spells rest text) : Spells (t :: rest) (blanks ++ (t.spelling ++ text))

def spaced (blanks : Bytes) (tokens : List Token) : Bytes := tokens.flatMap fun t => blanks ++ t.spelling

theorem spells_spaced {blanks : Bytes} (h : ∀ b ∈ blanks, isBlank b = true) (tokens : List Token) :
    Spells tokens (spaced blanks tokens) := by
  induction tokens with
  | nil => exact @Spells.done [] (by simp)
  | cons t rest ih =>
    have := Spells.token t h ih
    rwa [← List.append_assoc] at this

/-- A name that can be written without escapes. -/
def IsPlain (name : Bytes) : Prop := ∀ b ∈ name, b ≠ ch '"' ∧ b ≠ ch '\\' ∧ 32 ≤ b

instance (name : Bytes) : Decidable (IsPlain name) :=
  inferInstanceAs (Decidable (∀ b ∈ name, b ≠ ch '"' ∧ b ≠ ch '\\' ∧ 32 ≤ b))

def Token.isNumber : Token → Bool
  | .number _ => true
  | _ => false

/-- Tokens whose spellings do not run into each other: a number is not followed by a number, and names are plain. -/
structure Separable (tokens : List Token) : Prop where
  numbers : tokens.IsChain fun t u => t.isNumber = true → u.isNumber = false
  names : ∀ name, Token.name name ∈ tokens → IsPlain name

/-! ## The machine -/

/-- Takes all bytes of a text: the state behind them and the tokens they complete. -/
def scanAll (s : Scan) : Bytes → Option (Scan × List Token)
  | [] => some (s, [])
  | b :: text => do
    let (s, tokens) ← scanByte s b
    let (s, more) ← scanAll s text
    pure (s, tokens ++ more)

theorem scanAll_append (s : Scan) (a b : Bytes) :
    scanAll s (a ++ b) = (scanAll s a).bind fun (s, tokens) =>
      (scanAll s b).map fun (s, more) => (s, tokens ++ more) := by
  induction a generalizing s with
  | nil => simp [scanAll]
  | cons byte a ih =>
    simp only [List.cons_append, scanAll]
    cases scanByte s byte with
    | none => rfl
    | some result =>
      obtain ⟨s, tokens⟩ := result
      simp only [bind, Option.bind, ih]
      cases scanAll s a with
      | none => rfl
      | some result =>
        obtain ⟨s, more⟩ := result
        cases hb : scanAll s b <;> simp [pure, hb]

/-- From the state `s` the text leads to the state `s'` and gives out the tokens. -/
def Scans (s : Scan) (text : Bytes) (tokens : List Token) (s' : Scan) : Prop := scanAll s text = some (s', tokens)

theorem Scans.append {s s₁ s₂ : Scan} {a b : Bytes} {tokens more : List Token} (ha : Scans s a tokens s₁)
    (hb : Scans s₁ b more s₂) : Scans s (a ++ b) (tokens ++ more) s₂ := by
  unfold Scans at *
  rw [scanAll_append, ha]
  simp [hb]

theorem Scans.cons {s s₁ s₂ : Scan} {b : UInt8} {text : Bytes} {tokens more : List Token}
    (hb : scanByte s b = some (s₁, tokens)) (htext : Scans s₁ text more s₂) :
    Scans s (b :: text) (tokens ++ more) s₂ := by
  unfold Scans at *
  simp [scanAll, hb, htext]

/-- Between tokens, but perhaps behind a number that has not been given out. -/
inductive Ready : Scan → List Token → Prop where
  | between : Ready .between []
  | digits (value : UInt64) (closed : Bool) : Ready (.digits value closed) [.number value]

theorem scanByte_ready {s : Scan} {pending : List Token} (h : Ready s pending) {b : UInt8} {s' : Scan}
    {t : Option Token} (hdigit : Decimal.isDigit b = false) (hb : scanBetween b = some (s', t)) :
    scanByte s b = some (s', pending ++ t.toList) := by
  cases h with
  | between => simp [scanByte, hb]
  | digits value closed => simp [scanByte, hb, hdigit]

/-! ## White space -/

theorem isDigit_of_isBlank {b : UInt8} (h : isBlank b = true) : Decimal.isDigit b = false := by
  simp only [isBlank, Bool.or_eq_true, decide_eq_true_eq] at h
  rcases h with ((rfl | rfl) | rfl) | rfl <;> decide

theorem scans_blanks {s : Scan} {pending : List Token} (h : Ready s pending) {blanks : Bytes}
    (hblanks : ∀ b ∈ blanks, isBlank b = true) :
    Scans s blanks [] s ∨ Scans s blanks pending .between := by
  induction blanks generalizing s pending with
  | nil => exact .inl rfl
  | cons b rest ih =>
    have hb := hblanks b List.mem_cons_self
    have hstep : scanByte s b = some (.between, pending) := by
      have hbetween : scanBetween b = some (.between, none) := by simp [scanBetween, hb]
      rw [scanByte_ready h (isDigit_of_isBlank hb) hbetween]
      simp
    have hrest := ih .between fun c hc => hblanks c (List.mem_cons_of_mem _ hc)
    rcases hrest with hrest | hrest
    all_goals exact .inr (by simpa using Scans.cons hstep hrest)

/-! ## Numbers -/

theorem pushDigit_digitByte {m d : Nat} (hd : d < 10) (h : 10 * m + d < 2 ^ 64) :
    pushDigit (UInt64.ofNat m) (Decimal.digitByte d) = some (UInt64.ofNat (10 * m + d)) := by
  have hnext : UInt64.ofNat m * 10 + (Decimal.digitByte d - 48).toUInt64 = UInt64.ofNat (10 * m + d) := by
    rw [← UInt64.toNat_inj]
    have hdigit : (Decimal.digitByte d - 48).toNat = d := by
      rw [UInt8.toNat_sub, Decimal.toNat_digitByte hd]
      simp
      omega
    simp only [UInt64.toNat_add, UInt64.toNat_mul, UInt64.toNat_ofNat', UInt8.toNat_toUInt64, hdigit,
      UInt64.toNat_ofNat]
    omega
  -- The value never gets smaller, so the test for a wrap does not fire.
  have hgrows : ¬ UInt64.ofNat (10 * m + d) < UInt64.ofNat m := by
    have hm : m < 2 ^ 64 := by omega
    rw [UInt64.lt_iff_toNat_lt, UInt64.toNat_ofNat_of_lt' h, UInt64.toNat_ofNat_of_lt' hm]
    omega
  unfold pushDigit
  rw [hnext, if_neg fun hwrap => hgrows hwrap.2]

theorem scanByte_firstDigit {d : Nat} (hd : d < 10) :
    scanByte .between (Decimal.digitByte d) = some (.digits (UInt64.ofNat d) (d = 0), []) := by
  interval_cases d <;> decide

theorem scans_ofNat (n : Nat) (h : n < 2 ^ 64) :
    Scans .between (Decimal.ofNat n) [] (.digits (UInt64.ofNat n) (n = 0)) := by
  induction n using Nat.base_induction 10 (by omega) with
  | single d hd =>
    rw [Decimal.ofNat_single hd]
    exact Scans.cons (scanByte_firstDigit hd) rfl
  | digit m d hd hm ih =>
    rw [Decimal.ofNat_digit hm hd]
    have hlast : scanByte (.digits (UInt64.ofNat m) (decide (m = 0))) (Decimal.digitByte d) =
        some (.digits (UInt64.ofNat (10 * m + d)) false, []) := by
      have hopen : decide (m = 0) = false := by simpa using hm.ne'
      simp [scanByte, Decimal.isDigit_digitByte hd, pushDigit_digitByte hd h, hopen]
    have hclosed : decide (10 * m + d = 0) = false := by
      rw [decide_eq_false_iff_not]
      omega
    rw [hclosed]
    exact (ih (by omega)).append (Scans.cons hlast rfl)

theorem scans_number (value : UInt64) :
    ∃ closed, Scans .between (Token.number value).spelling [] (.digits value closed) := by
  have h := scans_ofNat value.toNat value.toNat_lt
  rw [UInt64.ofNat_toNat] at h
  exact ⟨_, h⟩

/-! ## Other tokens -/

theorem scans_nameText {rest : Bytes} (h : IsPlain rest) (text : Bytes) :
    Scans (.plain text) (rest ++ [ch '"']) [.name (text.reverse ++ rest)] .between := by
  induction rest generalizing text with
  | nil => simp [Scans, scanAll, scanByte]
  | cons b rest ih =>
    obtain ⟨hquote, hbackslash, hcontrol⟩ := h b List.mem_cons_self
    have hb : scanByte (.plain text) b = some (.plain (b :: text), []) := by
      have : ¬ b < 32 := UInt8.not_lt.2 hcontrol
      simp [scanByte, hquote, hbackslash, this]
    have hrest := ih (fun c hc => h c (List.mem_cons_of_mem _ hc)) (b :: text)
    rw [List.reverse_cons, List.append_assoc, List.singleton_append] at hrest
    exact Scans.cons hb hrest

theorem scans_token {s : Scan} {pending : List Token} (h : Ready s pending) (t : Token)
    (hnumber : t.isNumber = false) (hplain : ∀ name, t = .name name → IsPlain name) :
    Scans s t.spelling (pending ++ [t]) .between := by
  have single : ∀ b, Decimal.isDigit b = false → scanBetween b = some (.between, some t) →
      Scans s [b] (pending ++ [t]) .between := by
    intro b hdigit hb
    have := Scans.cons (scanByte_ready h hdigit hb) (show Scans .between [] [] .between from rfl)
    simpa using this
  cases t with
  | openObject | closeObject | openList | closeList | comma | colon =>
    exact single _ (by decide) (by decide)
  | null =>
    have hfirst := scanByte_ready h (b := ch 'n') (by decide) (show scanBetween _ = _ from rfl)
    have hrest : Scans (.literal (utf8 "ull")) (utf8 "ull") [.null] .between := rfl
    have hnull := Scans.cons hfirst hrest
    rw [Option.toList_none, List.append_nil] at hnull
    exact hnull
  | name text =>
    have hfirst := scanByte_ready h (b := ch '"') (by decide) (show scanBetween _ = _ from rfl)
    have hname := Scans.cons hfirst (scans_nameText (hplain text rfl) [])
    rw [Option.toList_none, List.append_nil] at hname
    exact hname
  | number value => cases hnumber

/-! ## Texts -/

theorem Separable.of_append {pending tokens : List Token} (h : Separable (pending ++ tokens)) :
    Separable tokens :=
  ⟨h.numbers.right_of_append, fun name hname => h.names name (List.mem_append_right _ hname)⟩

/-- The tokens of a text are given out, all but a number at its end. -/
theorem Spells.scans {tokens : List Token} {text : Bytes} (h : Spells tokens text) {s : Scan}
    {pending : List Token} (hready : Ready s pending) (hsep : Separable (pending ++ tokens)) :
    ∃ s' out left, Scans s text out s' ∧ Ready s' left ∧ out ++ left = pending ++ tokens := by
  induction h generalizing s pending with
  | done hblanks =>
    rcases scans_blanks hready hblanks with hscan | hscan
    · exact ⟨s, [], pending, hscan, hready, by simp⟩
    · exact ⟨_, pending, [], hscan, .between, rfl⟩
  | @token blanks text rest t hblanks hrest ih =>
    -- Behind the white space nothing is pending, or what was pending before it.
    obtain ⟨s₁, given, pending₁, hscan, hready₁, rfl⟩ : ∃ s₁ given pending₁, Scans s blanks given s₁ ∧
        Ready s₁ pending₁ ∧ given ++ pending₁ = pending := by
      rcases scans_blanks hready hblanks with hscan | hscan
      · exact ⟨s, [], pending, hscan, hready, rfl⟩
      · exact ⟨_, pending, [], hscan, .between, by simp⟩
    rw [List.append_assoc] at hsep
    have hsep₁ := hsep.of_append
    cases hnumber : t.isNumber with
    | false =>
      have ht := scans_token hready₁ t hnumber fun name hname => hsep₁.names name (by simp [hname])
      obtain ⟨s', out, left, hout, hleft, heq⟩ := ih .between (by
        rw [List.append_cons] at hsep₁
        exact hsep₁.of_append)
      refine ⟨s', _, left, hscan.append (ht.append hout), hleft, ?_⟩
      simp [heq]
    | true =>
      cases t with
      | number value =>
        cases hready₁ with
        | between =>
          obtain ⟨closed, ht⟩ := scans_number value
          obtain ⟨s', out, left, hout, hleft, heq⟩ := ih (.digits value closed) hsep₁
          refine ⟨s', _, left, hscan.append (ht.append hout), hleft, ?_⟩
          simp [heq]
        | digits value' closed =>
          -- Two numbers in a row.
          have := (List.isChain_cons_cons.1 hsep₁.numbers).1 rfl
          cases this
      | _ => cases hnumber

end Trace

end LineCoverage
