import LineCoverage.Proofs.Tracefile.Grammar

/-!
# The lines that a reader looks at

White space around lines, blank lines and lines with unknown keys make no difference to a reader, and neither does the
order in which a record gives its data.
-/

namespace LineCoverage

namespace Tracefile

def knownKeys : List Bytes := [utf8 "TN", utf8 "SF", utf8 "DA", utf8 "LH", utf8 "LF"]

def isIgnored (line : Bytes) : Bool := (keyOf line).any (· ∉ knownKeys)

/-- The lines that matter: those that count, but for the ignored ones. -/
def relevant (lines : List Bytes) : List Bytes := (significant lines).filter fun line => !isIgnored line

def isDataLine (line : Bytes) : Bool := keyOf line = some (utf8 "DA")

/-- Lines and the same ones with the data in another order. All other lines keep theirs. -/
structure Rearranged (body body' : List Bytes) : Prop where
  lines : body.Perm body'
  others : body.filter (fun line => !isDataLine line) = body'.filter (fun line => !isDataLine line)

/-! ## Lines that are ignored -/

theorem step_of_isIgnored (st : State) {line : Bytes} (h : isIgnored line = true) : st.step line = .ok st := by
  obtain ⟨key, hkey, hunknown⟩ := (Option.any_eq_true _ _).1 h
  obtain ⟨⟨k, value⟩, hcut, rfl⟩ := Option.map_eq_some_iff.1 hkey
  obtain ⟨rfl, hcolon⟩ := cut_eq_some_iff.1 hcut
  simp only [knownKeys, List.mem_cons, List.not_mem_nil, or_false, decide_eq_true_eq, not_or] at hunknown
  obtain ⟨hname, hfile, hdata, hhit, hfound⟩ := hunknown
  refine step_eq_ok_iff.2 (.other hcolon hname hfile ?_)
  rw [← Bool.not_eq_true, isEntryKey_iff]
  simp [hdata, hhit, hfound]

theorem runs_cons_iff {st st' : State} {line : Bytes} {rest : List Bytes} :
    Runs st (line :: rest) st' ↔ line ≠ [] ∧ ∃ st₁, st.step line = .ok st₁ ∧ Runs st₁ rest st' := by
  constructor
  · intro h
    cases h with
    | cons hline hstep hrest => exact ⟨hline, _, hstep, hrest⟩
  · rintro ⟨hline, _, hstep, hrest⟩
    exact .cons hline hstep hrest

theorem runs_append_iff {st st' : State} {lines more : List Bytes} :
    Runs st (lines ++ more) st' ↔ ∃ st₁, Runs st lines st₁ ∧ Runs st₁ more st' := by
  induction lines generalizing st with
  | nil =>
    constructor
    · exact fun h => ⟨st, .nil st, h⟩
    · rintro ⟨_, hnil, h⟩
      cases hnil
      exact h
  | cons line rest ih =>
    simp only [List.cons_append, runs_cons_iff, ih]
    grind

theorem runs_filter_iff {st st' : State} {lines : List Bytes} :
    Runs st (lines.filter fun line => !isIgnored line) st' ↔ Runs st lines st' := by
  induction lines generalizing st with
  | nil => rfl
  | cons line rest ih =>
    cases hline : isIgnored line with
    | true =>
      have hne : line ≠ [] := by
        rintro rfl
        revert hline
        decide
      rw [List.filter_cons_of_neg (by simp [hline]), ih, runs_cons_iff, step_of_isIgnored st hline]
      simp [hne]
    | false =>
      rw [List.filter_cons_of_pos (by simp [hline]), runs_cons_iff, runs_cons_iff]
      simp only [ih]

theorem parse_iff_relevant {text : Bytes} (hlen : ∀ l ∈ linesOf text, l.length < lineLimit) {records : List Record} :
    parse text = .ok records ↔
      ∃ st, Runs .start (relevant (linesOf text)) st ∧ st.current = none ∧ records = st.done.reverse := by
  rw [parse_eq_ok_iff]
  simp only [takes_iff_runs hlen, relevant, runs_filter_iff]

/-! ## Data lines -/

def Record.addCount (rec : Record) (line : Int64) (count : UInt64) : Record :=
  { rec with lines := rec.lines.alter line fun old => some (old.getD 0 + count) }

theorem addCount_comm (rec : Record) (line line' : Int64) (count count' : UInt64) :
    (rec.addCount line count).addCount line' count' = (rec.addCount line' count').addCount line count := by
  unfold Record.addCount
  congr 1
  apply Std.ExtTreeMap.ext_getElem?
  intro l
  simp only [Maps.getElem?_alter_eq]
  by_cases h : line = l
  · by_cases h' : line' = l
    · simp [h, h', UInt64.add_assoc, UInt64.add_comm count]
    · simp [h, h']
  · simp [h]

theorem addEntry_addCount (rec : Record) (line : Int64) (count : UInt64) {key : Bytes} (value : Bytes)
    (hkey : isEntryKey key = true) :
    addEntry (rec.addCount line count) key value = (addEntry rec key value).map (·.addCount line count) := by
  have hhit : utf8 "LH" ≠ utf8 "DA" := by decide
  have hfound : utf8 "LF" ≠ utf8 "DA" ∧ utf8 "LF" ≠ utf8 "LH" := by decide
  rcases isEntryKey_iff.1 hkey with rfl | rfl | rfl
  · simp only [addEntry, if_true, addData]
    split
    · rename_i first second more _
      cases hline : Decimal.signed first with
      | error e => rfl
      | ok line' =>
        cases hcount : Decimal.unsigned second with
        | error e => rfl
        | ok count' => exact congrArg Except.ok (addCount_comm rec line line' count count')
    · rfl
  · simp only [addEntry, if_neg hhit, if_true]
    cases Decimal.signed value <;> rfl
  · simp only [addEntry, if_neg hfound.1, if_neg hfound.2]
    cases Decimal.signed value <;> rfl

def State.counting (st : State) (line : Int64) (count : UInt64) : State :=
  { st with current := st.current.map (·.addCount line count) }

/-- A line that neither begins nor ends a record. -/
def StaysInside (line : Bytes) : Prop := line ≠ endMark ∧ keyOf line ≠ some (utf8 "SF")

theorem staysInside_of_isDataLine {line : Bytes} (h : isDataLine line = true) : StaysInside line := by
  have hkey : keyOf line = some (utf8 "DA") := by simpa [isDataLine] using h
  refine ⟨?_, ?_⟩
  · rintro rfl
    revert hkey
    decide
  · rw [hkey]
    decide

theorem step_counting (st : State) (line : Int64) (count : UInt64) {text : Bytes} (h : StaysInside text) :
    (st.counting line count).step text = (st.step text).map (·.counting line count) := by
  by_cases hblank : text = []
  · subst hblank
    rfl
  cases hcut : text.cut (ch ':') with
  | none => simp [State.step, hblank, h.1, hcut, Except.map]
  | some pair =>
    obtain ⟨key, value⟩ := pair
    obtain ⟨rfl, hcolon⟩ := cut_eq_some_iff.1 hcut
    have hfile : key ≠ utf8 "SF" := by simpa [keyOf_keyed value hcolon] using h.2
    rw [step_keyed _ value hcolon, step_keyed _ value hcolon, if_neg hfile, if_neg hfile]
    by_cases hname : key = utf8 "TN"
    · simp [hname, State.counting, Except.map]
    rw [if_neg hname, if_neg hname]
    split
    · rename_i hkey
      cases hcurrent : st.current with
      | none => simp [State.counting, hcurrent, Except.map]
      | some rec =>
        simp only [State.counting, hcurrent, Option.map_some, addEntry_addCount rec line count value hkey]
        cases addEntry rec key value <;> rfl
    · rfl

theorem isSome_current_of_step {st st' : State} {text : Bytes} (h : StaysInside text) (hstep : st.step text = .ok st') :
    st'.current.isSome = st.current.isSome := by
  cases step_eq_ok_iff.1 hstep with
  | blank => rfl
  | other => rfl
  | testName => rfl
  | sourceFile file => exact absurd (keyOf_keyed file (by decide)) h.2
  | entry hkey hopen hadd => simp [hopen]
  | endMark => exact absurd rfl h.1

theorem step_data_iff {st st' : State} {value : Bytes} :
    st.step (utf8 "DA" ++ ch ':' :: value) = .ok st' ↔
      ∃ line count, IsData value line count ∧ st.current.isSome ∧ st' = st.counting line count := by
  rw [step_keyed st value (by decide), if_neg (by decide), if_neg (by decide), if_pos (by decide)]
  cases hcurrent : st.current with
  | none => simp
  | some rec =>
    simp only [Option.isSome_some, true_and, State.counting, hcurrent, Option.map_some, Record.addCount]
    constructor
    · intro h
      cases hadd : addEntry rec (utf8 "DA") value with
      | error fault => simp [hadd] at h
      | ok rec' =>
        obtain ⟨line, count, hdata, rfl⟩ := addEntry_data_iff.1 hadd
        simp only [hadd, Except.ok.injEq] at h
        exact ⟨line, count, hdata, h.symm⟩
    · rintro ⟨line, count, hdata, rfl⟩
      simp only [addEntry_data_iff.2 ⟨line, count, hdata, rfl⟩]

/-! ## Lines that change places -/

/-- A data line and another line inside of a record can be taken in either order. -/
theorem step_swap {st st' : State} {data text : Bytes} (hdata : isDataLine data = true) (htext : StaysInside text) :
    (∃ st₁, st.step data = .ok st₁ ∧ st₁.step text = .ok st') ↔
      ∃ st₁, st.step text = .ok st₁ ∧ st₁.step data = .ok st' := by
  have hkeyOf : keyOf data = some (utf8 "DA") := by simpa [isDataLine] using hdata
  obtain ⟨⟨key, value⟩, hcut, hkey⟩ := Option.map_eq_some_iff.1 hkeyOf
  obtain rfl : key = utf8 "DA" := hkey
  obtain ⟨rfl, -⟩ := cut_eq_some_iff.1 hcut
  simp only [step_data_iff]
  constructor
  · rintro ⟨_, ⟨line, count, hvalue, hopen, rfl⟩, hstep⟩
    rw [step_counting st line count htext] at hstep
    cases hfirst : st.step text with
    | error fault => simp [hfirst, Except.map] at hstep
    | ok st₁ =>
      simp only [hfirst, Except.map, Except.ok.injEq] at hstep
      refine ⟨st₁, rfl, line, count, hvalue, ?_, hstep.symm⟩
      rwa [isSome_current_of_step htext hfirst]
  · rintro ⟨st₁, hfirst, line, count, hvalue, hopen, rfl⟩
    rw [isSome_current_of_step htext hfirst] at hopen
    refine ⟨_, ⟨line, count, hvalue, hopen, rfl⟩, ?_⟩
    rw [step_counting st line count htext, hfirst]
    rfl

theorem runs_swap {st st' : State} {data text : Bytes} {rest : List Bytes} (hdata : isDataLine data = true)
    (htext : StaysInside text) : Runs st (data :: text :: rest) st' ↔ Runs st (text :: data :: rest) st' := by
  have hswap := fun st₂ => @step_swap st st₂ data text hdata htext
  simp only [runs_cons_iff]
  constructor
  · rintro ⟨hne, st₁, hfirst, hne', st₂, hsecond, hrest⟩
    obtain ⟨st₁', hfirst', hsecond'⟩ := (hswap st₂).1 ⟨st₁, hfirst, hsecond⟩
    exact ⟨hne', st₁', hfirst', hne, st₂, hsecond', hrest⟩
  · rintro ⟨hne, st₁, hfirst, hne', st₂, hsecond, hrest⟩
    obtain ⟨st₁', hfirst', hsecond'⟩ := (hswap st₂).2 ⟨st₁, hfirst, hsecond⟩
    exact ⟨hne', st₁', hfirst', hne, st₂, hsecond', hrest⟩

theorem runs_move {st st' : State} {data : Bytes} {lines rest : List Bytes} (hdata : isDataLine data = true)
    (hlines : ∀ l ∈ lines, StaysInside l) :
    Runs st (data :: (lines ++ rest)) st' ↔ Runs st (lines ++ data :: rest) st' := by
  induction lines generalizing st with
  | nil => rfl
  | cons line lines ih =>
    obtain ⟨hline, hlines⟩ := List.forall_mem_cons.1 hlines
    rw [List.cons_append, runs_swap hdata hline, runs_cons_iff, List.cons_append, runs_cons_iff]
    simp only [ih hlines]

theorem runs_data_last {st st' : State} {body rest : List Bytes} (hbody : ∀ l ∈ body, StaysInside l) :
    Runs st (body ++ rest) st' ↔
      Runs st (body.filter (fun line => !isDataLine line) ++ (body.filter isDataLine ++ rest)) st' := by
  induction body generalizing st with
  | nil => rfl
  | cons line body ih =>
    obtain ⟨hline, hbody⟩ := List.forall_mem_cons.1 hbody
    -- The other lines keep their order, so a data line moves behind all of those that follow it.
    have hother : ∀ l ∈ body.filter (fun line => !isDataLine line), StaysInside l :=
      fun l hl => hbody l (List.mem_of_mem_filter hl)
    cases hdata : isDataLine line with
    | true =>
      rw [List.filter_cons_of_neg (by simp [hdata]), List.filter_cons_of_pos hdata, List.cons_append,
        List.cons_append, ← runs_move hdata hother, runs_cons_iff, runs_cons_iff]
      simp only [ih hbody]
    | false =>
      rw [List.filter_cons_of_pos (by simp [hdata]), List.filter_cons_of_neg (by simp [hdata]), List.cons_append,
        List.cons_append, runs_cons_iff, runs_cons_iff]
      simp only [ih hbody]

theorem runs_perm {st st' : State} {data data' rest : List Bytes} (h : data.Perm data')
    (hdata : ∀ l ∈ data, isDataLine l = true) : Runs st (data ++ rest) st' ↔ Runs st (data' ++ rest) st' := by
  induction h generalizing st with
  | nil => rfl
  | cons line h ih =>
    rw [List.cons_append, List.cons_append, runs_cons_iff, runs_cons_iff]
    simp only [ih (List.forall_mem_cons.1 hdata).2]
  | swap line line' data =>
    obtain ⟨hline', hline, -⟩ := by simpa using hdata
    exact runs_swap hline' (staysInside_of_isDataLine hline)
  | trans h h' ih ih' => rw [ih hdata, ih' fun l hl => hdata l (h.mem_iff.2 hl)]

theorem runs_rearranged {st st' : State} {before body body' after : List Bytes} (hbody : ∀ l ∈ body, StaysInside l)
    (h : Rearranged body body') :
    Runs st (before ++ (body ++ after)) st' ↔ Runs st (before ++ (body' ++ after)) st' := by
  have hbody' : ∀ l ∈ body', StaysInside l := fun l hl => hbody l (h.lines.mem_iff.2 hl)
  have hdata : ∀ l ∈ body.filter isDataLine, isDataLine l = true := fun l hl => (List.mem_filter.1 hl).2
  -- Both bodies can be taken as the same other lines with the same data behind them, up to order.
  have hsame : ∀ st₁, Runs st₁ (body ++ after) st' ↔ Runs st₁ (body' ++ after) st' := by
    intro st₁
    rw [runs_data_last hbody, runs_data_last hbody', h.others, runs_append_iff, runs_append_iff]
    simp only [runs_perm (h.lines.filter isDataLine) hdata]
  rw [runs_append_iff, runs_append_iff]
  simp only [hsame]

/-! ## Line ends -/

theorem significant_concat_nil (lines : List Bytes) : significant (lines ++ [[]]) = significant lines := by
  have hblank : Space.trim [] = [] := rfl
  simp [significant, hblank]

theorem significant_linesOf (text : Bytes) : significant (linesOf text) = significant (text.splitOn newline) := by
  unfold linesOf
  simp only
  split
  · rename_i hlast
    obtain ⟨lines, hlines⟩ := List.getLast?_eq_some_iff.1 hlast
    rw [hlines, List.dropLast_concat, significant_concat_nil]
  · rfl

theorem relevant_append_newline (text : Bytes) : relevant (linesOf (text ++ [newline])) = relevant (linesOf text) := by
  have hsplit : (text ++ [newline]).splitOn newline = text.splitOn newline ++ [[]] := Bytes.splitOn_append text []
  unfold relevant
  rw [significant_linesOf, significant_linesOf, hsplit, significant_concat_nil]

def withReturns (text : Bytes) : Bytes := text.flatMap fun b => if b = newline then [13, newline] else [b]

theorem splitOn_withReturns (text : Bytes) :
    List.Forall₂ (fun line line' => line' = line ∨ line' = line ++ [13]) (text.splitOn newline)
      ((withReturns text).splitOn newline) := by
  induction text with
  | nil => exact .cons (.inl rfl) .nil
  | cons b rest ih =>
    by_cases hb : b = newline
    · subst hb
      have hsplit : (withReturns (newline :: rest)).splitOn newline =
          [13] :: (withReturns rest).splitOn newline :=
        Bytes.splitOn_append_sep (withReturns rest) (show newline ∉ [13] by decide)
      rw [hsplit, Bytes.splitOn_sep]
      exact .cons (.inr rfl) ih
    · have hwith : withReturns (b :: rest) = b :: withReturns rest := by simp [withReturns, hb]
      obtain ⟨line, lines, hlines⟩ := List.exists_cons_of_ne_nil (@Bytes.splitOn_ne_nil newline rest)
      obtain ⟨line', lines', hlines'⟩ := List.exists_cons_of_ne_nil (@Bytes.splitOn_ne_nil newline (withReturns rest))
      rw [hlines, hlines'] at ih
      rw [hwith, Bytes.splitOn_cons hb hlines, Bytes.splitOn_cons hb hlines']
      cases ih with
      | cons hline hrest =>
        refine .cons ?_ hrest
        rcases hline with rfl | rfl
        · exact .inl rfl
        · exact .inr rfl

end Tracefile

namespace Space

theorem not_separator_of_asciiSpace {b : UInt8} (hb : isAsciiSpace b = true) (a c : UInt8) :
    isSeparatorPair a b = false ∧ isSeparatorTail a c b = false := by
  simp only [isAsciiSpace, isSeparatorPair, isSeparatorTail, Bool.or_eq_true, Bool.and_eq_true, Bool.or_eq_false_iff,
    Bool.and_eq_false_iff, decide_eq_true_eq, decide_eq_false_iff_not, ← UInt8.toNat_inj, UInt8.le_iff_toNat_le] at *
  simp at *
  omega

theorem trimLeft_append_space {b : UInt8} (hb : isAsciiSpace b = true) (s : Bytes) :
    trimLeft (s ++ [b]) = if trimLeft s = [] then [] else trimLeft s ++ [b] := by
  have hpair := fun a => (not_separator_of_asciiSpace hb a a).1
  have htail := fun a c => (not_separator_of_asciiSpace hb a c).2
  fun_induction trimLeft s with
  | case1 => simp [trimLeft, hb]
  | case2 a h => simp [trimLeft, h, hb]
  | case3 a h => simp [trimLeft, h, hpair]
  | case4 a c h ih => simpa [trimLeft, h] using ih
  | case5 a c h1 h2 => simp [trimLeft, h1, h2, hb]
  | case6 a c h1 h2 => simp [trimLeft, h1, h2, htail]
  | case7 a c d rest h ih => simpa [trimLeft, h] using ih
  | case8 a c d rest h1 h2 ih => simpa [trimLeft, h1, h2] using ih
  | case9 a c d rest h1 h2 h3 ih => simpa [trimLeft, h1, h2, h3] using ih
  | case10 a c d rest h1 h2 h3 => simp [trimLeft, h1, h2, h3]

theorem trim_append_space {b : UInt8} (hb : isAsciiSpace b = true) (s : Bytes) : trim (s ++ [b]) = trim s := by
  have hright : ∀ s, trimRight (s ++ [b]) = trimRight s := by
    intro s
    unfold trimRight
    rw [List.reverse_append, List.reverse_singleton, List.singleton_append]
    rcases s.reverse with _ | ⟨x, _ | ⟨y, rest⟩⟩ <;> simp [trimLeftReversed, hb]
  unfold trim
  rw [trimLeft_append_space hb]
  split
  · rename_i hnil
    rw [hnil]
  · exact hright _

end Space

namespace Tracefile

theorem relevant_withReturns (text : Bytes) : relevant (linesOf (withReturns text)) = relevant (linesOf text) := by
  have htrim : ((withReturns text).splitOn newline).map Space.trim = (text.splitOn newline).map Space.trim := by
    have hlines := splitOn_withReturns text
    -- Nothing else is needed of the texts, and the induction is on how their lines are related.
    generalize text.splitOn newline = lines at hlines ⊢
    generalize (withReturns text).splitOn newline = lines' at hlines ⊢
    induction hlines with
    | nil => rfl
    | cons hline hrest ih =>
      rw [List.map_cons, List.map_cons, ih]
      rcases hline with rfl | rfl
      · rfl
      · rw [Space.trim_append_space (by decide)]
  unfold relevant
  rw [significant_linesOf, significant_linesOf, significant, significant, htrim]

/-! ## Texts with the same lines -/

/-- Only the lines that matter decide what is read. Two texts without lines that are too long, with the same such
lines in the same order, are both read or both refused, and give the same records. White space around lines, blank
lines and unknown keys are left out of account; so are carriage returns in front of the newlines and a newline at the
end. Data lines may also come in another order within a record. -/
theorem parse_sees_relevant_lines {x y : Bytes} (hx : ∀ l ∈ linesOf x, l.length < 2 ^ 20)
    (hy : ∀ l ∈ linesOf y, l.length < 2 ^ 20) (records : List Record) :
    (relevant (linesOf x) = relevant (linesOf y) → (parse x = .ok records ↔ parse y = .ok records)) ∧
    (∀ before body body' after,
      relevant (linesOf x) = before ++ (body ++ after) → relevant (linesOf y) = before ++ (body' ++ after) →
      (∀ l ∈ body, l ≠ endMark ∧ keyOf l ≠ some (utf8 "SF")) → Rearranged body body' →
      (parse x = .ok records ↔ parse y = .ok records)) ∧
    relevant (linesOf (withReturns x)) = relevant (linesOf x) ∧
    relevant (linesOf (x ++ [newline])) = relevant (linesOf x) := by
  refine ⟨fun hsame => ?_, fun before body body' after hbefore hbefore' hbody h => ?_, relevant_withReturns x,
    relevant_append_newline x⟩
  · rw [parse_iff_relevant hx, parse_iff_relevant hy, hsame]
  · rw [parse_iff_relevant hx, parse_iff_relevant hy, hbefore, hbefore']
    simp only [runs_rearranged hbody h]

/-- A record with blanks, a blank line, an unknown key and carriage returns, the same one without them, and one with
its data the other way round. -/
def paddedText : Bytes := utf8 " TN:t\r\nSF:a\r\n\r\nDA:1,2\r\nLH:1 \r\nXY:z\r\nDA:1,3\r\nend_of_record"

def plainText : Bytes := utf8 "TN:t\nSF:a\nDA:1,2\nLH:1\nDA:1,3\nend_of_record\n"

def swappedText : Bytes := utf8 "TN:t\nSF:a\nDA:1,3\nLH:1\nDA:1,2\nend_of_record\n"

theorem parse_sees_relevant_lines_padded :
    (∀ text ∈ [paddedText, plainText, swappedText], ∀ l ∈ linesOf text, l.length < 2 ^ 20) ∧
    relevant (linesOf paddedText) = relevant (linesOf plainText) ∧
    ∃ records, records.map (fun r => (r.testName, r.sourceFile)) = [(utf8 "t", utf8 "a")] ∧
      records.map (fun r => r.lines.toList) = [[(1, 5)]] ∧
      parse paddedText = .ok records ∧ parse plainText = .ok records ∧ parse swappedText = .ok records := by
  have hshort : ∀ text ∈ [paddedText, plainText, swappedText], ∀ l ∈ linesOf text, l.length < 20 := by decide +kernel
  have hlen : ∀ text ∈ [paddedText, plainText, swappedText], ∀ l ∈ linesOf text, l.length < 2 ^ 20 :=
    fun text htext l hl => (hshort text htext l hl).trans (by decide)
  obtain ⟨hpadded, hplain, hswapped, -⟩ := by simpa only [List.forall_mem_cons] using hlen
  have hsame : relevant (linesOf paddedText) = relevant (linesOf plainText) := by decide +kernel
  have hrearranged : Rearranged [utf8 "DA:1,2", utf8 "LH:1", utf8 "DA:1,3"]
      [utf8 "DA:1,3", utf8 "LH:1", utf8 "DA:1,2"] := ⟨by decide, by decide⟩
  have hnames : (parse paddedText).toOption.map (List.map fun r => (r.testName, r.sourceFile)) =
      some [(utf8 "t", utf8 "a")] := by decide +kernel
  have hlines : (parse paddedText).toOption.map (List.map fun r => r.lines.toList) = some [[(1, 5)]] := by
    decide +kernel
  cases hparse : parse paddedText with
  | error e =>
    rw [hparse] at hnames
    cases hnames
  | ok records =>
    rw [hparse] at hnames hlines
    refine ⟨hlen, hsame, records, Option.some.inj hnames, Option.some.inj hlines, rfl, ?_, ?_⟩
    · exact ((parse_sees_relevant_lines hpadded hplain records).1 hsame).1 hparse
    · exact ((parse_sees_relevant_lines hpadded hswapped records).2.1 [utf8 "TN:t", utf8 "SF:a"] _ _ [endMark]
        (by decide +kernel) (by decide +kernel) (by decide) hrearranged).1 hparse

end Tracefile

end LineCoverage
