import LineCoverage.Proofs.Bytes
import LineCoverage.Proofs.Text.Space
import LineCoverage.Tracefile.Reader

/-!
# What is read

What the reader does with a line of each kind, and what it lets through: the file name of a record is
what stood on one line behind `SF:`, without white space at its end.
-/

namespace LineCoverage

namespace Tracefile

/-! ## Lines -/

def unlines (lines : List Bytes) : Bytes := lines.flatMap (· ++ [newline])

theorem splitOn_unlines {lines : List Bytes} (h : ∀ l ∈ lines, newline ∉ l) :
    (unlines lines).splitOn newline = lines ++ [[]] := by
  induction lines with
  | nil => rfl
  | cons l rest ih =>
    have hrest := ih fun l' hl' => h l' (List.mem_cons_of_mem _ hl')
    unfold unlines at hrest ⊢
    rw [List.flatMap_cons, List.append_assoc, List.singleton_append,
      Bytes.splitOn_append_sep _ (h l List.mem_cons_self), hrest, List.cons_append]

theorem linesOf_unlines {lines : List Bytes} (h : ∀ l ∈ lines, newline ∉ l) :
    linesOf (unlines lines) = lines := by
  unfold linesOf
  rw [splitOn_unlines h]
  simp

theorem newline_not_mem_of_mem_linesOf {text l : Bytes} (h : l ∈ linesOf text) : newline ∉ l := by
  have hmem : l ∈ text.splitOn newline := by
    simp only [linesOf] at h
    split at h
    · exact List.dropLast_subset _ h
    · exact h
  exact (Bytes.mem_of_mem_splitOn text l hmem).1

/-! ## Lines of each kind -/

theorem colon_not_mem_endMark : ch ':' ∉ endMark := by decide

theorem step_keyed (st : State) {key : Bytes} (value : Bytes) (hkey : ch ':' ∉ key) :
    st.step (key ++ ch ':' :: value) =
      if key = utf8 "TN" then .ok { st with testName := value }
      else if key = utf8 "SF" then
        match st.current with
        | some rec => .error (.nested rec.sourceFile)
        | none => .ok { st with current := some ⟨st.testName, value, ∅, 0, 0⟩ }
      else if isEntryKey key then
        match st.current with
        | none => .error (.outsideRecord key)
        | some rec =>
          match addEntry rec key value with
          | .ok rec => .ok { st with current := some rec }
          | .error fault => .error fault
      else .ok st := by
  have hmark : key ++ ch ':' :: value ≠ endMark := by
    intro h
    apply colon_not_mem_endMark
    rw [← h]
    simp
  unfold State.step
  rewrite [if_neg (by simp), if_neg hmark, Bytes.cut_append value hkey]
  rfl

theorem step_testName (st : State) (name : Bytes) :
    st.step (utf8 "TN" ++ ch ':' :: name) = .ok { st with testName := name } := by
  rw [step_keyed st name (by decide), if_pos rfl]

theorem step_sourceFile {st : State} (file : Bytes) (h : st.current = none) :
    st.step (utf8 "SF" ++ ch ':' :: file) = .ok { st with current := some ⟨st.testName, file, ∅, 0, 0⟩ } := by
  rw [step_keyed st file (by decide), if_neg (by decide), if_pos rfl, h]

theorem step_entry {st : State} {rec rec' : Record} {key value : Bytes} (hkey : isEntryKey key = true)
    (hopen : st.current = some rec) (hadd : addEntry rec key value = .ok rec') :
    st.step (key ++ ch ':' :: value) = .ok { st with current := some rec' } := by
  have hkeys : key = utf8 "DA" ∨ key = utf8 "LH" ∨ key = utf8 "LF" := by
    simpa [isEntryKey, or_assoc] using hkey
  rcases hkeys with rfl | rfl | rfl
  all_goals
    rw [step_keyed st value (by decide), if_neg (by decide), if_neg (by decide), if_pos hkey, hopen]
    simp only [hadd]

theorem step_endMark {st : State} {rec : Record} (h : st.current = some rec) :
    st.step endMark = .ok { st with done := rec :: st.done, current := none } := by
  unfold State.step
  rw [if_neg (by decide), if_pos rfl, h]

/-- What the reader can do with a line: skip it, take a test name, open a record, add an entry to the open
record, or close it. -/
inductive Step (st : State) : Bytes → State → Prop where
  | blank : Step st [] st
  | other {key value : Bytes} (hcolon : ch ':' ∉ key) (hname : key ≠ utf8 "TN") (hfile : key ≠ utf8 "SF")
      (hentry : isEntryKey key = false) : Step st (key ++ ch ':' :: value) st
  | testName (name : Bytes) : Step st (utf8 "TN" ++ ch ':' :: name) { st with testName := name }
  | sourceFile (file : Bytes) (hclosed : st.current = none) :
      Step st (utf8 "SF" ++ ch ':' :: file) { st with current := some ⟨st.testName, file, ∅, 0, 0⟩ }
  | entry {key value : Bytes} {rec rec' : Record} (hkey : isEntryKey key = true) (hopen : st.current = some rec)
      (hadd : addEntry rec key value = .ok rec') :
      Step st (key ++ ch ':' :: value) { st with current := some rec' }
  | endMark {rec : Record} (hopen : st.current = some rec) :
      Step st endMark { st with done := rec :: st.done, current := none }

theorem step_of_keyed {st st' : State} {key value : Bytes} (hcolon : ch ':' ∉ key)
    (h : st.step (key ++ ch ':' :: value) = .ok st') : Step st (key ++ ch ':' :: value) st' := by
  rw [step_keyed st value hcolon] at h
  split at h
  · rename_i hkey
    cases h
    rw [hkey]
    exact .testName value
  · split at h
    · rename_i hkey
      cases hcurrent : st.current with
      | some rec => simp [hcurrent] at h
      | none =>
        simp only [hcurrent, Except.ok.injEq] at h
        rw [hkey, ← h]
        exact .sourceFile value hcurrent
    · rename_i hname hfile
      split at h
      · rename_i hkey
        cases hcurrent : st.current with
        | none => simp [hcurrent] at h
        | some rec =>
          cases hadd : addEntry rec key value with
          | error fault => simp [hcurrent, hadd] at h
          | ok rec' =>
            simp only [hcurrent, hadd, Except.ok.injEq] at h
            rw [← h]
            exact .entry hkey hcurrent hadd
      · rename_i hentry
        cases h
        exact .other hcolon hname hfile (by simpa using hentry)

theorem step_eq_ok_iff {st st' : State} {text : Bytes} : st.step text = .ok st' ↔ Step st text st' := by
  constructor
  · intro h
    by_cases hblank : text = []
    · subst hblank
      cases h
      exact .blank
    by_cases hmark : text = endMark
    · subst hmark
      cases hcurrent : st.current with
      | none => simp [State.step, hblank, hcurrent] at h
      | some rec =>
        rw [step_endMark hcurrent] at h
        cases h
        exact .endMark hcurrent
    cases hcut : text.cut (ch ':') with
    | none => simp [State.step, hblank, hmark, hcut] at h
    | some pair =>
      obtain ⟨rfl, hcolon⟩ := Bytes.eq_of_cut_eq_some hcut
      exact step_of_keyed hcolon h
  · intro h
    cases h with
    | blank => rfl
    | other hcolon hname hfile hentry =>
      rw [step_keyed st _ hcolon, if_neg hname, if_neg hfile, if_neg (by simp [hentry])]
    | testName name => exact step_testName st name
    | sourceFile file hclosed => exact step_sourceFile file hclosed
    | entry hkey hopen hadd => exact step_entry hkey hopen hadd
    | endMark hopen => exact step_endMark hopen

/-! ## Runs of lines -/

/-- The lines can all be taken, and lead from one state to the other. -/
inductive Takes : State → List Bytes → State → Prop where
  | nil (st : State) : Takes st [] st
  | cons {st st₁ st₂ : State} {line : Bytes} {rest : List Bytes} (hlen : line.length < lineLimit)
      (hstep : st.step (Space.trim line) = .ok st₁) (hrest : Takes st₁ rest st₂) : Takes st (line :: rest) st₂

theorem Takes.append {st st₁ st₂ : State} {lines more : List Bytes} (hlines : Takes st lines st₁)
    (hmore : Takes st₁ more st₂) : Takes st (lines ++ more) st₂ := by
  induction hlines with
  | nil st => exact hmore
  | cons hlen hstep hrest ih => exact .cons hlen hstep (ih hmore)

theorem readLines_eq_ok_iff {st st' : State} {number : Nat} {lines : List Bytes} :
    readLines st number lines = .ok st' ↔ Takes st lines st' := by
  constructor
  · intro h
    induction lines generalizing st number with
    | nil =>
      obtain rfl : st = st' := by simpa [readLines] using h
      exact .nil st
    | cons line rest ih =>
      rw [readLines] at h
      split at h
      · cases h
      · cases hstep : st.step (Space.trim line) with
        | error fault => simp [hstep] at h
        | ok st₁ =>
          rw [hstep] at h
          exact .cons (by omega) hstep (ih h)
  · intro h
    induction h generalizing number with
    | nil st => rfl
    | cons hlen hstep hrest ih =>
      rw [readLines, if_neg (by omega), hstep]
      exact ih

theorem parse_eq_ok_iff {text : Bytes} {records : List Record} :
    parse text = .ok records ↔
      ∃ st, Takes .start (linesOf text) st ∧ st.current = none ∧ records = st.done.reverse := by
  unfold parse
  constructor
  · intro h
    split at h
    · cases h
    · rename_i st hread
      unfold State.finish at h
      split at h
      · cases h
      · rename_i hclosed
        exact ⟨st, readLines_eq_ok_iff.1 hread, hclosed, by simpa using h.symm⟩
  · rintro ⟨st, hst, hclosed, rfl⟩
    rw [readLines_eq_ok_iff.2 hst]
    simp [State.finish, hclosed]

/-! ## File names that can be read -/

/-- The file names that a reader can give: on one line, without white space at the end, and short
enough for the line that holds them. -/
structure Readable (file : Bytes) : Prop where
  oneLine : newline ∉ file
  trimmed : ¬ Space.EndsInSpace file
  short : file.length < lineLimit - 3

/-- Every record so far, the open one too, has such a file name. -/
def State.Sound (st : State) : Prop :=
  (∀ rec ∈ st.done, Readable rec.sourceFile) ∧ ∀ rec, st.current = some rec → Readable rec.sourceFile

theorem sourceFile_addData {rec rec' : Record} {value : Bytes} (h : addData rec value = .ok rec') :
    rec'.sourceFile = rec.sourceFile := by
  unfold addData at h
  split at h
  · rename_i line count _ _
    cases hline : (Decimal.signed line).mapError LineFault.badLineNumber with
    | error e => simp [hline, bind, Except.bind] at h
    | ok l =>
      cases hcount : (Decimal.unsigned count).mapError LineFault.badCount with
      | error e => simp [hline, hcount, bind, Except.bind] at h
      | ok c =>
        simp only [hline, hcount, bind, Except.bind, pure, Except.pure, Except.ok.injEq] at h
        rw [← h]
  · cases h

theorem sourceFile_addEntry {rec rec' : Record} {key value : Bytes} (h : addEntry rec key value = .ok rec') :
    rec'.sourceFile = rec.sourceFile := by
  unfold addEntry at h
  split at h
  · exact sourceFile_addData h
  · split at h <;> split at h <;> cases h <;> rfl

theorem readable_of_keyed {line value : Bytes} (hnewline : newline ∉ line) (hlen : line.length < lineLimit)
    (h : Space.trim line = utf8 "SF" ++ ch ':' :: value) : Readable value := by
  have hpart := Space.trim_isInfix line
  rw [h] at hpart
  have hsuffix : value <:+ utf8 "SF" ++ ch ':' :: value :=
    (List.suffix_cons (ch ':') value).trans (List.suffix_append _ _)
  refine ⟨fun hmem => hnewline (hpart.subset (hsuffix.subset hmem)), fun hspace => ?_, ?_⟩
  · apply Space.not_endsInSpace_trim line
    rw [h]
    obtain ⟨c, hc, hend⟩ := hspace
    exact ⟨c, hc, hend.trans hsuffix⟩
  · have hle := hpart.length_le
    have htag : (utf8 "SF").length = 2 := by decide
    simp only [List.length_append, List.length_cons, htag] at hle
    omega

theorem sound_step {st st' : State} {line : Bytes} (hst : st.Sound) (hnewline : newline ∉ line)
    (hlen : line.length < lineLimit) (h : st.step (Space.trim line) = .ok st') : st'.Sound := by
  generalize htext : Space.trim line = text at h
  cases step_eq_ok_iff.1 h with
  | blank => exact hst
  | other hcolon hname hfile hentry => exact hst
  | testName name => exact hst
  | sourceFile file hclosed =>
    -- The only line that brings a new file name.
    refine ⟨hst.1, fun r hr => ?_⟩
    cases hr
    exact readable_of_keyed hnewline hlen htext
  | entry hkey hopen hadd =>
    refine ⟨hst.1, fun r hr => ?_⟩
    cases hr
    rw [sourceFile_addEntry hadd]
    exact hst.2 _ hopen
  | endMark hopen =>
    refine ⟨fun r hr => ?_, fun r hr => by cases hr⟩
    rcases List.mem_cons.1 hr with rfl | hr
    · exact hst.2 _ hopen
    · exact hst.1 r hr

theorem sound_takes {st st' : State} {lines : List Bytes} (h : Takes st lines st') (hst : st.Sound)
    (hlines : ∀ l ∈ lines, newline ∉ l) : st'.Sound := by
  induction h with
  | nil st => exact hst
  | cons hlen hstep hrest ih =>
    exact ih (sound_step hst (hlines _ List.mem_cons_self) hlen hstep)
      fun l hl => hlines l (List.mem_cons_of_mem _ hl)

theorem readable_of_parse {text : Bytes} {records : List Record} (h : parse text = .ok records) :
    ∀ rec ∈ records, Readable rec.sourceFile := by
  obtain ⟨st, hst, _, rfl⟩ := parse_eq_ok_iff.1 h
  have hsound := sound_takes hst ⟨by simp [State.start], by simp [State.start]⟩
    fun l hl => newline_not_mem_of_mem_linesOf hl
  intro rec hrec
  exact hsound.1 rec (List.mem_reverse.1 hrec)

end Tracefile

end LineCoverage
