import LineCoverage.Proofs.Tracefile.Grammar
import LineCoverage.Proofs.Tracefile.RoundTrip

/-!
# Tracefiles one after the other

A reader that has come through a tracefile is as good as a new one: it is outside of records, and all that it
keeps is what it has read and the last test name. So tracefiles can be put one behind the other, as long as the
later ones give a test name before their first file.
-/

namespace LineCoverage

namespace Tracefile

/-- Every file has a test name in front of it: no `SF` line comes before the first `TN` line. -/
def NamesFirst (lines : List Bytes) : Prop :=
  ∀ before line after, lines = before ++ line :: after → keyOf line = some (utf8 "SF") →
    ∃ l ∈ before, keyOf l = some (utf8 "TN")

/-! ## The lines of two texts -/

theorem linesOf_line (text rest : Bytes) :
    linesOf (text ++ newline :: rest) = text.splitOn newline ++ linesOf rest := by
  have hrest := @Bytes.splitOn_ne_nil newline rest
  have hlast : (text.splitOn newline ++ rest.splitOn newline).getLast? = (rest.splitOn newline).getLast? := by
    rw [List.getLast?_append, Option.or_of_isSome]
    simpa using hrest
  unfold linesOf
  simp only [Bytes.splitOn_append, hlast]
  split
  · rw [List.dropLast_append_of_ne_nil hrest]
  · rfl

theorem linesOf_append {a : Bytes} (h : a = [] ∨ a.getLast? = some newline) (b : Bytes) :
    linesOf (a ++ b) = linesOf a ++ linesOf b := by
  rcases h with rfl | h
  · rfl
  · obtain ⟨text, rfl⟩ := List.getLast?_eq_some_iff.1 h
    rw [List.append_assoc, List.singleton_append, linesOf_line, linesOf_line]
    simp [linesOf]

theorem readLines_append {st st₁ : State} {lines : List Bytes} (h : Takes st lines st₁) (number : Nat)
    (more : List Bytes) : readLines st number (lines ++ more) = readLines st₁ (number + lines.length) more := by
  induction h generalizing number with
  | nil st => rfl
  | cons hlen hstep hrest ih =>
    rw [List.cons_append, readLines, if_neg (by omega), hstep, List.length_cons]
    exact (ih (number + 1)).trans (by rw [Nat.add_assoc, Nat.add_comm 1])

/-! ## A reader behind other records -/

/-- The reader, had it read other records before and another test name. -/
def State.behind (st : State) (records : List Record) (name : Bytes) : State :=
  ⟨st.done ++ records.reverse, name, st.current⟩

theorem step_behind (st : State) (records : List Record) {name line : Bytes}
    (h : name = st.testName ∨ keyOf line ≠ some (utf8 "SF")) :
    (st.behind records name).step line =
      (st.step line).map (·.behind records ((valueOf (utf8 "TN") line).getD name)) := by
  by_cases hblank : line = []
  · subst hblank
    rfl
  by_cases hmark : line = endMark
  · subst hmark
    cases hcurrent : st.current with
    | none => simp [State.step, State.behind, hblank, hcurrent, Except.map]
    | some rec => simp [State.step, State.behind, hblank, hcurrent, Except.map, valueOf_endMark]
  cases hcut : line.cut (ch ':') with
  | none => simp [State.step, hblank, hmark, hcut, Except.map]
  | some pair =>
    obtain ⟨key, value⟩ := pair
    obtain ⟨rfl, hcolon⟩ := cut_eq_some_iff.1 hcut
    rw [keyOf_keyed value hcolon] at h
    rw [step_keyed _ value hcolon, step_keyed _ value hcolon, valueOf_keyed _ value hcolon]
    by_cases hname : key = utf8 "TN"
    · simp [hname, State.behind, Except.map]
    by_cases hfile : key = utf8 "SF"
    · -- The record that is opened has the test name of the reader.
      rcases h with rfl | h
      · rw [if_neg hname, if_neg hname, if_pos hfile, if_pos hfile, if_neg hname]
        cases hcurrent : st.current <;> simp [State.behind, hcurrent, Except.map]
      · exact absurd (congrArg some hfile) h
    rw [if_neg hname, if_neg hname, if_neg hfile, if_neg hfile, if_neg hname]
    split
    · cases hcurrent : st.current with
      | none => simp [State.behind, hcurrent, Except.map]
      | some rec => cases hadd : addEntry rec key value <;> simp [State.behind, hcurrent, hadd, Except.map]
    · rfl

theorem testName_of_step {st st' : State} {line : Bytes} (h : st.step line = .ok st') :
    st'.testName = (valueOf (utf8 "TN") line).getD st.testName := by
  cases step_eq_ok_iff.1 h with
  | blank => rfl
  | other hcolon hname hfile hentry => rw [valueOf_keyed _ _ hcolon, if_neg hname, Option.getD_none]
  | testName name => rw [valueOf_keyed _ _ (by decide), if_pos rfl, Option.getD_some]
  | sourceFile file hclosed => rw [valueOf_keyed _ _ (by decide), if_neg (by decide), Option.getD_none]
  | entry hkey hopen hadd =>
    rw [valueOf_keyed _ _ (colon_not_mem_entryKey hkey), if_neg (entryKey_ne hkey).1, Option.getD_none]
  | endMark hopen => rw [valueOf_endMark, Option.getD_none]

theorem keyOf_ne_of_valueOf {key line : Bytes} (h : valueOf key line = none) : keyOf line ≠ some key := by
  intro hkey
  obtain ⟨⟨k, value⟩, hcut, rfl⟩ := Option.map_eq_some_iff.1 hkey
  simp [valueOf, hcut] at h

theorem NamesFirst.tail {line : Bytes} {rest : List Bytes} (h : NamesFirst (line :: rest))
    (hname : keyOf line ≠ some (utf8 "TN")) : NamesFirst rest := by
  intro before l after hsplit hfile
  obtain ⟨n, hn, hkey⟩ := h (line :: before) l after (by rw [hsplit]; rfl) hfile
  rcases List.mem_cons.1 hn with rfl | hn
  · exact absurd hkey hname
  · exact ⟨n, hn, hkey⟩

theorem NamesFirst.head {line : Bytes} {rest : List Bytes} (h : NamesFirst (line :: rest)) :
    keyOf line ≠ some (utf8 "SF") := by
  intro hfile
  obtain ⟨n, hn, _⟩ := h [] line rest rfl hfile
  cases hn

/-- Either the two readers agree on the test name, or the next file has a test name in front of it. This stays so
along a line. -/
theorem named_of_step {st st₁ : State} {name line : Bytes} {rest : List Bytes}
    (h : name = st.testName ∨ NamesFirst (significant (line :: rest)))
    (hstep : st.step (Space.trim line) = .ok st₁) :
    (valueOf (utf8 "TN") (Space.trim line)).getD name = st₁.testName ∨ NamesFirst (significant rest) := by
  rw [testName_of_step hstep]
  cases hvalue : valueOf (utf8 "TN") (Space.trim line) with
  | some value => exact .inl rfl
  | none =>
    rcases h with rfl | h
    · exact .inl rfl
    · rw [significant_cons] at h
      split at h
      · exact .inr h
      · exact .inr (h.tail (keyOf_ne_of_valueOf hvalue))

theorem readLines_behind (st : State) (records : List Record) {name : Bytes} (number : Nat) {lines : List Bytes}
    (h : name = st.testName ∨ NamesFirst (significant lines)) :
    readLines (st.behind records name) number lines =
      (readLines st number lines).map (·.behind records (nameAfter name (lines.map Space.trim))) := by
  induction lines generalizing st name number with
  | nil => rfl
  | cons line rest ih =>
    have hfile : name = st.testName ∨ keyOf (Space.trim line) ≠ some (utf8 "SF") := by
      rcases h with h | h
      · exact .inl h
      · rw [significant_cons] at h
        split at h
        · rename_i hblank
          rw [hblank]
          exact .inr (by decide)
        · exact .inr h.head
    have hlast : nameAfter name ((line :: rest).map Space.trim) =
        nameAfter ((valueOf (utf8 "TN") (Space.trim line)).getD name) (rest.map Space.trim) := by
      rw [List.map_cons, ← List.singleton_append, nameAfter_append]
      simp only [nameAfter, valuesOf, List.filterMap_cons, List.filterMap_nil]
      cases valueOf (utf8 "TN") (Space.trim line) <;> rfl
    rw [readLines, readLines, step_behind st records hfile, hlast]
    split
    · rfl
    · cases hstep : st.step (Space.trim line) with
      | error fault => rfl
      | ok st₁ => exact ih st₁ (number + 1) (named_of_step h hstep)

/-! ## Two tracefiles -/

/-- A text is read behind a tracefile exactly if it is read alone, and its records come behind the others. -/
theorem parse_append_iff {a b : Bytes} {ra : List Record} (hend : a = [] ∨ a.getLast? = some newline)
    (ha : parse a = .ok ra) (hnames : NamesFirst (significant (linesOf b))) {records : List Record} :
    parse (a ++ b) = .ok records ↔ ∃ rb, parse b = .ok rb ∧ records = ra ++ rb := by
  obtain ⟨st, htakes, hclosed, rfl⟩ := parse_eq_ok_iff.1 ha
  have hst : State.start.behind st.done.reverse st.testName = st := by
    simp [State.behind, State.start, ← hclosed]
  have hread := @readLines_behind .start st.done.reverse st.testName (1 + (linesOf a).length) _ (.inr hnames)
  rw [hst, ← readLines_append htakes, ← linesOf_append hend] at hread
  have htakes_iff : ∀ last, Takes .start (linesOf (a ++ b)) last ↔ ∃ fresh, Takes .start (linesOf b) fresh ∧
      last = fresh.behind st.done.reverse (nameAfter st.testName ((linesOf b).map Space.trim)) := by
    intro last
    rw [← @readLines_eq_ok_iff _ _ 1, hread]
    simp only [← @readLines_eq_ok_iff _ _ (1 + (linesOf a).length)]
    cases readLines .start (1 + (linesOf a).length) (linesOf b) with
    | error e => simp [Except.map]
    | ok fresh => simp [Except.map, eq_comm]
  simp only [parse_eq_ok_iff, htakes_iff]
  constructor
  · rintro ⟨_, ⟨fresh, hfresh, rfl⟩, hcurrent, rfl⟩
    exact ⟨_, ⟨fresh, hfresh, hcurrent, rfl⟩, by simp [State.behind]⟩
  · rintro ⟨_, ⟨fresh, hfresh, hcurrent, rfl⟩, rfl⟩
    exact ⟨_, ⟨fresh, hfresh, rfl⟩, hcurrent, by simp [State.behind]⟩

/-! ## Many tracefiles -/

def nameLine : Bytes := utf8 "TN" ++ [ch ':']

theorem textOf_eq_unlines (cov : FileLines) : ∃ rest, textOf cov = unlines (nameLine :: rest) := by
  unfold textOf
  split
  · exact ⟨[], by decide⟩
  · rename_i hempty
    obtain ⟨⟨file, lines⟩, more, hlist⟩ : ∃ entry more, cov.toList = entry :: more := by
      apply List.exists_cons_of_ne_nil
      rwa [ne_eq, ← List.isEmpty_iff, Std.ExtTreeMap.isEmpty_toList]
    refine ⟨(recordLines file lines).tail ++ more.flatMap fun entry => recordLines entry.1 entry.2, ?_⟩
    simp only [hlist, List.flatMap_cons, recordText_eq, unlines, List.flatMap_append, List.flatMap_assoc]
    simp [recordLines, nameLine]

theorem getLast?_unlines (line : Bytes) (rest : List Bytes) :
    (unlines (line :: rest)).getLast? = some newline := by
  have hne : line :: rest ≠ [] := List.cons_ne_nil _ _
  rw [← List.dropLast_append_getLast hne]
  simp [unlines]

theorem namesFirst_of_nameLine (rest : Bytes) :
    NamesFirst (significant (linesOf (nameLine ++ newline :: rest))) := by
  have hline : nameLine.splitOn newline = [nameLine] := by decide
  have htrim : Space.trim nameLine = nameLine := by decide
  rw [linesOf_line, hline, List.singleton_append, significant_cons, htrim, if_neg (by decide)]
  intro before line after hsplit hfile
  cases before with
  | nil =>
    obtain rfl : nameLine = line := (List.cons.inj hsplit).1
    revert hfile
    decide
  | cons first before =>
    obtain rfl : nameLine = first := (List.cons.inj hsplit).1
    exact ⟨_, List.mem_cons_self, by decide⟩

theorem parse_flatten {texts : List Bytes} {records : List (List Record)}
    (hlines : ∀ text ∈ texts, ∃ rest, text = unlines (nameLine :: rest))
    (h : List.Forall₂ (fun text read => parse text = .ok read) texts records) :
    parse texts.flatten = .ok records.flatten := by
  induction h with
  | nil => rfl
  | @cons text read texts records hread hrest ih =>
    have hnames : NamesFirst (significant (linesOf texts.flatten)) := by
      cases texts with
      | nil =>
        intro before line after hsplit
        simp [linesOf, significant] at hsplit
      | cons next texts =>
        obtain ⟨rest, rfl⟩ := hlines next (by simp)
        have hhead : ∃ more, (unlines (nameLine :: rest) :: texts).flatten = nameLine ++ newline :: more :=
          ⟨unlines rest ++ texts.flatten, by simp [unlines]⟩
        obtain ⟨more, hmore⟩ := hhead
        rw [hmore]
        exact namesFirst_of_nameLine more
    obtain ⟨rest, rfl⟩ := hlines text List.mem_cons_self
    rw [List.flatten_cons, List.flatten_cons, parse_append_iff (.inr (getLast?_unlines _ _)) hread hnames]
    exact ⟨_, ih fun t ht => hlines t (List.mem_cons_of_mem _ ht), rfl⟩

/-- Tracefiles can be put one behind the other. Where the first one ends its last line and is read, and the second
text gives a test name before its first file, both together are read exactly if the second is read alone, and
give the records of both. So any number of encoded coverages that are read each give their records in turn. -/
theorem tracefiles_concatenate :
    (∀ (a b : Bytes) (ra : List Record), a = [] ∨ a.getLast? = some newline → parse a = .ok ra →
      NamesFirst (significant (linesOf b)) →
      ((∃ records, parse (a ++ b) = .ok records) ↔ ∃ rb, parse b = .ok rb) ∧
      ∀ rb, parse b = .ok rb → parse (a ++ b) = .ok (ra ++ rb)) ∧
    ∀ (outputs : List (Encoding × Option FileError)) (records : List (List Record)),
      (∀ o ∈ outputs, o.2 = none ∧ ∃ s skip cov, o = encode s skip cov) →
      List.Forall₂ (fun o read => parse (written o) = .ok read) outputs records →
      parse (outputs.flatMap written) = .ok records.flatten := by
  refine ⟨fun a b ra hend ha hnames => ⟨⟨?_, ?_⟩, ?_⟩, ?_⟩
  · rintro ⟨records, h⟩
    obtain ⟨rb, hb, _⟩ := (parse_append_iff hend ha hnames).1 h
    exact ⟨rb, hb⟩
  · rintro ⟨rb, hb⟩
    exact ⟨ra ++ rb, (parse_append_iff hend ha hnames).2 ⟨rb, hb, rfl⟩⟩
  · intro rb hb
    exact (parse_append_iff hend ha hnames).2 ⟨rb, hb, rfl⟩
  · intro outputs records houtputs hread
    rw [List.flatMap_def]
    apply parse_flatten
    · intro text htext
      obtain ⟨o, ho, rfl⟩ := List.mem_map.1 htext
      obtain ⟨hnone, s, skip, cov, rfl⟩ := houtputs o ho
      rw [(encode_of_success hnone).1]
      exact textOf_eq_unlines _
    · rwa [List.forall₂_map_left_iff]

/-- A tracefile that leaves a test name behind, and a text that has its own. -/
def firstText : Bytes := utf8 "TN:t\nSF:a\nend_of_record\nTN:v\n"

def secondText : Bytes := utf8 "XY:\nTN:u\nSF:b\nend_of_record"

def oneFile : FileLines := (∅ : FileLines).insert (utf8 "c") ∅

theorem tracefiles_concatenate_small :
    parse firstText = .ok [⟨utf8 "t", utf8 "a", ∅, 0, 0⟩] ∧ NamesFirst (significant (linesOf secondText)) ∧
      parse (firstText ++ secondText) =
        .ok ([⟨utf8 "t", utf8 "a", ∅, 0, 0⟩] ++ [⟨utf8 "u", utf8 "b", ∅, 0, 0⟩]) ∧
      parse ([encode (.memory .empty) false oneFile, encode (.memory .empty) true oneFile].flatMap written) =
        .ok [[⟨[], utf8 "c", ∅, 0, 0⟩], []].flatten := by
  have hfirst : parse firstText = .ok [⟨utf8 "t", utf8 "a", ∅, 0, 0⟩] := rfl
  have hsecond : parse secondText = .ok [⟨utf8 "u", utf8 "b", ∅, 0, 0⟩] := rfl
  have hnames : NamesFirst (significant (linesOf secondText)) := by
    have hlines : significant (linesOf secondText) = [utf8 "XY:", utf8 "TN:u", utf8 "SF:b", endMark] := rfl
    rw [hlines]
    intro before line after hsplit hfile
    match before, hsplit with
    | [], hsplit =>
      obtain rfl := (List.cons.inj hsplit).1
      exact absurd hfile (by decide)
    | [_], hsplit =>
      obtain rfl := (List.cons.inj (List.cons.inj hsplit).2).1
      exact absurd hfile (by decide)
    | _ :: name :: _, hsplit =>
      obtain rfl := (List.cons.inj (List.cons.inj hsplit).2).1
      exact ⟨utf8 "TN:u", by simp, by decide⟩
  refine ⟨hfirst, hnames, ?_, ?_⟩
  · exact (tracefiles_concatenate.1 firstText secondText _ (.inr (by decide)) hfirst hnames).2 _ hsecond
  · refine tracefiles_concatenate.2 _ _ ?_ (.cons rfl (.cons rfl .nil))
    simp only [List.mem_cons, List.not_mem_nil, or_false]
    rintro o (rfl | rfl)
    · exact ⟨rfl, _, _, _, rfl⟩
    · exact ⟨rfl, _, _, _, rfl⟩

end Tracefile

end LineCoverage
