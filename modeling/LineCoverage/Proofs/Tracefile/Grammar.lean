import LineCoverage.Proofs.Maps
import LineCoverage.Proofs.Text.Numeral
import LineCoverage.Proofs.Tracefile.Reader

/-!
# The grammar of tracefiles

Which texts are tracefiles, and which records they stand for. A line is admitted or not by what it is and by
whether it stands inside of a record. A text is read exactly if all of its lines are admitted and no record is
open at its end.
-/

namespace LineCoverage

namespace Tracefile

/-! ## Lines -/

/-- The lines that count: without the white space around them, and without blank ones. -/
def significant (lines : List Bytes) : List Bytes := (lines.map Space.trim).filter (· ≠ [])

/-- The text in front of the first colon of a line, if it has one. -/
def keyOf (line : Bytes) : Option Bytes := (line.cut (ch ':')).map Prod.fst

/-- What stands behind the colon of a line with the given key. -/
def valueOf (key line : Bytes) : Option Bytes :=
  (line.cut (ch ':')).bind fun (k, value) => if k = key then some value else none

def valuesOf (key : Bytes) (lines : List Bytes) : List Bytes := lines.filterMap (valueOf key)

/-- The value of a `DA` line: a line number, a count, and whatever else behind commas. -/
def IsData (value : Bytes) (line : Int64) (count : UInt64) : Prop :=
  ∃ first second more, value.splitOn (ch ',') = first :: second :: more ∧
    Decimal.IsSigned first line ∧ Decimal.IsUnsigned second count

/-- The form that a key asks of its value. -/
def WellFormed (key value : Bytes) : Prop :=
  (key = utf8 "DA" → ∃ line count, IsData value line count) ∧
    (key = utf8 "LH" ∨ key = utf8 "LF" → ∃ n, Decimal.IsSigned value n)

/-! ## Where a line may stand -/

inductive Place where
  | outside
  | inside
  deriving DecidableEq, Repr

namespace Place

/-- Whether a line may stand at a place. -/
def Admits : Place → Bytes → Prop
  | .outside, line => ∃ key, keyOf line = some key ∧ key ≠ utf8 "DA" ∧ key ≠ utf8 "LH" ∧ key ≠ utf8 "LF"
  | .inside, line =>
    line = endMark ∨
      ∃ key value, line.cut (ch ':') = some (key, value) ∧ key ≠ utf8 "SF" ∧ WellFormed key value

def next : Place → Bytes → Place
  | .outside, line => if keyOf line = some (utf8 "SF") then .inside else .outside
  | .inside, line => if line = endMark then .outside else .inside

def after (p : Place) (lines : List Bytes) : Place := lines.foldl next p

/-- Every line may stand where it does. -/
def Admissible : Place → List Bytes → Prop
  | _, [] => True
  | p, line :: rest => p.Admits line ∧ (p.next line).Admissible rest

end Place

/-! ## What a text stands for -/

/-- A part of a tracefile from an `SF` line to the next end mark. -/
structure Section where
  before : List Bytes
  file : Bytes
  body : List Bytes

def sectionsFrom (before : List Bytes) : List Bytes → List Section
  | [] => []
  | line :: rest =>
    match valueOf (utf8 "SF") line with
    | some file => ⟨before, file, rest.takeWhile (· ≠ endMark)⟩ :: sectionsFrom (before ++ [line]) rest
    | none => sectionsFrom (before ++ [line]) rest

/-- The test name that is in force behind lines; `name` is the one in front of them. -/
def nameAfter (name : Bytes) (lines : List Bytes) : Bytes := (valuesOf (utf8 "TN") lines).getLast?.getD name

/-- A number that is given by the last of some values; without any it is the default. -/
def LastNumber (default : Int64) (values : List Bytes) (n : Int64) : Prop :=
  match values.getLast? with
  | none => n = default
  | some value => Decimal.IsSigned value n

/-- The count of every line that occurs in the data: the sum over its occurrences, which wraps. -/
def sumOf (data : List (Int64 × UInt64)) (line : Int64) : Option UInt64 :=
  let counts := (data.filter fun e => e.1 = line).map Prod.snd
  if counts = [] then none else some counts.sum

/-- The data of lines: what their `DA` lines say, in turn. -/
def DataOf (lines : List Bytes) (data : List (Int64 × UInt64)) : Prop :=
  List.Forall₂ (fun value e => IsData value e.1 e.2) (valuesOf (utf8 "DA") lines) data

/-- The record that a section stands for. -/
structure Section.Describes (sec : Section) (rec : Record) : Prop where
  testName : rec.testName = nameAfter [] sec.before
  sourceFile : rec.sourceFile = sec.file
  lines : ∃ data, DataOf sec.body data ∧ ∀ line, rec.lines[line]? = sumOf data line
  linesHit : LastNumber 0 (valuesOf (utf8 "LH") sec.body) rec.linesHit
  linesFound : LastNumber 0 (valuesOf (utf8 "LF") sec.body) rec.linesFound

/-! ## Keys -/

theorem cut_eq_some_iff {line key value : Bytes} :
    line.cut (ch ':') = some (key, value) ↔ line = key ++ ch ':' :: value ∧ ch ':' ∉ key := by
  constructor
  · exact Bytes.eq_of_cut_eq_some
  · rintro ⟨rfl, h⟩
    exact Bytes.cut_append value h

theorem keyOf_keyed {key : Bytes} (value : Bytes) (h : ch ':' ∉ key) : keyOf (key ++ ch ':' :: value) = some key := by
  rw [keyOf, Bytes.cut_append value h]
  rfl

theorem valueOf_keyed {k : Bytes} (key value : Bytes) (h : ch ':' ∉ k) :
    valueOf key (k ++ ch ':' :: value) = if k = key then some value else none := by
  rw [valueOf, Bytes.cut_append value h]
  rfl

theorem cut_endMark : endMark.cut (ch ':') = none := by decide

theorem valueOf_endMark (key : Bytes) : valueOf key endMark = none := by
  rw [valueOf, cut_endMark]
  rfl

/-! ## Entries -/

theorem isEntryKey_iff {key : Bytes} :
    isEntryKey key = true ↔ key = utf8 "DA" ∨ key = utf8 "LH" ∨ key = utf8 "LF" := by
  simp [isEntryKey, or_assoc]

theorem addEntry_data_iff {rec rec' : Record} {value : Bytes} :
    addEntry rec (utf8 "DA") value = .ok rec' ↔
      ∃ line count, IsData value line count ∧
        rec' = { rec with lines := rec.lines.alter line fun old => some (old.getD 0 + count) } := by
  unfold addEntry
  rw [if_pos rfl]
  constructor
  · intro h
    unfold addData at h
    split at h
    · rename_i first second more hsplit
      cases hline : Decimal.signed first with
      | error e => simp [hline, Except.mapError, bind, Except.bind] at h
      | ok line =>
        cases hcount : Decimal.unsigned second with
        | error e => simp [hline, hcount, Except.mapError, bind, Except.bind] at h
        | ok count =>
          simp only [hline, hcount, Except.mapError, bind, Except.bind, pure, Except.pure, Except.ok.injEq] at h
          exact ⟨line, count, ⟨first, second, more, hsplit, Decimal.signed_eq_ok_iff.1 hline,
            Decimal.unsigned_eq_ok_iff.1 hcount⟩, h.symm⟩
    · cases h
  · rintro ⟨line, count, ⟨first, second, more, hsplit, hline, hcount⟩, rfl⟩
    unfold addData
    simp only [hsplit, Decimal.signed_eq_ok_iff.2 hline, Decimal.unsigned_eq_ok_iff.2 hcount]
    rfl

theorem setTotal_eq_ok_iff {value : Bytes} (set : Int64 → Record) (fault : NumberError → LineFault)
    {rec' : Record} :
    (match Decimal.signed value with
      | .ok n => Except.ok (set n)
      | .error e => .error (fault e)) = .ok rec' ↔
      ∃ n, Decimal.IsSigned value n ∧ rec' = set n := by
  simp only [← Decimal.signed_eq_ok_iff]
  cases Decimal.signed value with
  | error e => simp
  | ok n => simp [eq_comm]

theorem addEntry_hit_iff {rec rec' : Record} {value : Bytes} :
    addEntry rec (utf8 "LH") value = .ok rec' ↔
      ∃ n, Decimal.IsSigned value n ∧ rec' = { rec with linesHit := n } := by
  unfold addEntry
  rw [if_neg (by decide), if_pos rfl]
  exact setTotal_eq_ok_iff (fun n => { rec with linesHit := n }) .badHit

theorem addEntry_found_iff {rec rec' : Record} {value : Bytes} :
    addEntry rec (utf8 "LF") value = .ok rec' ↔
      ∃ n, Decimal.IsSigned value n ∧ rec' = { rec with linesFound := n } := by
  unfold addEntry
  rw [if_neg (by decide), if_neg (by decide)]
  exact setTotal_eq_ok_iff (fun n => { rec with linesFound := n }) .badFound

theorem exists_addEntry_iff (rec : Record) {key : Bytes} (value : Bytes) (hkey : isEntryKey key = true) :
    (∃ rec', addEntry rec key value = .ok rec') ↔ WellFormed key value := by
  have hdistinct : utf8 "DA" ≠ utf8 "LH" ∧ utf8 "DA" ≠ utf8 "LF" ∧ utf8 "LH" ≠ utf8 "LF" := by decide
  unfold WellFormed
  rcases isEntryKey_iff.1 hkey with rfl | rfl | rfl
  · simp [addEntry_data_iff, hdistinct]
  · simp [addEntry_hit_iff, hdistinct.1.symm]
  · simp [addEntry_found_iff, hdistinct.2.1.symm]

theorem wellFormed_of_not_isEntryKey {key : Bytes} (value : Bytes) (h : isEntryKey key = false) :
    WellFormed key value := by
  have hkey : ¬ (key = utf8 "DA" ∨ key = utf8 "LH" ∨ key = utf8 "LF") := by
    rw [← isEntryKey_iff, h]
    simp
  exact ⟨fun hda => absurd (.inl hda) hkey, fun htotal => absurd (.inr htotal) hkey⟩

/-! ## One line -/

def State.place (st : State) : Place := if st.current.isSome then .inside else .outside

theorem place_of_none {st : State} (h : st.current = none) : st.place = .outside := by
  simp [State.place, h]

theorem place_of_some {st : State} {rec : Record} (h : st.current = some rec) : st.place = .inside := by
  simp [State.place, h]

namespace Place

variable {key : Bytes}

theorem outside_admits_keyed (value : Bytes) (hcolon : ch ':' ∉ key) :
    outside.Admits (key ++ ch ':' :: value) ↔ isEntryKey key = false := by
  rw [← Bool.not_eq_true, isEntryKey_iff]
  simp [Admits, keyOf_keyed value hcolon]

theorem keyed_ne_endMark (value : Bytes) : key ++ ch ':' :: value ≠ endMark := by
  intro h
  apply colon_not_mem_endMark
  rw [← h]
  simp

theorem inside_admits_keyed (value : Bytes) (hcolon : ch ':' ∉ key) :
    inside.Admits (key ++ ch ':' :: value) ↔ key ≠ utf8 "SF" ∧ WellFormed key value := by
  simp [Admits, Bytes.cut_append value hcolon, keyed_ne_endMark, WellFormed]

theorem next_keyed (p : Place) (value : Bytes) (hcolon : ch ':' ∉ key) (hfile : key ≠ utf8 "SF") :
    p.next (key ++ ch ':' :: value) = p := by
  cases p with
  | outside => simp [next, keyOf_keyed value hcolon, hfile]
  | inside => simp [next, keyed_ne_endMark]

theorem admits_other (p : Place) (value : Bytes) (hcolon : ch ':' ∉ key) (hfile : key ≠ utf8 "SF")
    (hentry : isEntryKey key = false) : p.Admits (key ++ ch ':' :: value) := by
  cases p with
  | outside => exact (outside_admits_keyed value hcolon).2 hentry
  | inside => exact (inside_admits_keyed value hcolon).2 ⟨hfile, wellFormed_of_not_isEntryKey value hentry⟩

end Place

theorem colon_not_mem_entryKey {key : Bytes} (h : isEntryKey key = true) : ch ':' ∉ key := by
  rcases isEntryKey_iff.1 h with rfl | rfl | rfl <;> decide

theorem admits_of_step {st st' : State} {line : Bytes} (hline : line ≠ []) (h : st.step line = .ok st') :
    st.place.Admits line ∧ st'.place = st.place.next line := by
  cases step_eq_ok_iff.1 h with
  | blank => exact absurd rfl hline
  | other hcolon hname hfile hentry =>
    exact ⟨st.place.admits_other _ hcolon hfile hentry, (st.place.next_keyed _ hcolon hfile).symm⟩
  | testName name =>
    exact ⟨st.place.admits_other name (by decide) (by decide) (by decide),
      (st.place.next_keyed name (by decide) (by decide)).symm⟩
  | sourceFile file hclosed =>
    rw [place_of_none hclosed]
    refine ⟨(Place.outside_admits_keyed file (by decide)).2 (by decide), ?_⟩
    simp [State.place, Place.next, keyOf_keyed file (show ch ':' ∉ utf8 "SF" by decide)]
  | entry hkey hopen hadd =>
    have hfile : ∀ key, isEntryKey key = true → key ≠ utf8 "SF" := by
      rintro _ hkey rfl
      revert hkey
      decide
    rw [place_of_some hopen, Place.next_keyed _ _ (colon_not_mem_entryKey hkey) (hfile _ hkey)]
    refine ⟨(Place.inside_admits_keyed _ (colon_not_mem_entryKey hkey)).2 ⟨hfile _ hkey, ?_⟩, rfl⟩
    exact (exists_addEntry_iff _ _ hkey).1 ⟨_, hadd⟩
  | endMark hopen =>
    rw [place_of_some hopen]
    exact ⟨.inl rfl, by simp [State.place, Place.next]⟩

theorem step_of_admits {st : State} {line : Bytes} (h : st.place.Admits line) :
    ∃ st', st.step line = .ok st' := by
  have hother : ∀ key value, ch ':' ∉ key → key ≠ utf8 "SF" → isEntryKey key = false →
      ∃ st', st.step (key ++ ch ':' :: value) = .ok st' := by
    intro key value hcolon hfile hentry
    by_cases hname : key = utf8 "TN"
    · subst hname
      exact ⟨_, step_testName st value⟩
    · exact ⟨st, step_eq_ok_iff.2 (.other hcolon hname hfile hentry)⟩
  cases hcurrent : st.current with
  | none =>
    rw [place_of_none hcurrent] at h
    obtain ⟨key, hkey, hentry⟩ := h
    obtain ⟨⟨k, value⟩, hcut, rfl⟩ := Option.map_eq_some_iff.1 hkey
    obtain ⟨rfl, hcolon⟩ := cut_eq_some_iff.1 hcut
    by_cases hfile : k = utf8 "SF"
    · subst hfile
      exact ⟨_, step_sourceFile value hcurrent⟩
    · refine hother k value hcolon hfile ?_
      rw [← Bool.not_eq_true, isEntryKey_iff]
      simpa using hentry
  | some rec =>
    rw [place_of_some hcurrent] at h
    rcases h with rfl | ⟨key, value, hcut, hfile, hform⟩
    · exact ⟨_, step_endMark hcurrent⟩
    · obtain ⟨rfl, hcolon⟩ := cut_eq_some_iff.1 hcut
      cases hentry : isEntryKey key with
      | false => exact hother key value hcolon hfile hentry
      | true =>
        obtain ⟨rec', hadd⟩ := (exists_addEntry_iff rec value hentry).2 hform
        exact ⟨_, step_entry hentry hcurrent hadd⟩

/-! ## All lines -/

/-- The lines lead the reader from one state to the other. -/
inductive Runs : State → List Bytes → State → Prop where
  | nil (st : State) : Runs st [] st
  | cons {st st₁ st₂ : State} {line : Bytes} {rest : List Bytes} (hline : line ≠ [])
      (hstep : st.step line = .ok st₁) (hrest : Runs st₁ rest st₂) : Runs st (line :: rest) st₂

theorem significant_cons (line : Bytes) (rest : List Bytes) :
    significant (line :: rest) =
      if Space.trim line = [] then significant rest else Space.trim line :: significant rest := by
  unfold significant
  rw [List.map_cons, List.filter_cons]
  by_cases h : Space.trim line = [] <;> simp [h]

theorem takes_iff_runs {st st' : State} {lines : List Bytes} (hlen : ∀ l ∈ lines, l.length < lineLimit) :
    Takes st lines st' ↔ Runs st (significant lines) st' := by
  induction lines generalizing st with
  | nil => constructor <;> intro h <;> cases h <;> exact .nil _
  | cons line rest ih =>
    obtain ⟨hline, hrest⟩ := List.forall_mem_cons.1 hlen
    rw [significant_cons]
    constructor
    · intro h
      cases h with
      | cons _ hstep htail =>
        split
        · rename_i hblank
          rw [hblank] at hstep
          cases hstep
          exact (ih hrest).1 htail
        · rename_i hsome
          exact .cons hsome hstep ((ih hrest).1 htail)
    · intro h
      split at h
      · rename_i hblank
        exact .cons hline (by rw [hblank]; rfl) ((ih hrest).2 h)
      · cases h with
        | cons _ hstep htail => exact .cons hline hstep ((ih hrest).2 htail)

theorem admissible_of_runs {st st' : State} {lines : List Bytes} (h : Runs st lines st') :
    st.place.Admissible lines ∧ st'.place = st.place.after lines := by
  induction h with
  | nil st => exact ⟨trivial, rfl⟩
  | cons hline hstep hrest ih =>
    obtain ⟨hadmits, hnext⟩ := admits_of_step hline hstep
    rw [hnext] at ih
    exact ⟨⟨hadmits, ih.1⟩, ih.2⟩

theorem runs_of_admissible {st : State} {lines : List Bytes} (hlines : ∀ l ∈ lines, l ≠ [])
    (h : st.place.Admissible lines) : ∃ st', Runs st lines st' ∧ st'.place = st.place.after lines := by
  induction lines generalizing st with
  | nil => exact ⟨st, .nil st, rfl⟩
  | cons line rest ih =>
    obtain ⟨hline, hrest⟩ := List.forall_mem_cons.1 hlines
    obtain ⟨st₁, hstep⟩ := step_of_admits h.1
    obtain ⟨_, hnext⟩ := admits_of_step hline hstep
    obtain ⟨st', hruns, hplace⟩ := ih hrest (hnext ▸ h.2)
    refine ⟨st', .cons hline hstep hruns, ?_⟩
    rw [hplace, hnext]
    rfl

theorem ne_nil_of_mem_significant {lines : List Bytes} : ∀ l ∈ significant lines, l ≠ [] := by
  intro l hl
  simpa using (List.mem_filter.1 hl).2

/-! ## The records -/

theorem valuesOf_keyed_cons {k : Bytes} (key value : Bytes) (rest : List Bytes) (h : ch ':' ∉ k) :
    valuesOf key ((k ++ ch ':' :: value) :: rest) =
      if k = key then value :: valuesOf key rest else valuesOf key rest := by
  unfold valuesOf
  rw [List.filterMap_cons, valueOf_keyed key value h]
  by_cases hk : k = key <;> simp [hk]

theorem valuesOf_endMark_cons (key : Bytes) (rest : List Bytes) :
    valuesOf key (endMark :: rest) = valuesOf key rest := by
  unfold valuesOf
  rw [List.filterMap_cons, valueOf_endMark]

theorem valuesOf_append (key : Bytes) (lines more : List Bytes) :
    valuesOf key (lines ++ more) = valuesOf key lines ++ valuesOf key more := List.filterMap_append

theorem LastNumber.cons {default n₁ n : Int64} {value : Bytes} {values : List Bytes}
    (hfirst : Decimal.IsSigned value n₁) (h : LastNumber n₁ values n) : LastNumber default (value :: values) n := by
  unfold LastNumber at h ⊢
  rw [List.getLast?_cons]
  cases hlast : values.getLast? with
  | none =>
    rw [hlast] at h
    rw [h]
    exact hfirst
  | some last =>
    rw [hlast] at h
    exact h

structure Extends (rec : Record) (body : List Bytes) (rec' : Record) : Prop where
  testName : rec'.testName = rec.testName
  sourceFile : rec'.sourceFile = rec.sourceFile
  lines : ∃ data : List (Int64 × UInt64), DataOf body data ∧
    rec'.lines = data.foldl (fun t e => t.alter e.1 fun old => some (old.getD 0 + e.2)) rec.lines
  linesHit : LastNumber rec.linesHit (valuesOf (utf8 "LH") body) rec'.linesHit
  linesFound : LastNumber rec.linesFound (valuesOf (utf8 "LF") body) rec'.linesFound

theorem extends_nil (rec : Record) : Extends rec [] rec := ⟨rfl, rfl, ⟨[], .nil, rfl⟩, rfl, rfl⟩

theorem Extends.other {rec rec' : Record} {body : List Bytes} (h : Extends rec body rec') {key : Bytes}
    (value : Bytes) (hcolon : ch ':' ∉ key) (hkey : isEntryKey key = false) :
    Extends rec ((key ++ ch ':' :: value) :: body) rec' := by
  rw [← Bool.not_eq_true, isEntryKey_iff, not_or, not_or] at hkey
  have hsame : ∀ k, key ≠ k → valuesOf k ((key ++ ch ':' :: value) :: body) = valuesOf k body := by
    intro k hk
    rw [valuesOf_keyed_cons k value body hcolon, if_neg hk]
  refine ⟨h.testName, h.sourceFile, ?_, ?_, ?_⟩
  · unfold DataOf
    rw [hsame _ hkey.1]
    exact h.lines
  · rw [hsame _ hkey.2.1]
    exact h.linesHit
  · rw [hsame _ hkey.2.2]
    exact h.linesFound

theorem Extends.entry {rec rec₁ rec' : Record} {body : List Bytes} {key value : Bytes}
    (hkey : isEntryKey key = true) (hadd : addEntry rec key value = .ok rec₁) (h : Extends rec₁ body rec') :
    Extends rec ((key ++ ch ':' :: value) :: body) rec' := by
  have hcons : ∀ k, valuesOf k ((key ++ ch ':' :: value) :: body) =
      if key = k then value :: valuesOf k body else valuesOf k body :=
    fun k => valuesOf_keyed_cons k value body (colon_not_mem_entryKey hkey)
  rcases isEntryKey_iff.1 hkey with rfl | rfl | rfl
  · obtain ⟨line, count, hdata, rfl⟩ := addEntry_data_iff.1 hadd
    obtain ⟨data, hvalues, hlines⟩ := h.lines
    refine ⟨h.testName, h.sourceFile, ⟨(line, count) :: data, ?_, hlines⟩, ?_, ?_⟩
    · unfold DataOf
      rw [hcons, if_pos rfl]
      exact .cons hdata hvalues
    · rw [hcons, if_neg (by decide)]
      exact h.linesHit
    · rw [hcons, if_neg (by decide)]
      exact h.linesFound
  · obtain ⟨n, hn, rfl⟩ := addEntry_hit_iff.1 hadd
    refine ⟨h.testName, h.sourceFile, ?_, ?_, ?_⟩
    · unfold DataOf
      rw [hcons, if_neg (by decide)]
      exact h.lines
    · rw [hcons, if_pos rfl]
      exact h.linesHit.cons hn
    · rw [hcons, if_neg (by decide)]
      exact h.linesFound
  · obtain ⟨n, hn, rfl⟩ := addEntry_found_iff.1 hadd
    refine ⟨h.testName, h.sourceFile, ?_, ?_, ?_⟩
    · unfold DataOf
      rw [hcons, if_neg (by decide)]
      exact h.lines
    · rw [hcons, if_neg (by decide)]
      exact h.linesHit
    · rw [hcons, if_pos rfl]
      exact h.linesFound.cons hn

theorem nameAfter_testName (name value : Bytes) (rest : List Bytes) :
    nameAfter name ((utf8 "TN" ++ ch ':' :: value) :: rest) = nameAfter value rest := by
  unfold nameAfter
  rw [valuesOf_keyed_cons _ _ _ (by decide), if_pos rfl, List.getLast?_cons]
  rfl

theorem nameAfter_append (name : Bytes) (lines more : List Bytes) :
    nameAfter name (lines ++ more) = nameAfter (nameAfter name lines) more := by
  unfold nameAfter
  rw [valuesOf_append, List.getLast?_append]
  cases (valuesOf (utf8 "TN") more).getLast? <;> rfl

theorem nameAfter_keyed (name value : Bytes) {key : Bytes} (rest : List Bytes) (hcolon : ch ':' ∉ key)
    (hname : key ≠ utf8 "TN") : nameAfter name ((key ++ ch ':' :: value) :: rest) = nameAfter name rest := by
  unfold nameAfter
  rw [valuesOf_keyed_cons _ _ _ hcolon, if_neg hname]

theorem entryKey_ne {key : Bytes} (h : isEntryKey key = true) : key ≠ utf8 "TN" ∧ key ≠ utf8 "SF" := by
  rcases isEntryKey_iff.1 h with rfl | rfl | rfl <;> decide

/-- Lines inside of a record: they neither end it nor begin another. -/
def IsBody (body : List Bytes) : Prop := endMark ∉ body ∧ valuesOf (utf8 "SF") body = []

theorem IsBody.cons {body : List Bytes} (h : IsBody body) {key : Bytes} (value : Bytes) (hcolon : ch ':' ∉ key)
    (hfile : key ≠ utf8 "SF") : IsBody ((key ++ ch ':' :: value) :: body) := by
  refine ⟨?_, ?_⟩
  · rw [List.mem_cons, not_or]
    exact ⟨fun hmark => Place.keyed_ne_endMark value hmark.symm, h.1⟩
  · rw [valuesOf_keyed_cons _ _ _ hcolon, if_neg hfile]
    exact h.2

/-- From inside of a record, the run goes through the rest of its lines to its end mark. -/
theorem runs_inside {st st' : State} {rec : Record} {lines : List Bytes} (h : Runs st lines st')
    (hopen : st.current = some rec) (hclosed : st'.current = none) :
    ∃ body after rec', lines = body ++ endMark :: after ∧ IsBody body ∧ Extends rec body rec' ∧
      Runs ⟨rec' :: st.done, nameAfter st.testName body, none⟩ after st' := by
  induction h generalizing rec with
  | nil st =>
    rw [hopen] at hclosed
    cases hclosed
  | cons hline hstep hrest ih =>
    cases step_eq_ok_iff.1 hstep with
    | blank => exact absurd rfl hline
    | other hcolon hname hfile hentry =>
      obtain ⟨body, after, rec', rfl, hbody, hextends, hruns⟩ := ih hopen hclosed
      refine ⟨_ :: body, after, rec', rfl, hbody.cons _ hcolon hfile, hextends.other _ hcolon hentry, ?_⟩
      rw [nameAfter_keyed _ _ _ hcolon hname]
      exact hruns
    | testName name =>
      obtain ⟨body, after, rec', rfl, hbody, hextends, hruns⟩ := ih hopen hclosed
      refine ⟨_ :: body, after, rec', rfl, hbody.cons _ (by decide) (by decide),
        hextends.other _ (by decide) (by decide), ?_⟩
      rw [nameAfter_testName]
      exact hruns
    | sourceFile file hnone =>
      rw [hopen] at hnone
      cases hnone
    | entry hkey hsome hadd =>
      rw [hopen] at hsome
      cases hsome
      have hcolon := colon_not_mem_entryKey hkey
      obtain ⟨body, after, rec', rfl, hbody, hextends, hruns⟩ := ih rfl hclosed
      refine ⟨_ :: body, after, rec', rfl, hbody.cons _ hcolon (entryKey_ne hkey).2, hextends.entry hkey hadd, ?_⟩
      rw [nameAfter_keyed _ _ _ hcolon (entryKey_ne hkey).1]
      exact hruns
    | endMark hsome =>
      rw [hopen] at hsome
      cases hsome
      exact ⟨[], _, rec, rfl, ⟨by simp, rfl⟩, extends_nil rec, hrest⟩

theorem sectionsFrom_append {lines : List Bytes} (h : valuesOf (utf8 "SF") lines = []) (before more : List Bytes) :
    sectionsFrom before (lines ++ more) = sectionsFrom (before ++ lines) more := by
  induction lines generalizing before with
  | nil => simp
  | cons line rest ih =>
    unfold valuesOf at h
    rw [List.filterMap_cons] at h
    cases hvalue : valueOf (utf8 "SF") line with
    | some file => simp [hvalue] at h
    | none =>
      rw [hvalue] at h
      rw [List.cons_append, sectionsFrom, hvalue]
      simp only
      rw [ih h, List.append_assoc, List.singleton_append]

theorem sectionsFrom_section {body : List Bytes} (hbody : IsBody body) (before after : List Bytes) (file : Bytes) :
    sectionsFrom before ((utf8 "SF" ++ ch ':' :: file) :: (body ++ endMark :: after)) =
      ⟨before, file, body⟩ ::
        sectionsFrom (before ++ (utf8 "SF" ++ ch ':' :: file) :: (body ++ [endMark])) after := by
  have hend : (body ++ endMark :: after).takeWhile (· ≠ endMark) = body := by
    rw [List.takeWhile_append_of_pos, List.takeWhile_cons_of_neg (by simp), List.append_nil]
    intro l hl
    simpa using ne_of_mem_of_not_mem hl hbody.1
  have hnoFile : valuesOf (utf8 "SF") (body ++ [endMark]) = [] := by
    rw [valuesOf_append, hbody.2]
    rfl
  have hsplit : body ++ endMark :: after = (body ++ [endMark]) ++ after := by simp
  rw [sectionsFrom, valueOf_keyed _ _ (by decide), if_pos rfl]
  simp only
  rw [hend, hsplit, sectionsFrom_append hnoFile, List.append_assoc, List.singleton_append]

theorem describes_of_extends {before body : List Bytes} {file : Bytes} {rec : Record}
    (h : Extends ⟨nameAfter [] before, file, ∅, 0, 0⟩ body rec) : Section.Describes ⟨before, file, body⟩ rec := by
  obtain ⟨data, hdata, hlines⟩ := h.lines
  refine ⟨h.testName, h.sourceFile, ⟨data, hdata, fun line => ?_⟩, h.linesHit, h.linesFound⟩
  rw [hlines, Maps.getElem?_foldl_alter data Prod.fst (fun e old => some (old.getD 0 + e.2))]
  simp only [Std.ExtTreeMap.getElem?_empty]
  rw [Maps.foldl_some_getD _ (fun (e : Int64 × UInt64) n => n + e.2) 0]
  unfold sumOf
  simp only [List.map_eq_nil_iff]
  split
  · rfl
  · rw [List.sum_eq_foldl, List.foldl_map]

/-- From outside of records, the run adds one record for each section. -/
theorem runs_outside {st st' : State} {lines : List Bytes} (before : List Bytes) (h : Runs st lines st')
    (hopen : st.current = none) (hclosed : st'.current = none) (hname : st.testName = nameAfter [] before) :
    ∃ records, st'.done = records.reverse ++ st.done ∧
      List.Forall₂ Section.Describes (sectionsFrom before lines) records := by
  induction hn : lines.length using Nat.strongRecOn generalizing st lines before with
  | ind n ih =>
    subst hn
    cases h with
    | nil => exact ⟨[], rfl, .nil⟩
    | @cons _ _ _ line rest hline hstep hrest =>
      have hskip : ∀ (st₁ : State), Runs st₁ rest st' → st₁.current = none → st₁.done = st.done →
          st₁.testName = nameAfter st.testName [line] → valueOf (utf8 "SF") line = none →
          ∃ records, st'.done = records.reverse ++ st.done ∧
            List.Forall₂ Section.Describes (sectionsFrom before (line :: rest)) records := by
        intro st₁ hrest hcurrent hdone hname₁ hfile
        have hnext : st₁.testName = nameAfter [] (before ++ [line]) := by
          rw [hname₁, hname, nameAfter_append]
        obtain ⟨records, hrecords, hsections⟩ := ih rest.length (by simp) _ hrest hcurrent hnext rfl
        refine ⟨records, by rw [hrecords, hdone], ?_⟩
        rw [sectionsFrom, hfile]
        exact hsections
      cases step_eq_ok_iff.1 hstep with
      | blank => exact absurd rfl hline
      | other hcolon hkey hfile hentry =>
        refine hskip _ hrest hopen rfl ?_ (by rw [valueOf_keyed _ _ hcolon, if_neg hfile])
        rw [nameAfter_keyed _ _ _ hcolon hkey]
        rfl
      | testName name =>
        refine hskip _ hrest hopen rfl ?_ (by rw [valueOf_keyed _ _ (by decide), if_neg (by decide)])
        rw [nameAfter_testName]
        rfl
      | sourceFile file hnone =>
        -- The section is taken whole, so the rest of the run is outside again.
        obtain ⟨body, after, rec, rfl, hbody, hextends, hruns⟩ := runs_inside hrest rfl hclosed
        rw [hname] at hextends
        have hnext : nameAfter st.testName body =
            nameAfter [] (before ++ (utf8 "SF" ++ ch ':' :: file) :: (body ++ [endMark])) := by
          rw [hname, nameAfter_append, nameAfter_keyed _ _ _ (by decide) (by decide), nameAfter_append]
          rfl
        have hlength : after.length < ((utf8 "SF" ++ ch ':' :: file) :: (body ++ endMark :: after)).length := by
          simp only [List.length_cons, List.length_append]
          omega
        obtain ⟨records, hrecords, hsections⟩ := ih after.length hlength _ hruns rfl hnext rfl
        refine ⟨rec :: records, by simp [hrecords], ?_⟩
        rw [sectionsFrom_section hbody]
        exact .cons (describes_of_extends hextends) hsections
      | entry hkey hsome hadd =>
        rw [hopen] at hsome
        cases hsome
      | endMark hsome =>
        rw [hopen] at hsome
        cases hsome

/-! ## What is not read -/

theorem sourceFile_of_runs {st st' : State} {lines : List Bytes} (h : Runs st lines st') {rec : Record}
    (hopen : st'.current = some rec) :
    (valuesOf (utf8 "SF") lines).getLast?.or (st.current.map (·.sourceFile)) = some rec.sourceFile := by
  induction h with
  | nil st => simp [valuesOf, hopen]
  | cons hline hstep hrest ih =>
    have hlast := ih hopen
    cases step_eq_ok_iff.1 hstep with
    | blank => exact absurd rfl hline
    | other hcolon hname hfile hentry =>
      rw [valuesOf_keyed_cons _ _ _ hcolon, if_neg hfile]
      exact hlast
    | testName name =>
      rw [valuesOf_keyed_cons _ _ _ (by decide), if_neg (by decide)]
      exact hlast
    | sourceFile file hnone =>
      rw [valuesOf_keyed_cons _ _ _ (by decide), if_pos rfl, List.getLast?_cons, ← hlast]
      simp only [Option.map_some, Option.some_or]
      cases (valuesOf (utf8 "SF") _).getLast? <;> rfl
    | entry hkey hsome hadd =>
      rw [valuesOf_keyed_cons _ _ _ (colon_not_mem_entryKey hkey), if_neg (entryKey_ne hkey).2, hsome]
      simpa [sourceFile_addEntry hadd] using hlast
    | endMark hsome =>
      -- The next record is opened by a later line.
      rw [Option.map_none, Option.or_none] at hlast
      rw [valuesOf_endMark_cons, hlast, Option.some_or]

theorem readLines_of_fault {st st₁ : State} {before : List Bytes} {line : Bytes} {fault : LineFault}
    (hbefore : Takes st before st₁) (hlen : line.length < lineLimit)
    (hstep : st₁.step (Space.trim line) = .error fault) (number : Nat) (after : List Bytes) :
    readLines st number (before ++ line :: after) = .error (.atLine (number + before.length) fault) := by
  induction hbefore generalizing number with
  | nil st =>
    rw [List.nil_append, readLines, if_neg (by omega), hstep]
    rfl
  | cons hlen₀ hstep₀ hrest ih =>
    rw [List.cons_append, readLines, if_neg (by omega), hstep₀]
    simp only
    rw [ih hstep, List.length_cons]
    congr 2
    omega

/-- A run to the end gives the records, or the file of the record that is open. -/
theorem parse_of_runs {text : Bytes} {st : State} (hlen : ∀ l ∈ linesOf text, l.length < lineLimit)
    (h : Runs .start (significant (linesOf text)) st) : parse text = st.finish := by
  unfold parse
  rw [readLines_eq_ok_iff.2 ((takes_iff_runs hlen).2 h)]

/-- Exactly the tracefiles are read. A text with lines that are not too long is read if and only if every
line may stand where it does and no record is open at the end; then there is one record for each section, as
the section describes it. If a record is left open, the error is about its file. If a line may not stand where
it does, the error has the number of the first such line, blank lines counted. -/
theorem parse_accepts_grammar (text : Bytes) (hlen : ∀ l ∈ linesOf text, l.length < 2 ^ 20) :
    let lines := significant (linesOf text)
    ((∃ records, parse text = .ok records) ↔
      Place.outside.Admissible lines ∧ Place.outside.after lines = .outside) ∧
    (∀ records, parse text = .ok records → List.Forall₂ Section.Describes (sectionsFrom [] lines) records) ∧
    (Place.outside.Admissible lines → Place.outside.after lines = .inside →
      ∃ file, (valuesOf (utf8 "SF") lines).getLast? = some file ∧ parse text = .error (.unfinished file)) ∧
    ∀ before line after, linesOf text = before ++ line :: after →
      Place.outside.Admissible (significant before) → Space.trim line ≠ [] →
      ¬ (Place.outside.after (significant before)).Admits (Space.trim line) →
      ∃ fault, parse text = .error (.atLine (before.length + 1) fault) := by
  have hstart : State.start.place = .outside := rfl
  refine ⟨⟨?_, ?_⟩, ?_, ?_, ?_⟩
  · rintro ⟨records, h⟩
    obtain ⟨st, htakes, hclosed, _⟩ := parse_eq_ok_iff.1 h
    obtain ⟨hadmissible, hplace⟩ := admissible_of_runs ((takes_iff_runs hlen).1 htakes)
    rw [place_of_none hclosed] at hplace
    exact ⟨hadmissible, hplace.symm⟩
  · rintro ⟨hadmissible, hplace⟩
    obtain ⟨st, hruns, hend⟩ := runs_of_admissible ne_nil_of_mem_significant (hstart ▸ hadmissible)
    cases hcurrent : st.current with
    | none =>
      refine ⟨st.done.reverse, ?_⟩
      rw [parse_of_runs hlen hruns, State.finish, hcurrent]
    | some rec =>
      rw [place_of_some hcurrent, hstart, hplace] at hend
      cases hend
  · intro records h
    obtain ⟨st, htakes, hclosed, rfl⟩ := parse_eq_ok_iff.1 h
    obtain ⟨records, hdone, hsections⟩ := runs_outside [] ((takes_iff_runs hlen).1 htakes) rfl hclosed rfl
    rw [hdone]
    simpa [State.start] using hsections
  · intro hadmissible hplace
    obtain ⟨st, hruns, hend⟩ := runs_of_admissible ne_nil_of_mem_significant (hstart ▸ hadmissible)
    cases hcurrent : st.current with
    | none =>
      rw [place_of_none hcurrent, hstart, hplace] at hend
      cases hend
    | some rec =>
      refine ⟨rec.sourceFile, ?_, ?_⟩
      · simpa [State.start] using sourceFile_of_runs hruns hcurrent
      · rw [parse_of_runs hlen hruns, State.finish, hcurrent]
  · intro before line after hsplit hbefore hline hrefused
    rw [hsplit] at hlen
    obtain ⟨st, hruns, hend⟩ := runs_of_admissible ne_nil_of_mem_significant (hstart ▸ hbefore)
    have htakes := (takes_iff_runs fun l hl => hlen l (List.mem_append_left _ hl)).2 hruns
    cases hstep : st.step (Space.trim line) with
    | ok st₁ =>
      have hadmits := (admits_of_step hline hstep).1
      rw [hend, hstart] at hadmits
      exact absurd hadmits hrefused
    | error fault =>
      refine ⟨fault, ?_⟩
      have hline : line.length < lineLimit := hlen line (by simp)
      unfold parse
      rw [hsplit, readLines_of_fault htakes hline hstep, Nat.add_comm]

/-- Two sections: a line with two counts that wrap, a total that is given twice, and a test name that is
changed inside of the first section. -/
def mixedText : Bytes :=
  utf8 "TN:t\n\nXY:z\n  SF:a:b \nDA:1,3\nTN:u\nDA:1,18446744073709551615,sum\r\nLH:+1\nLH:7\nend_of_record\nSF:c\nend_of_record"

theorem linesOf_mixedText :
    linesOf mixedText = [utf8 "TN:t", [], utf8 "XY:z", utf8 "  SF:a:b ", utf8 "DA:1,3", utf8 "TN:u",
      utf8 "DA:1,18446744073709551615,sum\r", utf8 "LH:+1", utf8 "LH:7", endMark, utf8 "SF:c", endMark] := by
  cbv

theorem sections_mixedText :
    sectionsFrom [] (significant (linesOf mixedText)) =
      [⟨[utf8 "TN:t", utf8 "XY:z"], utf8 "a:b",
        [utf8 "DA:1,3", utf8 "TN:u", utf8 "DA:1,18446744073709551615,sum", utf8 "LH:+1", utf8 "LH:7"]⟩,
      ⟨[utf8 "TN:t", utf8 "XY:z", utf8 "SF:a:b", utf8 "DA:1,3", utf8 "TN:u",
        utf8 "DA:1,18446744073709551615,sum", utf8 "LH:+1", utf8 "LH:7", endMark], utf8 "c", []⟩] := by
  have hlines : significant (linesOf mixedText) =
      [utf8 "TN:t", utf8 "XY:z", utf8 "SF:a:b", utf8 "DA:1,3", utf8 "TN:u",
        utf8 "DA:1,18446744073709551615,sum", utf8 "LH:+1", utf8 "LH:7", endMark, utf8 "SF:c", endMark] := by
    decide +kernel
  rw [hlines]
  rfl

theorem parse_accepts_grammar_mixedText :
    (∀ l ∈ linesOf mixedText, l.length < 2 ^ 20) ∧
      Place.outside.Admissible (significant (linesOf mixedText)) ∧
      ∃ first second, parse mixedText = .ok [first, second] ∧
        first.testName = utf8 "t" ∧ first.sourceFile = utf8 "a:b" ∧ second.testName = utf8 "u" := by
  have hshort : ∀ l ∈ linesOf mixedText, l.length < 40 := by
    rw [linesOf_mixedText]
    decide +kernel
  have hlen : ∀ l ∈ linesOf mixedText, l.length < 2 ^ 20 := fun l hl => (hshort l hl).trans (by decide)
  have hread : (parse mixedText).isOk = true := by decide +kernel
  obtain ⟨haccepts, hdescribes, _⟩ := parse_accepts_grammar mixedText hlen
  cases hparse : parse mixedText with
  | error e =>
    rw [hparse] at hread
    cases hread
  | ok records =>
    have hrecords := hdescribes records hparse
    rw [sections_mixedText] at hrecords
    cases hrecords with
    | cons hfirst hrest =>
      cases hrest with
      | cons hsecond hnil =>
        cases hnil
        exact ⟨hlen, (haccepts.1 ⟨_, hparse⟩).1, _, _, rfl, hfirst.testName, hfirst.sourceFile, hsecond.testName⟩

end Tracefile

end LineCoverage
