import LineCoverage.Options
import Mathlib.Data.List.Induction

/-!
# Flags over a configuration file

A flag takes one setting over from the command line and leaves every other as the configuration file has it. So it
does not matter in which order the flags were given, nor how often, nor what the environment and the defaults say.
-/

namespace LineCoverage

open CommandLine

inductive SettingValue where
  | text (v : Bytes)
  | texts (vs : List Bytes)
  | switch (on : Bool)
  | number (n : Int64)
  deriving DecidableEq, Repr

namespace Setting

/-! ## Settings as parts of a configuration -/

def get : Setting → Config → SettingValue
  | .projectDir, cfg => .text cfg.runs.projectDir
  | .lastRuns, cfg => .number cfg.runs.lastRuns
  | .runDirs, cfg => .texts cfg.runs.runDirs
  | .html, cfg => .switch cfg.html
  | .outputDir, cfg => .text cfg.outputDir
  | .coveredFilesOnly, cfg => .switch cfg.coveredFilesOnly
  | .searchPaths, cfg => .texts cfg.searchPaths
  | .cacheSize, cfg => .number cfg.cacheSize
  | .rendererPath, cfg => .text cfg.rendererPath
  | .rendererArgs, cfg => .texts cfg.rendererArgs

theorem ext_get {cfg cfg' : Config} (h : ∀ t : Setting, t.get cfg = t.get cfg') : cfg = cfg' := by
  obtain ⟨⟨projectDir, lastRuns, runDirs⟩, html, outputDir, only, paths, size, renderer, args⟩ := cfg
  obtain ⟨⟨projectDir', lastRuns', runDirs'⟩, html', outputDir', only', paths', size', renderer', args'⟩ := cfg'
  cases h .projectDir
  cases h .lastRuns
  cases h .runDirs
  cases h .html
  cases h .outputDir
  cases h .coveredFilesOnly
  cases h .searchPaths
  cases h .cacheSize
  cases h .rendererPath
  cases h .rendererArgs
  rfl

theorem get_copy_self (s : Setting) (source cfg : Config) : s.get (s.copy source cfg) = s.get source := by
  cases s <;> rfl

theorem get_copy_of_ne {s t : Setting} (h : s ≠ t) (source cfg : Config) : t.get (s.copy source cfg) = t.get cfg := by
  cases s <;> cases t <;> first | rfl | exact absurd rfl h

theorem get_copy (s t : Setting) (source cfg : Config) :
    t.get (s.copy source cfg) = if s = t then t.get source else t.get cfg := by
  by_cases h : s = t
  · rw [if_pos h, h, get_copy_self]
  · rw [if_neg h, get_copy_of_ne h]

theorem get_layer (file : Config) (o : Options) (t : Setting) :
    t.get (o.layer file) = if t ∈ o.given then t.get o.settings else t.get file := by
  unfold Options.layer
  induction o.given using List.reverseRecOn with
  | nil => rfl
  | append_singleton given s ih =>
    rw [List.foldl_append, List.foldl_cons, List.foldl_nil, get_copy, ih]
    by_cases h : s = t
    · simp [h]
    · simp [h, Ne.symm h]

theorem layer_eq_of_mem_iff (file : Config) (o : Options) {given : List Setting} (h : ∀ t, t ∈ given ↔ t ∈ o.given) :
    Options.layer file { o with given } = o.layer file := by
  refine ext_get fun t => ?_
  simp only [get_layer, h]

/-! ## The values of flags -/

theorem flag_injective : Function.Injective flag := by
  intro s t h
  cases s <;> cases t <;> first | rfl | exact absurd h (by decide)

theorem find?_flag (t : Setting) : all.find? (·.flag = t.flag) = some t := by
  cases t <;> rfl

/-- The texts that a command line has for a setting, in order. -/
def textsIn (t : Setting) (found : List Element) : List Bytes :=
  found.filterMap fun
    | .flag f text => if f = t.flag then some text else none
    | .argument _ => none

/-- What the texts of a flag say. There is one, unless the flag can be repeated. -/
def parsed (t : Setting) (texts : List Bytes) : Option SettingValue :=
  match t, texts with
  | .runDirs, _ | .searchPaths, _ | .rendererArgs, _ => some (.texts texts)
  | .projectDir, [text] | .outputDir, [text] | .rendererPath, [text] => some (.text text)
  | .html, [text] | .coveredFilesOnly, [text] => some (.switch (text = trueText))
  | .lastRuns, [text] | .cacheSize, [text] => (FloatText.readWhole text).toOption.map .number
  | _, _ => none

def next (t : Setting) (value : SettingValue) (text : Bytes) : Option SettingValue :=
  match t.flag.repeatable, value with
  | true, .texts texts => some (.texts (texts ++ [text]))
  | _, _ => t.parsed [text]

theorem assign_eq_ok {t : Setting} {text : Bytes} {cfg cfg' : Config} (h : t.assign text cfg = .ok cfg') :
    t.next (t.get cfg) text = some (t.get cfg') ∧ ∀ u, u ≠ t → u.get cfg' = u.get cfg := by
  cases t with
  | lastRuns | cacheSize =>
    cases hnumber : FloatText.readWhole text with
    | error e =>
      simp only [assign, hnumber] at h
      cases h
    | ok n =>
      simp only [assign, hnumber] at h
      cases h
      refine ⟨by simp [next, flag, parsed, get, hnumber, Except.toOption], fun u hu => ?_⟩
      cases u <;> first | rfl | exact absurd rfl hu
  | _ =>
    cases h
    refine ⟨rfl, fun u hu => ?_⟩
    cases u <;> first | rfl | exact absurd rfl hu

theorem mem_textsIn {t : Setting} {found : List Element} {text : Bytes} :
    text ∈ t.textsIn found ↔ .flag t.flag text ∈ found := by
  rw [textsIn, List.mem_filterMap]
  constructor
  · rintro ⟨e, he, heq⟩
    cases e with
    | argument _ => cases heq
    | flag f text' =>
      simp only [Option.ite_none_right_eq_some, Option.some.injEq] at heq
      obtain ⟨rfl, rfl⟩ := heq
      exact he
  · intro h
    exact ⟨_, h, if_pos rfl⟩

theorem textsIn_flag (t u : Setting) (text : Bytes) (rest : List Element) :
    u.textsIn (.flag t.flag text :: rest) = if u = t then text :: u.textsIn rest else u.textsIn rest := by
  by_cases h : u = t
  · simp [textsIn, h]
  · simp [textsIn, h, flag_injective.ne (Ne.symm h)]

theorem textsIn_of_ne {f : Flag} {u : Setting} (h : f ≠ u.flag) (text : Bytes) (rest : List Element) :
    u.textsIn (.flag f text :: rest) = u.textsIn rest := by
  simp [textsIn, h]

end Setting

namespace Options

theorem setFlag_cases {o o' : Options} {f : Flag} {text : Bytes} (h : o.setFlag f text = .ok o') :
    (∃ t : Setting, f = t.flag ∧ o'.given = o.given ++ [t] ∧ t.assign text o.settings = .ok o'.settings) ∨
      (∀ t : Setting, f ≠ t.flag) ∧ o'.given = o.given ∧ o'.settings = o.settings := by
  unfold setFlag at h
  split at h
  · rename_i t hfind
    have hflag : t.flag = f := by simpa using List.find?_some hfind
    cases hassign : t.assign text o.settings with
    | error e =>
      rw [hassign] at h
      cases h
    | ok cfg =>
      rw [hassign] at h
      cases h
      exact .inl ⟨t, hflag.symm, rfl, hassign⟩
  · rename_i hfind
    refine .inr ⟨?_, ?_⟩
    · rintro t rfl
      rw [Setting.find?_flag] at hfind
      cases hfind
    · split_ifs at h <;> cases h <;> exact ⟨rfl, rfl⟩

section Apply

variable {check : Bytes → Except UsageError Unit} {seen : List Flag} {o o' : Options} {found rest : List Element}

theorem apply_argument {text : Bytes} (h : apply check seen o (.argument text :: rest) = .ok o') :
    apply check seen o rest = .ok o' := by
  rw [apply] at h
  cases hcheck : check text with
  | error e =>
    rw [hcheck] at h
    cases h
  | ok _ =>
    rw [hcheck] at h
    exact h

theorem apply_flag {f : Flag} {text : Bytes} (h : apply check seen o (.flag f text :: rest) = .ok o') :
    (f ∈ seen → f.repeatable = true) ∧
      ∃ next, o.setFlag f text = .ok next ∧ apply check (f :: seen) next rest = .ok o' := by
  rw [apply] at h
  split at h
  · cases h
  · rename_i hseen
    cases hset : o.setFlag f text with
    | error e =>
      rw [hset] at h
      cases h
    | ok next =>
      rw [hset] at h
      exact ⟨by simpa using hseen, next, rfl, h⟩

/-- Each setting goes through the texts of its flag, and is given if there are any. -/
theorem apply_spec (h : apply check seen o found = .ok o') (t : Setting) :
    (t ∈ o'.given ↔ t ∈ o.given ∨ t.textsIn found ≠ []) ∧
      (t.textsIn found).foldlM t.next (t.get o.settings) = some (t.get o'.settings) := by
  induction found generalizing seen o with
  | nil =>
    cases h
    simp [Setting.textsIn]
  | cons e rest ih =>
    cases e with
    | argument text => exact ih (apply_argument h)
    | flag f text =>
      obtain ⟨-, next, hset, hrest⟩ := apply_flag h
      obtain ⟨hgiven, htexts⟩ := ih hrest
      rcases setFlag_cases hset with ⟨u, rfl, hadded, hassign⟩ | ⟨hnone, hsame, hsettings⟩
      · obtain ⟨hself, hothers⟩ := Setting.assign_eq_ok hassign
        rw [Setting.textsIn_flag, hgiven, hadded, List.mem_append, List.mem_singleton]
        by_cases hu : t = u
        · subst hu
          simp [hself, htexts]
        · simpa [hu, hothers t hu] using htexts
      · rw [Setting.textsIn_of_ne (hnone t), hgiven, hsame]
        exact ⟨Iff.rfl, hsettings ▸ htexts⟩

theorem length_textsIn_le (h : apply check seen o found = .ok o') {t : Setting} (ht : t.flag.repeatable = false) :
    (t.textsIn found).length ≤ if t.flag ∈ seen then 0 else 1 := by
  induction found generalizing seen o with
  | nil => simp [Setting.textsIn]
  | cons e rest ih =>
    cases e with
    | argument text => exact ih (apply_argument h)
    | flag f text =>
      obtain ⟨hrepeated, next, -, hrest⟩ := apply_flag h
      have hle := ih hrest
      by_cases hf : f = t.flag
      · subst hf
        have hnew : t.flag ∉ seen := by
          intro hmem
          rw [hrepeated hmem] at ht
          cases ht
        simp only [List.mem_cons, true_or, if_true] at hle
        rw [Setting.textsIn_flag, if_pos rfl, if_neg hnew, List.length_cons]
        omega
      · rw [Setting.textsIn_of_ne hf]
        simpa [Ne.symm hf] using hle

end Apply

theorem given_startWith (env : Bytes → Bytes) (found : List Element) : (startWith env found).given = [] := by
  unfold startWith
  simp only
  split <;> rfl

theorem get_startWith {env : Bytes → Bytes} {found : List Element} {t : Setting}
    (hrepeatable : t.flag.repeatable = true) (hgiven : t.textsIn found ≠ []) : t.get (startWith env found).settings = .texts [] := by
  cases t with
  | searchPaths =>
    obtain ⟨text, htext⟩ := List.exists_mem_of_ne_nil _ hgiven
    unfold startWith
    rw [if_pos (List.any_eq_true.2 ⟨_, Setting.mem_textsIn.1 htext, decide_eq_true rfl⟩)]
    rfl
  | runDirs | rendererArgs =>
    unfold startWith
    simp only
    split <;> rfl
  | _ => cases hrepeatable

theorem foldlM_next {t : Setting} (hrepeatable : t.flag.repeatable = true) (texts before : List Bytes) :
    texts.foldlM t.next (.texts before) = some (.texts (before ++ texts)) := by
  induction texts generalizing before with
  | nil => simp
  | cons text rest ih => simp [Setting.next, hrepeatable, ih]

theorem parsed_textsIn {env : Bytes → Bytes} {check : Bytes → Except UsageError Unit} {found : List Element}
    {o : Options} (h : ofFound env check found = .ok o) {t : Setting} (hgiven : t.textsIn found ≠ []) :
    t.parsed (t.textsIn found) = some (t.get o.settings) := by
  have htexts := (apply_spec h t).2
  cases hrepeatable : t.flag.repeatable with
  | true =>
    rw [get_startWith hrepeatable hgiven, foldlM_next hrepeatable, List.nil_append] at htexts
    rw [← htexts]
    cases t <;> first | rfl | cases hrepeatable
  | false =>
    have hle := length_textsIn_le h hrepeatable
    obtain ⟨text, htext⟩ := List.length_eq_one_iff.1 (Nat.le_antisymm hle (List.length_pos_iff.2 hgiven))
    rw [htext] at htexts ⊢
    simpa [Setting.next, hrepeatable] using htexts

/-- With a configuration file a setting is what its flag says, or what the file says if the flag was not given. The
flags need not come in any order, and a flag may come again. What a flag says is told by the command line alone, so
neither the environment nor the defaults come into it. -/
theorem flags_over_file {s : Store} {env : Bytes → Bytes} {o : Options} {file : Config} (hnamed : o.configFile ≠ [])
    (hload : ConfigFile.load s env o.configFile o.expandEnv = .ok file) :
    ∃ cfg, o.config s env = .ok cfg ∧
      (∀ t : Setting, t.get cfg = if t ∈ o.given then t.get o.settings else t.get file) ∧
      (∀ other, (∀ t : Setting, t.get other = t.get cfg) → other = cfg) ∧
      (∀ given, (∀ t, t ∈ given ↔ t ∈ o.given) → config { o with given } s env = .ok cfg) ∧
      ∀ env' check found, ofFound env' check found = .ok o → ∀ t : Setting,
        if t.textsIn found = [] then t.get cfg = t.get file else t.parsed (t.textsIn found) = some (t.get cfg) := by
  have hconfig : ∀ given, config { o with given } s env = .ok (layer file { o with given }) := by
    intro given
    have hempty : o.configFile.isEmpty = false := by simpa using hnamed
    simp only [config, hempty, hload]
    rfl
  refine ⟨layer file o, hconfig o.given, Setting.get_layer file o, fun other => Setting.ext_get, fun given h => ?_,
    fun env' check found hfound t => ?_⟩
  · rw [hconfig, Setting.layer_eq_of_mem_iff file o h]
  · have hgiven : t ∈ o.given ↔ t.textsIn found ≠ [] := by
      rw [(apply_spec hfound t).1, given_startWith]
      simp
    rw [Setting.get_layer]
    by_cases h : t.textsIn found = []
    · simp [hgiven, h]
    · simp [hgiven, h, parsed_textsIn hfound h]

section Example

def smallEnv : Bytes → Bytes := fun _ => utf8 "/env"

def smallStore : Memory :=
  Memory.empty.putFile (utf8 "/c.yaml") (utf8 "html: true\nlcov_out_dir: /r\nsymbols:\n  cache_size: 3\n")

def smallFound : List Element :=
  [.flag Setting.searchPaths.flag (utf8 "a"), .flag configFileFlag (utf8 "/c.yaml"),
    .flag Setting.outputDir.flag (utf8 "/out"), .flag Setting.searchPaths.flag (utf8 "b")]

theorem flags_over_file_small :
    ∃ o cfg, ofFound smallEnv (fun _ => .ok ()) smallFound = .ok o ∧ o.config (.memory smallStore) smallEnv = .ok cfg ∧
      cfg.searchPaths = [utf8 "a", utf8 "b"] ∧ cfg.outputDir = utf8 "/out" ∧ cfg.html = true ∧ cfg.cacheSize = 3 ∧
      cfg.runs.projectDir = Path.dot := by
  have hoptions : ((ofFound smallEnv (fun _ => .ok ()) smallFound).toOption.map fun o => (o.configFile, o.expandEnv)) =
      some (utf8 "/c.yaml", false) := by decide +kernel
  have hfile : (ConfigFile.load (.memory smallStore) smallEnv (utf8 "/c.yaml") false).toOption =
      some { ConfigFile.defaults with html := true, outputDir := utf8 "/r", cacheSize := 3 } := by decide +kernel
  cases hfound : ofFound smallEnv (fun _ => .ok ()) smallFound with
  | error e => simp [hfound, Except.toOption] at hoptions
  | ok o =>
    cases hload : ConfigFile.load (.memory smallStore) smallEnv (utf8 "/c.yaml") false with
    | error e => simp [hload, Except.toOption] at hfile
    | ok file =>
      simp only [hfound, hload, Except.toOption, Option.map_some, Option.some.injEq, Prod.mk.injEq] at hoptions hfile
      have hnamed : o.configFile ≠ [] := by
        rw [hoptions.1]
        decide
      rw [← hoptions.1, ← hoptions.2] at hload
      obtain ⟨cfg, hconfig, -, -, -, hlayers⟩ := flags_over_file hnamed hload
      have hsetting := hlayers smallEnv _ smallFound hfound
      have hpaths := hsetting .searchPaths
      have houtput := hsetting .outputDir
      rw [show Setting.searchPaths.textsIn smallFound = [utf8 "a", utf8 "b"] by decide +kernel] at hpaths
      rw [show Setting.outputDir.textsIn smallFound = [utf8 "/out"] by decide +kernel] at houtput
      have hkept : ∀ t ∈ [Setting.html, .cacheSize, .projectDir], t.textsIn smallFound = [] := by decide +kernel
      have hsame : ∀ t ∈ [Setting.html, .cacheSize, .projectDir], t.get cfg = t.get file := by
        intro t ht
        have h := hsetting t
        rwa [if_pos (hkept t ht)] at h
      subst hfile
      refine ⟨o, cfg, rfl, hconfig, ?_, ?_, ?_, ?_, ?_⟩
      · exact (SettingValue.texts.inj (Option.some.inj hpaths)).symm
      · exact (SettingValue.text.inj (Option.some.inj houtput)).symm
      · exact SettingValue.switch.inj (hsame .html (by simp))
      · exact SettingValue.number.inj (hsame .cacheSize (by simp))
      · exact SettingValue.text.inj (hsame .projectDir (by simp))

end Example

end Options

end LineCoverage
