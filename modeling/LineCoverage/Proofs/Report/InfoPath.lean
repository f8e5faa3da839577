import LineCoverage.Proofs.Store.Memory
import LineCoverage.Report.Run

/-!
# The paths of tracefiles

Two modules have the same tracefile exactly if they have the same base name. No tracefile is a directory that
another one needs.
-/

namespace LineCoverage

namespace Report

def infoName (module : Bytes) : Bytes :=
  if Path.base module = [Path.slash] then utf8 ".info" else Path.base module ++ utf8 ".info"

theorem outputPath_ne_nil (cfg : Config) : cfg.outputPath ≠ [] := by
  unfold Config.outputPath
  split
  · assumption
  · exact Path.join_ne_nil _ (by decide)

theorem slash_not_mem_infoName (module : Bytes) : Path.slash ∉ infoName module := by
  have hending : Path.slash ∉ utf8 ".info" := by decide
  unfold infoName
  split
  · exact hending
  · rename_i hroot
    obtain hbase | ⟨_, hslash⟩ := Path.base_cases module
    · exact absurd hbase hroot
    · simp [hslash, hending]

theorem le_length_infoName (module : Bytes) : 5 ≤ (infoName module).length := by
  have hending : (utf8 ".info").length = 5 := by decide
  unfold infoName
  split <;> simp [hending]

theorem elements_infoName (module : Bytes) : Path.elements (infoName module) = [infoName module] := by
  have hlen := le_length_infoName module
  have hne : ∀ short : Bytes, short.length < 5 → infoName module ≠ short := by
    intro short hshort h
    rw [h] at hlen
    omega
  unfold Path.elements
  rw [Bytes.splitOn_eq_singleton (slash_not_mem_infoName module)]
  simp [hne [] (by decide), hne Path.dot (by decide)]

theorem infoName_ne_dotDot (module : Bytes) : infoName module ≠ Path.dotDot := by
  intro h
  have hlen := le_length_infoName module
  rw [h] at hlen
  revert hlen
  decide

theorem elements_base (module : Bytes) :
    Path.elements (Path.base module ++ utf8 ".info") = [infoName module] := by
  by_cases hroot : Path.base module = [Path.slash]
  · rw [infoName, if_pos hroot, hroot]
    decide
  · have hname : infoName module = Path.base module ++ utf8 ".info" := if_neg hroot
    rw [← hname, elements_infoName]

theorem infoPath_eq (cfg : Config) (module : Bytes) :
    infoPath cfg module = Path.stem cfg.outputPath ++ infoName module := by
  have hending : utf8 ".info" ≠ [] := by decide
  unfold infoPath
  rw [Path.join_eq_clean (outputPath_ne_nil cfg) (List.append_ne_nil_of_right_ne_nil _ hending)]
  exact Path.clean_child (outputPath_ne_nil cfg) (elements_base module) (infoName_ne_dotDot module)

theorem infoName_eq_iff {x y : Bytes} : infoName x = infoName y ↔ Path.base x = Path.base y := by
  constructor
  · intro h
    have hempty : ∀ b : Bytes, b ++ utf8 ".info" = utf8 ".info" → b = [] := fun b hb => by simpa using hb
    unfold infoName at h
    split at h <;> split at h
    · rename_i hx hy
      rw [hx, hy]
    · rename_i hx hy
      obtain hroot | ⟨hne, _⟩ := Path.base_cases y
      · exact absurd hroot hy
      · exact absurd (hempty _ h.symm) hne
    · rename_i hx hy
      obtain hroot | ⟨hne, _⟩ := Path.base_cases x
      · exact absurd hroot hx
      · exact absurd (hempty _ h) hne
    · exact List.append_cancel_right h
  · intro h
    unfold infoName
    rw [h]

theorem infoPath_eq_iff {cfg : Config} {x y : Bytes} :
    infoPath cfg x = infoPath cfg y ↔ Path.base x = Path.base y := by
  rw [infoPath_eq, infoPath_eq, List.append_cancel_left_eq, infoName_eq_iff]

theorem info_suffix_infoName (module : Bytes) : utf8 ".info" <:+ infoName module := by
  unfold infoName
  split
  · exact List.suffix_refl _
  · exact List.suffix_append _ _

theorem info_suffix_infoPath (cfg : Config) (module : Bytes) : utf8 ".info" <:+ infoPath cfg module := by
  rw [infoPath_eq]
  exact (info_suffix_infoName module).trans (List.suffix_append _ _)

theorem le_length_infoPath (cfg : Config) (module : Bytes) : 5 ≤ (infoPath cfg module).length := by
  have hname := le_length_infoName module
  rw [infoPath_eq, List.length_append]
  omega

theorem key_infoPath (cfg : Config) (module : Bytes) : Memory.key (infoPath cfg module) = infoPath cfg module := by
  have hlen := le_length_infoPath cfg module
  have hclean : Path.clean (infoPath cfg module) = infoPath cfg module := by
    rw [infoPath_eq, ← Path.clean_child (outputPath_ne_nil cfg) (elements_base module) (infoName_ne_dotDot module),
      Path.clean_clean]
  unfold Memory.key
  rw [hclean, if_neg]
  rintro (h | h) <;> rw [h] at hlen <;> revert hlen <;> decide

/-! ## The directories above a tracefile -/

theorem length_key_le (p : Bytes) : (Memory.key p).length ≤ (Path.stem p).length + 1 := by
  unfold Memory.key
  simp only
  split
  · simp [Memory.root]
  · exact Path.length_clean_le p

theorem parent_infoPath (cfg : Config) (module : Bytes) :
    Memory.parent (infoPath cfg module) = Memory.key cfg.outputPath := by
  unfold Memory.parent
  rw [infoPath_eq, Path.dir_stem_append _ (slash_not_mem_infoName module)]
  unfold Memory.key
  rw [Path.clean_clean]

theorem infoPath_not_mem_outputPath (cfg : Config) (module : Bytes) :
    infoPath cfg module ∉ Memory.key cfg.outputPath :: Memory.parents (Memory.key cfg.outputPath) := by
  have hkey := length_key_le cfg.outputPath
  have hname := le_length_infoName module
  have hlen : (infoPath cfg module).length = (Path.stem cfg.outputPath).length + (infoName module).length := by
    rw [infoPath_eq, List.length_append]
  intro h
  rcases List.mem_cons.1 h with h | h
  · rw [h] at hlen
    omega
  · rcases Memory.length_of_mem_parents h with h | h
    · rw [h, Memory.root, List.length_singleton] at hlen
      omega
    · omega

theorem infoPath_not_mem_parents (cfg : Config) (x y : Bytes) :
    infoPath cfg x ∉ Memory.parents (infoPath cfg y) := by
  have habove := infoPath_not_mem_outputPath cfg x
  have hroot : infoPath cfg x ≠ Memory.root := by
    intro h
    have hlen := le_length_infoPath cfg x
    rw [h] at hlen
    revert hlen
    decide
  unfold Memory.parents
  rw [parent_infoPath]
  simp only
  split
  · simp
  · split
    · exact habove
    · simpa using hroot

end Report

end LineCoverage
