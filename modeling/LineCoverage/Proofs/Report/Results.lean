import LineCoverage.Proofs.Path
import LineCoverage.Report.Run

/-!
# Results that make sense

The fields of a result agree with the stage that its module reached, whatever the programs that a
report relies on and the file store do.
-/

namespace LineCoverage

namespace Report

def Stage.status : Stage → String
  | .mapping => "resolution_error"
  | .writing => "io_error"
  | .rendering => "render_error"
  | .done => "success"

/-- The fields of a result agree with its stage. -/
structure ModuleResult.Consistent (html : Bool) (r : ModuleResult) : Prop where
  done : r.error = none ↔ r.stage = .done
  mapping : r.stage = .mapping ↔ ∃ module e, r.error = some (.resolution module e)
  mappingPath : r.stage = .mapping → r.infoPath = []
  writing : r.stage = .writing ↔ ∃ path e, r.error = some (.output path e)
  writingPath : ∀ path e, r.error = some (.output path e) → path = r.infoPath
  rendering : r.stage = .rendering ↔ ∃ module e, r.error = some (.rendering module e)
  renderingHtml : r.stage = .rendering → html = true
  htmlDir : r.htmlDir ≠ [] ↔ r.stage = .done ∧ html = true
  unwritten : r.stage ≠ .rendering → r.stage ≠ .done → r.linesFound = 0 ∧ r.linesHit = 0 ∧ r.skipped = []
  status : r.status = r.stage.status

theorem htmlDir_ne_nil (cfg : Config) (module : Bytes) : htmlDir cfg module ≠ [] := by
  apply Path.join_ne_nil
  have hending : utf8 "_lcov" ≠ [] := by decide
  simp [hending]

/-! ## One module -/

variable {σ : Type} (cfg : Config) (tools : Tools σ)

theorem consistent_stopped_mapping (module : Bytes) (e : ResolveError) :
    (ModuleResult.stopped module .mapping [] (.resolution module e)).Consistent cfg.html := by
  constructor <;> simp [ModuleResult.stopped, ModuleResult.status, Stage.status]

theorem consistent_stopped_writing (module path : Bytes) (e : OutputError) :
    (ModuleResult.stopped module .writing path (.output path e)).Consistent cfg.html := by
  constructor <;> simp [ModuleResult.stopped, ModuleResult.status, Stage.status]

theorem consistent_renderModule (p : Progress σ) (module path : Bytes) (stats : Tracefile.Stats) :
    (renderModule cfg tools p (.saved module path stats)).1.Consistent cfg.html := by
  unfold renderModule
  cases hhtml : cfg.html with
  | false => constructor <;> simp [ModuleResult.saved, ModuleResult.status, Stage.status]
  | true =>
    simp only [if_true]
    split <;> constructor <;>
      simp [ModuleResult.saved, ModuleResult.status, Stage.status, htmlDir_ne_nil]

theorem writeModule_cases (p : Progress σ) (module : Bytes) (cov : FileLines) :
    ∃ q : Progress σ, q.canceled = p.canceled ∧
      ((∃ e, writeModule cfg tools p module cov =
          (.stopped module .writing (infoPath cfg module) (.output (infoPath cfg module) e), q)) ∨
        ∃ stats, writeModule cfg tools p module cov =
          renderModule cfg tools q (.saved module (infoPath cfg module) stats)) := by
  unfold writeModule
  simp only
  split
  · exact ⟨_, rfl, .inl ⟨_, rfl⟩⟩
  · split
    · exact ⟨_, by rfl, .inl ⟨_, rfl⟩⟩
    · split
      · exact ⟨_, by rfl, .inl ⟨_, rfl⟩⟩
      · exact ⟨_, by rfl, .inr ⟨_, rfl⟩⟩

theorem reportModule_cases (p : Progress σ) (module : Bytes) (counts : AddressCount) :
    ∃ q : Progress σ,
      q.canceled = (p.canceled || (tools.resolve p.world p.store module counts cfg.coveredFilesOnly).cancels) ∧
      ((∃ e, reportModule cfg tools p module counts = (.stopped module .mapping [] (.resolution module e), q)) ∨
        ∃ cov, reportModule cfg tools p module counts = writeModule cfg tools q module cov) := by
  unfold reportModule
  simp only
  split
  · exact ⟨_, by rfl, .inl ⟨_, rfl⟩⟩
  · exact ⟨_, by rfl, .inr ⟨_, rfl⟩⟩

theorem consistent_reportModule (p : Progress σ) (module : Bytes) (counts : AddressCount) :
    (reportModule cfg tools p module counts).1.Consistent cfg.html := by
  obtain ⟨q, _, ⟨e, h⟩ | ⟨cov, h⟩⟩ := reportModule_cases cfg tools p module counts
  · rw [h]
    exact consistent_stopped_mapping cfg _ _
  · obtain ⟨q', _, ⟨e, h'⟩ | ⟨stats, h'⟩⟩ := writeModule_cases cfg tools q module cov
    · rw [h, h']
      exact consistent_stopped_writing cfg _ _ _
    · rw [h, h']
      exact consistent_renderModule cfg tools _ _ _ _

theorem renderModule_keeps (p : Progress σ) (saved : ModuleResult) :
    (renderModule cfg tools p saved).1.module = saved.module ∧
      (renderModule cfg tools p saved).2.canceled = p.canceled := by
  unfold renderModule
  simp only
  split
  · split <;> exact ⟨rfl, rfl⟩
  · exact ⟨rfl, rfl⟩

theorem reportModule_keeps (p : Progress σ) (module : Bytes) (counts : AddressCount) :
    (reportModule cfg tools p module counts).1.module = module ∧
      (reportModule cfg tools p module counts).2.canceled =
        (p.canceled || (tools.resolve p.world p.store module counts cfg.coveredFilesOnly).cancels) := by
  obtain ⟨q, hq, ⟨e, h⟩ | ⟨cov, h⟩⟩ := reportModule_cases cfg tools p module counts
  · rw [h]
    exact ⟨rfl, hq⟩
  · obtain ⟨q', hq', ⟨e, h'⟩ | ⟨stats, h'⟩⟩ := writeModule_cases cfg tools q module cov
    · rw [h, h']
      exact ⟨rfl, hq'.trans hq⟩
    · obtain ⟨hmodule, hcanceled⟩ := renderModule_keeps cfg tools q' (.saved module (infoPath cfg module) stats)
      rw [h, h']
      exact ⟨hmodule, hcanceled.trans (hq'.trans hq)⟩

end Report

end LineCoverage
