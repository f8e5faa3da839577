import LineCoverage.Report.Result
import LineCoverage.RunSelection

/-!
# Reports

A report adds up the coverage of the selected runs and then writes one tracefile for each module. A
module that fails leaves the others alone; only a selection or a trace that cannot be read ends the
report.
-/

namespace LineCoverage

namespace Report

inductive Part where
  | selector
  | extractor
  | resolver
  | writer
  | renderer
  deriving DecidableEq, Repr

inductive SetupError where
  | config (e : ConfigError)
  | incomplete
  | noRenderer
  deriving DecidableEq, Repr

def SetupError.message : SetupError → Bytes
  | .config e => e.message
  | .incomplete => utf8 "report: selector, extractor, resolver and writer are required"
  | .noRenderer => utf8 "report: HTML output requires a renderer"

def checkSetup (cfg : Config) (missing : List Part) : Except SetupError Unit := do
  cfg.runs.validate.mapError .config
  if missing.any (· ≠ .renderer) then .error .incomplete
  else if cfg.html && missing.contains .renderer then .error .noRenderer
  else pure ()

/-! ## Adding up runs -/

inductive RunError where
  | select (e : SelectError)
  | extract (e : ExtractError)
  | canceled
  deriving DecidableEq, Repr

def RunError.message : RunError → Bytes
  | .select e => e.message
  | .extract e => e.message
  | .canceled => canceledText

def addRuns (s : Store) (canceled : Bool) (cov : ModuleCoverage) : List Bytes → Except ExtractError ModuleCoverage
  | [] => .ok cov
  | dir :: rest =>
    match Extraction.extract s canceled dir cov with
    | (cov, none) => addRuns s canceled cov rest
    | (_, some e) => .error e

def aggregate (s : Store) (realPath : Bytes → Except Bytes Bytes) (canceled : Bool) (cfg : Config) :
    Except RunError ModuleCoverage := do
  let dirs ← (RunSelection.select s realPath cfg.runs).mapError .select
  (addRuns s canceled ∅ dirs).mapError .extract

def addRunsLog (s : Store) (canceled : Bool) : List Bytes → List LogEntry
  | [] => []
  | dir :: rest =>
    .make .info "extracting coverage info" [("dir", dir)] :: Extraction.extractLog s canceled dir ++
      match Extraction.extract s canceled dir ∅ with
      | (_, none) => addRunsLog s canceled rest
      | (_, some _) => []

def aggregateLog (s : Store) (realPath : Bytes → Except Bytes Bytes) (canceled : Bool) (cfg : Config) :
    List LogEntry :=
  RunSelection.selectLog s realPath cfg.runs ++
    match RunSelection.select s realPath cfg.runs with
    | .error _ => []
    | .ok dirs =>
      addRunsLog s canceled dirs ++
        match addRuns s canceled ∅ dirs with
        | .error _ => []
        | .ok cov => [.make .info "aggregated coverage" [("runs", Decimal.ofNat dirs.length),
            ("modules", Decimal.ofNat cov.size), ("addresses", Decimal.grouped (Int64.ofNat cov.addresses))]]

def countAggregate (s : Store) (realPath : Bytes → Except Bytes Bytes) (canceled : Bool) (cfg : Config)
    (m : Metrics) : Metrics :=
  let m := m.observe "aggregating"
  match RunSelection.select s realPath cfg.runs with
  | .error _ => m
  | .ok dirs =>
    let m := { m with runDirectories := dirs.length }
    match addRuns s canceled ∅ dirs with
    | .error _ => m
    | .ok cov => { m with addresses := cov.addresses }

/-! ## Modules -/

structure Resolved (σ : Type) where
  lines : Except ResolveError FileLines
  cancels : Bool
  events : List Event
  world : σ

structure Rendered (σ : Type) where
  error : Option RenderError
  events : List Event
  store : Store
  world : σ

/-- The programs a report relies on, with a state of their own. -/
structure Tools (σ : Type) where
  resolve : σ → Store → (module : Bytes) → AddressCount → (coveredFilesOnly : Bool) → Resolved σ
  render : σ → Store → (canceled : Bool) → (info dir : Bytes) → Rendered σ

structure Progress (σ : Type) where
  store : Store
  world : σ
  canceled : Bool
  owners : Std.ExtTreeMap Bytes Bytes
  events : List Event

namespace Progress

def emit {σ : Type} (p : Progress σ) (events : List Event) : Progress σ :=
  { p with events := p.events ++ events }

def note {σ : Type} (p : Progress σ) (log : List LogEntry) : Progress σ := p.emit (log.map .log)

end Progress

def infoPath (cfg : Config) (module : Bytes) : Bytes :=
  Path.join cfg.outputPath (Path.base module ++ utf8 ".info")

def htmlDir (cfg : Config) (module : Bytes) : Bytes :=
  Path.join cfg.outputPath (Path.base module ++ utf8 "_lcov")

variable {σ : Type}

def renderModule (cfg : Config) (tools : Tools σ) (p : Progress σ) (saved : ModuleResult) :
    ModuleResult × Progress σ :=
  if cfg.html then
    let dir := htmlDir cfg saved.module
    let reply := tools.render p.world p.store p.canceled saved.infoPath dir
    let p := { p with store := reply.store, world := reply.world }.emit reply.events
    match reply.error with
    | some e => ({ saved with stage := .rendering, error := some (.rendering saved.module e) }, p)
    | none =>
      ({ saved with htmlDir := dir },
        p.note [.make .info "HTML report available" [("module", saved.module), ("path", Renderer.indexPath dir)]])
  else (saved, p)

/-- Writes the tracefile of a module. The first module to come to a tracefile owns it. -/
def writeModule (cfg : Config) (tools : Tools σ) (p : Progress σ) (module : Bytes) (cov : FileLines) :
    ModuleResult × Progress σ :=
  let path := infoPath cfg module
  match p.owners[path]? with
  | some other => (.stopped module .writing path (.output path (.taken other)), p)
  | none =>
    let p := { p with owners := p.owners.insert path module }
    match p.store.makeDirs cfg.outputPath with
    | .error e => (.stopped module .writing path (.output path (.directory e)), p)
    | .ok s =>
      let o := Tracefile.write s path cov cfg.html
      let p := { p with store := o.store }.note o.log
      match o.error with
      | some e => (.stopped module .writing path (.output path (.tracefile e)), p)
      | none =>
        renderModule cfg tools
          (p.note [.make .info "line coverage saved" [("module", module), ("path", path)]])
          (.saved module path o.stats)

def reportModule (cfg : Config) (tools : Tools σ) (p : Progress σ) (module : Bytes) (counts : AddressCount) :
    ModuleResult × Progress σ :=
  let reply := tools.resolve p.world p.store module counts cfg.coveredFilesOnly
  let p := { p with world := reply.world, canceled := p.canceled || reply.cancels }.emit reply.events
  match reply.lines with
  | .error e => (.stopped module .mapping [] (.resolution module e), p)
  | .ok cov => writeModule cfg tools p module cov

def failureLog (r : ModuleResult) : List LogEntry :=
  match r.error with
  | some e => [.make .error "failed to report module" [("module", r.module), ("stage", utf8 r.stage.name),
      ("err", e.message)]]
  | none => []

/-- Reports the modules in turn, until the report is canceled. -/
def reportModules (cfg : Config) (tools : Tools σ) (p : Progress σ) :
    List (Bytes × AddressCount) → List ModuleResult × Option RunError × Progress σ
  | [] => ([], none, p)
  | (module, counts) :: rest =>
    if p.canceled then ([], some .canceled, p)
    else
      let (r, p) := reportModule cfg tools p module counts
      let (results, error, p) := reportModules cfg tools (p.note (failureLog r)) rest
      (r :: results, error, p)

structure Outcome (σ : Type) where
  results : List ModuleResult
  error : Option RunError
  metrics : Metrics
  store : Store
  world : σ
  events : List Event

/-- Makes a report. -/
def run (cfg : Config) (tools : Tools σ) (realPath : Bytes → Except Bytes Bytes) (canceled : Bool)
    (metrics : Metrics) (s : Store) (world : σ) : Outcome σ :=
  let metrics := countAggregate s realPath canceled cfg metrics
  let events := (aggregateLog s realPath canceled cfg).map .log
  match aggregate s realPath canceled cfg with
  | .error e => ⟨[], some e, metrics, s, world, events⟩
  | .ok cov =>
    let (results, error, p) := reportModules cfg tools ⟨s, world, canceled, ∅, events⟩ cov.toList
    ⟨results, error, results.foldl (countResult cfg.html) metrics, p.store, p.world, p.events⟩

end Report

end LineCoverage
