import LineCoverage.Metrics
import LineCoverage.Renderer
import LineCoverage.Symbols
import LineCoverage.Tracefile.Writer

/-!
# Results of a report

What became of each module: the stage it reached, what was written, and why it stopped there.
-/

namespace LineCoverage

namespace Report

/-- The stages a module goes through. -/
inductive Stage where
  | mapping
  | writing
  | rendering
  | done
  deriving DecidableEq, Repr

def Stage.name : Stage → String
  | .mapping => "mapping"
  | .writing => "writing"
  | .rendering => "rendering"
  | .done => "done"

def Stage.ofNumber? (n : Int64) : Option Stage :=
  if n = 0 then some .mapping else if n = 1 then some .writing
  else if n = 2 then some .rendering else if n = 3 then some .done else none

def stageName (n : Int64) : String :=
  match Stage.ofNumber? n with
  | some s => s.name
  | none => "unknown"

inductive ResolveError where
  | symbols (e : SymbolError)
  | failed (text : Bytes)
  | crashed (text : Bytes)
  deriving DecidableEq, Repr

def ResolveError.message : ResolveError → Bytes
  | .symbols e => e.message
  | .failed text => text
  | .crashed text => utf8 "panic: " ++ text

inductive OutputError where
  | taken (module : Bytes)
  | directory (e : FileError)
  | tracefile (e : Tracefile.WriteError)
  deriving DecidableEq, Repr

def OutputError.message : OutputError → Bytes
  | .taken module => utf8 "already written for module " ++ module
  | .directory e => utf8 "create output directory: " ++ e.message
  | .tracefile e => e.message

inductive ModuleError where
  | resolution (module : Bytes) (e : ResolveError)
  | output (path : Bytes) (e : OutputError)
  | rendering (module : Bytes) (e : RenderError)
  deriving DecidableEq, Repr

def ModuleError.message : ModuleError → Bytes
  | .resolution module e => utf8 "resolving lines of " ++ module ++ utf8 ": " ++ e.message
  | .output path e => utf8 "writing " ++ path ++ utf8 ": " ++ e.message
  | .rendering module e => utf8 "rendering HTML report of " ++ module ++ utf8 ": " ++ e.message

/-- The outcome of one module. -/
structure ModuleResult where
  module : Bytes
  stage : Stage
  infoPath : Bytes
  htmlDir : Bytes
  linesFound : Nat
  linesHit : Nat
  skipped : List Bytes
  error : Option ModuleError
  deriving DecidableEq, Repr

namespace ModuleResult

def stopped (module : Bytes) (stage : Stage) (infoPath : Bytes) (e : ModuleError) : ModuleResult :=
  ⟨module, stage, infoPath, [], 0, 0, [], some e⟩

def saved (module infoPath : Bytes) (stats : Tracefile.Stats) : ModuleResult :=
  ⟨module, .done, infoPath, [], stats.linesFound, stats.linesHit, stats.skipped, none⟩

def isOk (r : ModuleResult) : Bool := r.error.isNone

def status (r : ModuleResult) : String :=
  match r.error with
  | none => "success"
  | some (.resolution ..) => "resolution_error"
  | some (.output ..) => "io_error"
  | some (.rendering ..) => "render_error"

def isWritten (r : ModuleResult) : Bool := r.stage = .rendering || r.stage = .done

def beganWriting (r : ModuleResult) : Bool :=
  match r.error with
  | some (.resolution ..) => false
  | some (.output _ (.taken _)) => false
  | _ => true

end ModuleResult

def failed (results : List ModuleResult) : List ModuleResult := results.filter (!·.isOk)

def combinedError? (results : List ModuleResult) : Option Bytes :=
  match results.filterMap (·.error) with
  | [] => none
  | errors =>
    let head := match errors with
      | [_] => utf8 "1 error occurred:"
      | _ => Decimal.ofNat errors.length ++ utf8 " errors occurred:"
    some (head ++ errors.flatMap (fun e => utf8 "\n\t* " ++ e.message) ++ utf8 "\n\n")

def countResult (html : Bool) (m : Metrics) (r : ModuleResult) : Metrics :=
  let m := { m with modules := m.modules.bump r.status 1 }.observe "mapping"
  let m := if r.beganWriting then m.observe "writing" else m
  if r.isWritten then
    let m := { m with lines := (m.lines.bump "found" r.linesFound).bump "hit" r.linesHit }
    if html then m.observe "rendering" else m
  else m

end Report

end LineCoverage
