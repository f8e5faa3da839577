import LineCoverage.Trace.Files

/-!
# Coverage of a run

The trace files of a run directory are turned into address counts and added to those of the runs
before. A trace only tells that code was reached, not how often it ran: within one run every
covered address counts once.
-/

namespace LineCoverage

inductive ExtractError where
  | canceled
  | listing (dir : Bytes) (e : FileError)
  | aggregating (dir : Bytes) (e : Trace.FileReadError)
  deriving DecidableEq, Repr

def canceledText : Bytes := utf8 "context canceled"

def ExtractError.message : ExtractError → Bytes
  | .canceled => canceledText
  | .listing dir e => utf8 "listing trace files in " ++ dir ++ utf8 ": " ++ e.message
  | .aggregating dir e => utf8 "aggregating trace files in " ++ dir ++ utf8 ": " ++ e.message

namespace Extraction

/-- An order in which the modules of a block map are visited. Nothing fixes it: it only has to give
every module once. -/
structure VisitOrder where
  entries : BlockMap → List (Bytes × List Block)
  perm : ∀ blocks, (entries blocks).Perm blocks.toList

def VisitOrder.byName : VisitOrder := ⟨fun blocks => blocks.toList, fun _ => .refl _⟩

def addRun (order : VisitOrder) (cov : ModuleCoverage) (blocks : BlockMap) : ModuleCoverage :=
  (order.entries blocks).foldl (fun cov entry => ModuleCoverage.addBlocks cov entry.1 entry.2) cov

/-- The blocks of the run in a directory. -/
def runBlocks (s : Store) (dir : Bytes) : Except ExtractError BlockMap := do
  let files ← (Trace.list s dir).mapError (.listing dir)
  (Trace.aggregate s files).mapError (.aggregating dir)

/-- Adds the run in a directory to a coverage. A run that cannot be read whole adds nothing. -/
def extractIn (order : VisitOrder) (s : Store) (canceled : Bool) (dir : Bytes) (cov : ModuleCoverage) :
    ModuleCoverage × Option ExtractError :=
  if canceled then (cov, some .canceled)
  else
    match runBlocks s dir with
    | .error e => (cov, some e)
    | .ok blocks => (addRun order cov blocks, none)

def extract (s : Store) (canceled : Bool) (dir : Bytes) (cov : ModuleCoverage) :
    ModuleCoverage × Option ExtractError :=
  extractIn .byName s canceled dir cov

def moduleLog (blocks : BlockMap) : List LogEntry :=
  blocks.toList.map fun (module, list) =>
    .make .debug "extracted module coverage" [("module", module),
      ("blocks", Decimal.grouped (Int64.ofNat list.length)),
      ("addresses", Decimal.grouped (Int64.ofNat (expandBlocks list).size))]

def extractLog (s : Store) (canceled : Bool) (dir : Bytes) : List LogEntry :=
  if canceled then []
  else
    .make .info "generating translation block coverage information" [("dir", dir)] ::
      match Trace.list s dir with
      | .error _ => []
      | .ok files =>
        Trace.listLog dir files ++ Trace.aggregateLog s files ++
          match Trace.aggregate s files with
          | .error _ => []
          | .ok blocks => moduleLog blocks

end Extraction

end LineCoverage
