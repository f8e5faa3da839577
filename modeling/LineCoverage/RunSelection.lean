import LineCoverage.Config
import LineCoverage.Log
import LineCoverage.Store

/-!
# Run selection

Runs are kept in numbered directories, and a link leads to the latest one. A report takes the
directories it is given, the latest run, or the latest few.
-/

namespace LineCoverage

def runDirName (index : Int64) : Bytes := runDirStem ++ ch '-' :: Decimal.ofInt64 index

/-- The index in a run directory's name: the last of three parts between dashes. -/
def parseRunIndex (name : Bytes) : Except ConfigError Int64 :=
  match name.splitOn (ch '-') with
  | [_, _, index] =>
    match Decimal.signed index with
    | .error e => .error (.badRunIndex name (some e))
    | .ok n => if n < 0 then .error (.badRunIndex name none) else .ok n
  | _ => .error (.badRunName name)

inductive SelectError where
  | config (e : ConfigError)
  | file (e : FileError)
  deriving DecidableEq, Repr

def SelectError.message : SelectError → Bytes
  | .config e => e.message
  | .file e => e.message

namespace RunSelection

/-- The run directories to look at: from `index` down, at most `count` of them. -/
def candidates (dir : Bytes) (index : Nat) (count : Nat) : List Bytes :=
  (List.range (min count (index + 1))).map fun i =>
    Path.join dir (runDirName (Int64.ofNat (index - i)))

/-- The paths at which there is something. The first failure other than absence ends the search. -/
def existing (s : Store) : List Bytes → Except FileError (List Bytes)
  | [] => .ok []
  | path :: rest => do
    let there ← s.exists? path
    let others ← existing s rest
    pure (if there then path :: others else others)

/-- The latest runs, counted back from the one that the link leads to. -/
def lastRuns (s : Store) (target : Bytes) (count : Int64) : Except SelectError (List Bytes) := do
  let index ← (parseRunIndex (Path.base target)).mapError .config
  (existing s (candidates (Path.dir target) index.toNatClampNeg count.toNatClampNeg)).mapError .file

/-- The run directories of a report, latest first. `realPath` follows the link to the latest run. -/
def select (s : Store) (realPath : Bytes → Except Bytes Bytes) (cfg : RunConfig) :
    Except SelectError (List Bytes) := do
  cfg.validate.mapError .config
  if 0 < cfg.lastRuns then
    match realPath cfg.lastRunPath with
    | .error why => .error (.config (.unresolved cfg.lastRunPath why))
    | .ok target => lastRuns s target cfg.lastRuns
  else if cfg.runDirs ≠ [] then pure cfg.runDirs
  else pure [cfg.lastRunPath]

/-- What the selection logs: the missing directories, up to the first failure. -/
def missingLog (s : Store) : List Bytes → List LogEntry
  | [] => []
  | path :: rest =>
    match s.exists? path with
    | .ok true => missingLog s rest
    | .ok false =>
      .make .debug "skipping missing output directory" [("dir", path)] :: missingLog s rest
    | .error _ => []

def selectLog (s : Store) (realPath : Bytes → Except Bytes Bytes) (cfg : RunConfig) : List LogEntry :=
  match cfg.validate, realPath cfg.lastRunPath with
  | .ok (), .ok target =>
    match parseRunIndex (Path.base target) with
    | .ok index =>
      if 0 < cfg.lastRuns then
        missingLog s (candidates (Path.dir target) index.toNatClampNeg cfg.lastRuns.toNatClampNeg)
      else []
    | .error _ => []
  | _, _ => []

end RunSelection

end LineCoverage
