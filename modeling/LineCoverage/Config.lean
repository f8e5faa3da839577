import LineCoverage.Path
import LineCoverage.Store.Error
import LineCoverage.Text.NumberError

/-!
# Configuration

What a report is to be made of, and the errors that say that this cannot be.
-/

namespace LineCoverage

/-- Which runs to take. -/
structure RunConfig where
  projectDir : Bytes
  /-- How many of the latest runs to take; zero if the runs are named. -/
  lastRuns : Int64
  runDirs : List Bytes
  deriving DecidableEq, Repr

structure Config where
  runs : RunConfig
  html : Bool
  outputDir : Bytes
  coveredFilesOnly : Bool
  searchPaths : List Bytes
  cacheSize : Int64
  rendererPath : Bytes
  rendererArgs : List Bytes
  deriving DecidableEq, Repr

inductive ConfigError where
  | negativeCount (n : Int64)
  | exclusive
  | unresolved (path reason : Bytes)
  | badRunName (name : Bytes)
  | badRunIndex (name : Bytes) (e : Option NumberError)
  | unreadableFile (e : FileError)
  | unexpandableFile (path reason : Bytes)
  | malformedFile (path : Bytes)
  deriving DecidableEq, Repr

def lastRunName : Bytes := utf8 "s2e-last"

def runDirStem : Bytes := utf8 "s2e-out"

/-- The mark that stands for the wording of the file format's own reader. -/
def malformedFileMark : Bytes := utf8 "<yaml>"

namespace ConfigError

def reason : ConfigError → Bytes
  | .negativeCount n => utf8 "aggregate-outputs must not be negative, got " ++ Decimal.ofInt64 n
  | .exclusive => utf8 "aggregate-outputs and s2e-out-dir are mutually exclusive"
  | .unresolved path why => utf8 "cannot resolve " ++ path ++ utf8 ": " ++ why
  | .badRunName name =>
    utf8 "output directory " ++ Quoted.quote name ++ utf8 " does not match " ++ runDirStem ++ utf8 "-<index>"
  | .badRunIndex name e =>
    utf8 "output directory " ++ Quoted.quote name ++ utf8 " has an invalid index" ++
      match e with
      | some e => utf8 ": " ++ e.message
      | none => []
  | .unreadableFile e => utf8 "cannot read config file: " ++ e.message
  | .unexpandableFile path why =>
    utf8 "cannot expand environment variables in " ++ path ++ utf8 ": " ++ why
  | .malformedFile path => utf8 "cannot parse config file " ++ path ++ utf8 ": " ++ malformedFileMark

def message (e : ConfigError) : Bytes := utf8 "configuration error: " ++ e.reason

end ConfigError

namespace RunConfig

def validate (cfg : RunConfig) : Except ConfigError Unit :=
  if cfg.lastRuns < 0 then .error (.negativeCount cfg.lastRuns)
  else if 0 < cfg.lastRuns ∧ cfg.runDirs ≠ [] then .error .exclusive
  else .ok ()

def lastRunPath (cfg : RunConfig) : Bytes := Path.join cfg.projectDir lastRunName

end RunConfig

namespace Config

/-- Where tracefiles are written: next to the latest run unless a directory is given. -/
def outputPath (cfg : Config) : Bytes :=
  if cfg.outputDir ≠ [] then cfg.outputDir else cfg.runs.lastRunPath

/-- Where the binaries of modules are looked up: in the project first. -/
def allSearchPaths (cfg : Config) : List Bytes := cfg.runs.projectDir :: cfg.searchPaths

end Config

end LineCoverage
