import LineCoverage.CommandLine.Reading
import LineCoverage.ConfigFile
import LineCoverage.Text.FloatText

/-!
# Options

The settings that the command line can change, and how they go together with a configuration file: a
flag that was given wins over the file, the file wins over the environment and the defaults.
-/

namespace LineCoverage

open CommandLine

inductive Setting where
  | projectDir
  | lastRuns
  | runDirs
  | html
  | outputDir
  | coveredFilesOnly
  | searchPaths
  | cacheSize
  | rendererPath
  | rendererArgs
  deriving DecidableEq, Repr

namespace Setting

def all : List Setting :=
  [.projectDir, .lastRuns, .runDirs, .html, .outputDir, .coveredFilesOnly, .searchPaths, .cacheSize,
    .rendererPath, .rendererArgs]

def flag : Setting → Flag
  | .projectDir => { name := "project-dir" }
  | .lastRuns => { name := "aggregate-outputs", short := some 'a' }
  | .runDirs => { name := "s2e-out-dir", repeatable := true }
  | .html => { name := "html", isSwitch := true }
  | .outputDir => { name := "lcov-out-dir" }
  | .coveredFilesOnly => { name := "include-covered-files-only", isSwitch := true }
  | .searchPaths => { name := "symbols.path", repeatable := true }
  | .cacheSize => { name := "symbols.cache-size" }
  | .rendererPath => { name := "genhtml.path" }
  | .rendererArgs => { name := "genhtml.arg", repeatable := true }

def copy (s : Setting) (source cfg : Config) : Config :=
  match s with
  | .projectDir => { cfg with runs := { cfg.runs with projectDir := source.runs.projectDir } }
  | .lastRuns => { cfg with runs := { cfg.runs with lastRuns := source.runs.lastRuns } }
  | .runDirs => { cfg with runs := { cfg.runs with runDirs := source.runs.runDirs } }
  | .html => { cfg with html := source.html }
  | .outputDir => { cfg with outputDir := source.outputDir }
  | .coveredFilesOnly => { cfg with coveredFilesOnly := source.coveredFilesOnly }
  | .searchPaths => { cfg with searchPaths := source.searchPaths }
  | .cacheSize => { cfg with cacheSize := source.cacheSize }
  | .rendererPath => { cfg with rendererPath := source.rendererPath }
  | .rendererArgs => { cfg with rendererArgs := source.rendererArgs }

/-- Changes a setting to the value of a flag. A repeatable one gets one more element. -/
def assign (s : Setting) (value : Bytes) (cfg : Config) : Except UsageError Config :=
  let number : Except UsageError Int64 := (FloatText.readWhole value).mapError .badNumber
  match s with
  | .projectDir => .ok { cfg with runs := { cfg.runs with projectDir := value } }
  | .lastRuns => return { cfg with runs := { cfg.runs with lastRuns := ← number } }
  | .runDirs => .ok { cfg with runs := { cfg.runs with runDirs := cfg.runs.runDirs ++ [value] } }
  | .html => .ok { cfg with html := value = trueText }
  | .outputDir => .ok { cfg with outputDir := value }
  | .coveredFilesOnly => .ok { cfg with coveredFilesOnly := value = trueText }
  | .searchPaths => .ok { cfg with searchPaths := cfg.searchPaths ++ [value] }
  | .cacheSize => return { cfg with cacheSize := ← number }
  | .rendererPath => .ok { cfg with rendererPath := value }
  | .rendererArgs => .ok { cfg with rendererArgs := cfg.rendererArgs ++ [value] }

end Setting

structure Options where
  verbose : Bool
  configFile : Bytes
  expandEnv : Bool
  metricsFile : Bytes
  settings : Config
  given : List Setting
  deriving DecidableEq, Repr

namespace Options

def verboseFlag : Flag := { name := "verbose", short := some 'v', isSwitch := true }

def configFileFlag : Flag := { name := "config.file" }

def expandEnvFlag : Flag := { name := "config.expand-env", isSwitch := true }

def metricsFileFlag : Flag := { name := "metrics.textfile" }

def flags : List Flag := [configFileFlag, expandEnvFlag, metricsFileFlag] ++ Setting.all.map (·.flag)

def variableName (name : String) : Bytes := utf8 ("S2E_LCOV_" ++ name)

/-- The value of an environment variable, or a default where it is empty. -/
def fromEnv (env : Bytes → Bytes) (name : String) (default : Bytes) : Bytes :=
  let value := env (variableName name)
  if value.isEmpty then default else value

/-- The lines of a text. A line break at the end ends the last line. -/
def lines (s : Bytes) : List Bytes :=
  let pieces := s.splitOn newline
  let count := pieces.length - 1
  let bare := pieces.zipIdx.map fun (p, i) => if i < count && p.getLast? = some 13 then p.dropLast else p
  if 0 < count && bare.getLast? = some [] then bare.dropLast else bare

def listFromEnv (env : Bytes → Bytes) (name : String) : List Bytes :=
  let value := env (variableName name)
  if value.isEmpty then [] else lines value

def defaultCacheSize : Int64 := 16

def start (env : Bytes → Bytes) : Options where
  verbose := false
  configFile := fromEnv env "CONFIG_FILE" []
  expandEnv := false
  metricsFile := []
  settings :=
    { ConfigFile.defaults with
      runs := { ConfigFile.defaults.runs with projectDir := fromEnv env "PROJECT_DIR" Path.dot }
      searchPaths := listFromEnv env "SYMBOLS_PATH"
      cacheSize := defaultCacheSize
      rendererPath := fromEnv env "GENHTML_PATH" Renderer.defaultPath }
  given := []

/-- The options before the flags are applied: the values of a repeatable flag that is given begin
with none. -/
def startWith (env : Bytes → Bytes) (found : List Element) : Options :=
  let o := start env
  let isGiven := found.any fun
    | .flag f _ => f = Setting.searchPaths.flag
    | _ => false
  if isGiven then { o with settings := { o.settings with searchPaths := [] } } else o

def setFlag (o : Options) (f : Flag) (value : Bytes) : Except UsageError Options :=
  match Setting.all.find? (·.flag = f) with
  | some s => return { o with settings := ← s.assign value o.settings, given := o.given ++ [s] }
  | none =>
    if f = configFileFlag then .ok { o with configFile := value }
    else if f = expandEnvFlag then .ok { o with expandEnv := value = trueText }
    else if f = metricsFileFlag then .ok { o with metricsFile := value }
    else if f = verboseFlag then .ok { o with verbose := value = trueText }
    else .ok o

/-- Applies what was found behind flags that were seen. Only some flags can be repeated. -/
def apply (check : Bytes → Except UsageError Unit) (seen : List Flag) (o : Options) :
    List Element → Except UsageError Options
  | [] => .ok o
  | .argument text :: rest => do
    check text
    apply check seen o rest
  | .flag f value :: rest => do
    if seen.contains f && !f.repeatable then .error (.repeated f.name)
    else apply check (f :: seen) (← o.setFlag f value) rest

def ofFound (env : Bytes → Bytes) (check : Bytes → Except UsageError Unit) (found : List Element) :
    Except UsageError Options :=
  apply check [] (startWith env found) found

/-- The settings of a file with those whose flag was given in their place. -/
def layer (file : Config) (o : Options) : Config := o.given.foldl (fun cfg s => s.copy o.settings cfg) file

def config (o : Options) (s : Store) (env : Bytes → Bytes) : Except ConfigError Config :=
  if o.configFile.isEmpty then .ok o.settings
  else (ConfigFile.load s env o.configFile o.expandEnv).map (layer · o)

end Options

end LineCoverage
