import LineCoverage.Config
import LineCoverage.Renderer
import LineCoverage.Template
import LineCoverage.Yaml.Value

/-!
# Configuration files

A configuration file is a YAML document of named settings. What it leaves out keeps its default; a
setting it does not know makes it malformed.
-/

namespace LineCoverage

namespace ConfigFile

def defaults : Config where
  runs := ⟨Path.dot, 0, []⟩
  html := false
  outputDir := []
  coveredFilesOnly := false
  searchPaths := []
  cacheSize := 0
  rendererPath := Renderer.defaultPath
  rendererArgs := []

/-- Changes a setting to the value that was read. A null leaves it as it is. -/
def change {α : Type} (cfg : Config) (read : Yaml.Decode (Option α)) (set : α → Config) : Yaml.Decode Config := do
  return ((← read).map set).getD cfg

def setSymbols (cfg : Config) (name : Bytes) (p : Yaml.Place) : Yaml.Decode Config :=
  if name = utf8 "search_paths" then change cfg p.texts fun v => { cfg with searchPaths := v }
  else if name = utf8 "cache_size" then change cfg p.int fun v => { cfg with cacheSize := v }
  else failure

def setNamed (cfg : Config) (name : Bytes) (p : Yaml.Place) : Yaml.Decode Config :=
  if name = utf8 "project_dir" then
    change cfg p.text fun v => { cfg with runs := { cfg.runs with projectDir := v } }
  else if name = utf8 "aggregate_outputs" then
    change cfg p.int fun v => { cfg with runs := { cfg.runs with lastRuns := v } }
  else if name = utf8 "s2e_out_dirs" then
    change cfg p.texts fun v => { cfg with runs := { cfg.runs with runDirs := v } }
  else if name = utf8 "html" then change cfg p.bool fun v => { cfg with html := v }
  else if name = utf8 "lcov_out_dir" then change cfg p.text fun v => { cfg with outputDir := v }
  else if name = utf8 "include_covered_files_only" then
    change cfg p.bool fun v => { cfg with coveredFilesOnly := v }
  else if name = utf8 "symbols" then p.entries setSymbols cfg
  else if name = utf8 "genhtml_path" then change cfg p.text fun v => { cfg with rendererPath := v }
  else if name = utf8 "genhtml_args" then change cfg p.texts fun v => { cfg with rendererArgs := v }
  else failure

/-- Changes the settings that a document has entries for. The document counts as a node of its own. -/
def setDocument (cfg : Config) (root : Yaml.Node) : Yaml.Decode Config := do
  Yaml.countNode false
  Yaml.Place.entries ⟨root, false⟩ setNamed cfg

def parse? (text : Bytes) : Option Config := do
  let (cfg, _) ← setDocument defaults (← Yaml.parse? text) {}
  pure cfg

def load (s : Store) (env : Bytes → Bytes) (path : Bytes) (expandEnv : Bool) : Except ConfigError Config := do
  let text ← (s.fileContent path).mapError .unreadableFile
  let text ←
    if expandEnv then (Template.expand env text).mapError fun e => .unexpandableFile path (utf8 e.message)
    else pure text
  match parse? text with
  | some cfg => pure cfg
  | none => .error (.malformedFile path)

end ConfigFile

end LineCoverage
