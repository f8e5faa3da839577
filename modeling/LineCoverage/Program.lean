import LineCoverage.Options
import LineCoverage.Report.Summary
import LineCoverage.Script
import LineCoverage.Tracefile.Reader

/-!
# The program

A command line makes a report of the selected runs, or shows a summary of tracefiles. Running it on a
disk gives the exit code, what is printed, and the changed disk.
-/

namespace LineCoverage

namespace Program

open CommandLine

structure Outcome where
  exit : Nat
  output : Bytes
  complaints : Bytes
  disk : Disk

def name : Bytes := utf8 "s2e-lcov"

/-! ## The command line -/

def reportCommand : Command := ⟨"lcov", Options.flags, none⟩

def summaryCommand : Command := ⟨"summary", [], some "file"⟩

def interface : Interface := ⟨[Options.verboseFlag], [reportCommand, summaryCommand], reportCommand⟩

def checkFile (d : Disk) (path : Bytes) : Except UsageError Unit :=
  match d.stat path with
  | .ok false => .ok ()
  | .ok true => .error (.directory (Path.base path))
  | .error e => .error (if e.isAbsence then .missingFile path else .file e)

structure Request where
  command : Command
  options : Options
  files : List Bytes

def argument? : Element → Option Bytes
  | .argument text => some text
  | _ => none

def request (d : Disk) (env : Bytes → Bytes) (words : List Bytes) : Except UsageError Request := do
  let (command, found) ← CommandLine.read interface (.disk d) words
  let options ← Options.ofFound env (checkFile d) found
  let files := found.filterMap argument?
  match command.argument with
  | some name => if files.isEmpty then .error (.missingArgument name) else pure ⟨command, options, files⟩
  | none => pure ⟨command, options, files⟩

/-! ## Failures -/

inductive Failure where
  | config (e : ConfigError)
  | other (message : Bytes)

def Failure.message : Failure → Bytes
  | .config e => e.message
  | .other message => message

/-- The exit code of a failure: a bad configuration has one of its own. -/
def Failure.exit : Failure → Nat
  | .config _ => 2
  | .other _ => 1

def Failure.text (f : Failure) : Bytes := utf8 "error: " ++ f.message ++ [newline]

def Failure.ofSetup : Report.SetupError → Failure
  | .config e => .config e
  | e => .other e.message

def Failure.ofRun : Report.RunError → Failure
  | .select (.config e) => .config e
  | e => .other e.message

/-! ## Summaries -/

def summary (d : Disk) (path : Bytes) : Except Failure Bytes :=
  match (Store.disk d).fileContent path with
  | .error e => .error (.other e.message)
  | .ok text =>
    match Tracefile.parse text with
    | .error e => .error (.other (utf8 "parse " ++ path ++ utf8 ": " ++ e.message))
    | .ok records =>
      .ok (utf8 "tracefile: " ++ path ++ [newline] ++ Report.recordsText (records.map .ofRecord))

def summaries (d : Disk) : List Bytes → Bytes × Option Failure
  | [] => ([], none)
  | path :: rest =>
    match summary d path with
    | .error f => ([], some f)
    | .ok text =>
      let (more, failure) := summaries d rest
      (text ++ more, failure)

/-! ## Reports -/

/-- The tools of a report: the symbols on the disk, and the renderer as a program. -/
def tools (env : List (Bytes × Bytes)) (cfg : Config) : Report.Tools Symbols where
  resolve symbols s module counts coveredFilesOnly :=
    let log := symbols.coverageLog s false module counts coveredFilesOnly
    let (lines, symbols) := symbols.coverage s false module counts coveredFilesOnly
    ⟨lines.mapError .symbols, false, log.map .log, symbols⟩
  render symbols s canceled info dir :=
    let o := Renderer.render (Script.launch env) cfg.rendererPath cfg.rendererArgs s canceled info dir
    ⟨o.error, o.events, o.store, symbols⟩

/-- Puts a metrics file in its place. It is written under a new name first, which ends in `fresh`. -/
def writeMetrics (d : Disk) (fresh path text : Bytes) : Except FileError Disk :=
  let draft := Disk.extend (Path.dir path) (Path.base path) ++ fresh
  let stuck (cause : SystemCause) : FileError := .system "rename" (draft ++ ch ' ' :: path) cause
  match d.resolve true draft with
  | .error cause => .error (.system "open" draft cause)
  | .ok _ =>
    match d.resolve false path with
    | .error cause => .error (stuck cause)
    | .ok (.found _ .directory) => .error (stuck .exists)
    | .ok (.found place _) => .ok (d.put place (.file text false))
    | .ok (.free place) => .ok (d.put place (.file text false))

def outputOf : Event → Bytes
  | .output text => text
  | _ => []

/-- What an event adds to the complaints. The log leaves out its finest level unless it is verbose. -/
def complaintOf (verbose : Bool) : Event → Bytes
  | .log e => if e.level = .debug && !verbose then [] else e.line ++ [newline]
  | .complaint text => text
  | .output _ => []

def failureWarning (results : List Report.ModuleResult) : List Event :=
  let failed := (Report.failed results).length
  if failed = 0 then []
  else [.log (.make .warn "some modules could not be reported"
    [("failed", Decimal.ofNat failed), ("total", Decimal.ofNat results.length)])]

/-- How a report goes: what it shows, the disk it leaves, and why it failed, if it did. -/
structure ReportRun where
  events : List Event
  disk : Disk
  failure : Option Failure

def diskOf (s : Store) (d : Disk) : Disk :=
  match s with
  | .disk d => d
  | .memory _ => d

def report (d : Disk) (env : List (Bytes × Bytes)) (fresh : Bytes) (o : Options) (cfg : Config) : ReportRun :=
  match Report.checkSetup cfg [] with
  | .error e => ⟨[], d, some (.ofSetup e)⟩
  | .ok () =>
    let realPath (path : Bytes) : Except Bytes Bytes := (d.realPath path).mapError (·.message)
    let r := Report.run cfg (tools env cfg) realPath false .empty (.disk d) (.make cfg.allSearchPaths cfg.cacheSize)
    let d := diskOf r.store d
    match r.error with
    | some e => ⟨r.events, d, some (.ofRun e)⟩
    | none =>
      let events := r.events ++ [.output (Report.resultsText false (r.results.map .ofResult))]
      let warned := events ++ failureWarning r.results
      if o.metricsFile.isEmpty then ⟨warned, d, none⟩
      else
        match writeMetrics d fresh o.metricsFile r.metrics.fileText with
        | .ok d => ⟨warned, d, none⟩
        | .error e => ⟨events, d, some (.other (utf8 "write metrics: " ++ e.message))⟩

/-! ## Everything -/

def exitOf (f : Option Failure) : Nat := (f.map (·.exit)).getD 0

def failureText (f : Option Failure) : Bytes := (f.map (·.text)).getD []

/-- Runs the program. Names of files that must not exist yet end in `fresh`. -/
def run (d : Disk) (env : List (Bytes × Bytes)) (fresh : Bytes) (words : List Bytes) : Outcome :=
  let value (name : Bytes) : Bytes := (env.lookup name).getD []
  match request d value words with
  | .error e => ⟨1, [], name ++ utf8 ": error: " ++ e.message ++ utf8 ", try --help\n", d⟩
  | .ok r =>
    if r.command = summaryCommand then
      let (text, failure) := summaries d r.files
      ⟨exitOf failure, text, failureText failure, d⟩
    else
      match r.options.config (.disk d) value with
      | .error e => ⟨2, [], Failure.text (.config e), d⟩
      | .ok cfg =>
        let p := report d env fresh r.options cfg
        ⟨exitOf p.failure, p.events.flatMap outputOf,
          p.events.flatMap (complaintOf r.options.verbose) ++ failureText p.failure, p.disk⟩

end Program

end LineCoverage
