import LineCoverage.Compression.Content
import LineCoverage.Log
import LineCoverage.Trace.Document

/-!
# Trace files of a run

A run leaves trace files somewhere below its directory. They are found by their names, read in the
order of their paths, and their blocks are put together module by module.
-/

namespace LineCoverage

namespace Trace

/-- Whether a file of this name is a trace file: `tbcoverage-`, anything on one line, `.json`, and
perhaps the ending of a compressed file. -/
def isFileName (name : Bytes) : Bool :=
  let start := utf8 "tbcoverage-"
  let rest := name.drop start.length
  name.startsWith start && !rest.contains newline &&
    [utf8 ".json", utf8 ".json.gz", utf8 ".json.zst"].any (Bytes.endsWith rest)

/-- Whether a path has the name of a trace file. A path is cleaned before its name is taken. -/
def isFilePath (path : Bytes) : Bool := isFileName (Path.base (Path.clean path))

/-- The trace files at and below a directory, by path. -/
def list (s : Store) (dir : Bytes) : Except FileError (List Bytes) := do
  let files ← s.filesBelow dir
  pure ((files.filter isFilePath).mergeSort (· ≤ ·))

def listLog (dir : Bytes) (files : List Bytes) : List LogEntry :=
  if files.isEmpty then [.make .warn "no translation block coverage files found" [("dir", dir)]] else []

inductive FileReadError where
  | content (e : ContentError)
  | document (path : Bytes) (e : DocumentError)
  deriving DecidableEq, Repr

def FileReadError.message : FileReadError → Bytes
  | .content e => e.message
  | .document path e => utf8 "parse " ++ path ++ utf8 ": " ++ e.message

def readFile (s : Store) (path : Bytes) : Except FileReadError BlockMap := do
  let text ← (Content.read s path).mapError .content
  (parse text).mapError (.document path)

/-- Adds blocks behind those of the same module. -/
def append (all more : BlockMap) : BlockMap :=
  more.foldl (fun all module blocks => all.alter module fun old => some (old.getD [] ++ blocks)) all

def aggregateFrom (s : Store) (all : BlockMap) : List Bytes → Except FileReadError BlockMap
  | [] => .ok all
  | path :: rest => do aggregateFrom s (append all (← readFile s path)) rest

def aggregate (s : Store) (files : List Bytes) : Except FileReadError BlockMap :=
  aggregateFrom s ∅ files

def aggregateLog (s : Store) : List Bytes → List LogEntry
  | [] => []
  | path :: rest =>
    match readFile s path with
    | .ok blocks =>
      .make .debug "read translation block file" [("path", path), ("modules", Decimal.ofNat blocks.size)] ::
        aggregateLog s rest
    | .error _ => []

end Trace

end LineCoverage
