import LineCoverage.Log
import LineCoverage.Store
import LineCoverage.Tracefile.Record

/-!
# Writing tracefiles

A tracefile is written through a buffer: only full buffers reach the file before the end. When
missing source files are to be skipped, every file is looked up first, and a failing look-up ends
the writing.
-/

namespace LineCoverage

namespace Tracefile

/-- Data on its way to a file: what has reached it and what waits. -/
structure Buffer where
  flushed : Bytes
  pending : Bytes
  deriving DecidableEq, Repr

namespace Buffer

def empty : Buffer := ⟨[], []⟩

def capacity : Nat := 4096

/-- Adds a piece of data. A piece that does not fit fills the buffer up, which then goes to the file;
what is left waits, or goes to the file at once if it does not fit either. -/
def write (b : Buffer) (piece : Bytes) : Buffer :=
  if b.pending.length + piece.length ≤ capacity then { b with pending := b.pending ++ piece }
  else if b.pending = [] then { b with flushed := b.flushed ++ piece }
  else
    let room := capacity - b.pending.length
    let flushed := b.flushed ++ b.pending ++ piece.take room
    let rest := piece.drop room
    if rest.length ≤ capacity then ⟨flushed, rest⟩ else ⟨flushed ++ rest, []⟩

def writeAll (b : Buffer) (pieces : List Bytes) : Buffer := pieces.foldl write b

def contents (b : Buffer) : Bytes := b.flushed ++ b.pending

end Buffer

structure FileStats where
  file : Bytes
  linesFound : Nat
  linesHit : Nat
  deriving DecidableEq, Repr

structure Stats where
  files : List FileStats
  skipped : List Bytes
  deriving DecidableEq, Repr

namespace Stats

def empty : Stats := ⟨[], []⟩

def linesFound (s : Stats) : Nat := s.files.foldl (fun n f => n + f.linesFound) 0

def linesHit (s : Stats) : Nat := s.files.foldl (fun n f => n + f.linesHit) 0

end Stats

/-- The state of an encoder: what it has written and what it has counted. -/
structure Encoding where
  buffer : Buffer
  stats : Stats
  log : List LogEntry

namespace Encoding

def start : Encoding := ⟨.empty, .empty, []⟩

def addRecord (e : Encoding) (file : Bytes) (lines : LineCount) : Encoding :=
  { buffer := e.buffer.writeAll (recordPieces file lines)
    stats := { e.stats with files := e.stats.files ++ [⟨file, lines.size, hitLines lines⟩] }
    log := e.log ++ [.make .debug "writing source file record" [("file", file)]] }

def skipFile (e : Encoding) (file : Bytes) : Encoding :=
  { e with
    stats := { e.stats with skipped := e.stats.skipped ++ [file] }
    log := e.log ++ [.make .warn "source file does not exist, skipping" [("file", file)]] }

def addFiles (s : Store) (skipMissing : Bool) (e : Encoding) :
    List (Bytes × LineCount) → Encoding × Option FileError
  | [] => (e, none)
  | (file, lines) :: rest =>
    if skipMissing then
      match s.exists? file with
      | .error err => (e, some err)
      | .ok true => addFiles s skipMissing (e.addRecord file lines) rest
      | .ok false => addFiles s skipMissing (e.skipFile file) rest
    else addFiles s skipMissing (e.addRecord file lines) rest

def finish (e : Encoding) : Encoding :=
  if e.stats.files = [] then { e with buffer := e.buffer.write emptyText } else e

end Encoding

/-- Encodes a coverage. On success all data is in the buffer; on a failure only what the buffer
gave away has been written. -/
def encode (s : Store) (skipMissing : Bool) (cov : FileLines) : Encoding × Option FileError :=
  match Encoding.addFiles s skipMissing .start cov.toList with
  | (e, some err) => (e, some err)
  | (e, none) => (e.finish, none)

/-- What reaches the file. -/
def written (result : Encoding × Option FileError) : Bytes :=
  match result with
  | (e, some _) => e.buffer.flushed
  | (e, none) => e.buffer.contents

inductive WriteError where
  | create (e : FileError)
  | write (path : Bytes) (e : FileError)
  | close (e : FileError)
  deriving DecidableEq, Repr

def WriteError.message : WriteError → Bytes
  | .create e => utf8 "create tracefile: " ++ e.message
  | .write path e => utf8 "write " ++ path ++ utf8 ": " ++ e.message
  | .close e => utf8 "close tracefile: " ++ e.message

structure WriteOutcome where
  store : Store
  stats : Stats
  error : Option WriteError
  log : List LogEntry

def write (s : Store) (path : Bytes) (cov : FileLines) (skipMissing : Bool) : WriteOutcome :=
  let opening := LogEntry.make .info "writing line coverage" [("path", path)]
  match s.create path with
  | .error e => ⟨s, .empty, some (.create e), [opening]⟩
  | .ok s =>
    let (e, failure) := encode s skipMissing cov
    let log := opening :: e.log
    let (s, failure) :=
      match s.writeFault path with
      | .ok () => (s.append path (written (e, failure)), failure)
      | .error fault => (s, failure.or (some fault))
    match failure with
    | some err => ⟨s, e.stats, some (.write path err), log⟩
    | none =>
      match s.closeFault path with
      | .error err => ⟨s, e.stats, some (.close err), log⟩
      | .ok () => ⟨s, e.stats, none, log⟩

end Tracefile

end LineCoverage
