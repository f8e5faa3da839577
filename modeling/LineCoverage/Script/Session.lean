import LineCoverage.Renderer
import LineCoverage.Script.Pattern
import LineCoverage.Script.Tool.Files

/-!
# Running scripts

What a running script has come to: its variables, its streams, the disk it works on, and what it wrote.
-/

namespace LineCoverage

namespace Script

structure Variable where
  value : Option Bytes
  exported : Bool := false
  fixed : Bool := false

inductive Stream where
  | output
  | complaints
  | nowhere
  | capture (n : Nat)
  | file (n : Nat)
  | input (n : Nat)
  deriving DecidableEq, Repr

structure OpenFile where
  place : Place
  offset : Nat
  appends : Bool

/-- What was asked for about the loops or the function that are running. -/
inductive Leap where
  | breakOut (levels : Nat)
  | goOn (levels : Nat)
  | leave
  deriving DecidableEq, Repr

structure Session where
  dialect : Dialect := .plain
  name : Bytes
  args : List Bytes
  vars : List (Bytes × Variable) := []
  functions : List (Bytes × Command) := []
  options : List Char := []
  code : Nat := 0
  substituted : Nat := 0
  line : Nat := 0
  speaker : Option Bytes := none
  disk : Disk
  streams : List (Nat × Stream) := [(0, .nowhere), (1, .output), (2, .complaints)]
  files : Array OpenFile := #[]
  inputs : Array Bytes := #[]
  captures : Array (List Bytes) := #[]
  written : List Chunk := []
  documents : List (Nat × Word) := []
  /-- What is done on signals, by their numbers; the end of the script counts as number zero. -/
  traps : List (Nat × Bytes) := []
  pending : List Bytes := []
  optionOffset : Nat × Nat := (0, 0)
  job : Option Nat := none
  loops : Nat := 0
  depth : Nat := 0
  locals : List (List (Bytes × Option Variable)) := []
  leap : Option Leap := none
  ended : Option ExitStatus := none
  failed : Bool := false
  isSubshell : Bool := false

namespace Session

def isHalted (s : Session) : Bool := s.leap.isSome || s.ended.isSome

def has (s : Session) (option : Char) : Bool := s.options.contains option

/-! ## Variables -/

def entry? (s : Session) (name : Bytes) : Option Variable := s.vars.lookup name

def value? (s : Session) (name : Bytes) : Option Bytes := (s.entry? name).bind (·.value)

def putVariable (s : Session) (name : Bytes) (v : Variable) : Session :=
  let known := s.vars.any (·.1 = name)
  { s with vars :=
      if known then s.vars.map fun (n, old) => if n = name then (n, v) else (n, old)
      else s.vars ++ [(name, v)] }

def assign (s : Session) (name value : Bytes) : Session :=
  let old := s.entry? name
  s.putVariable name
    { value := some value
      exported := (old.any (·.exported)) || s.has 'a'
      fixed := old.any (·.fixed) }

def isFixed (s : Session) (name : Bytes) : Bool := (s.entry? name).any (·.fixed)

def unset (s : Session) (name : Bytes) : Session :=
  { s with vars := s.vars.filter (·.1 ≠ name) }

def rank (name : Bytes) : Nat :=
  name.foldl (fun n b => n + b.toNat) (((name.head?.map (·.toNat)).getD 0) * 16) % 39

def environment (s : Session) : List (Bytes × Bytes) :=
  (s.vars.filterMap fun (name, v) => if v.exported then v.value.map (name, ·) else none).mergeSort
    fun a b => rank a.1 ≤ rank b.1

/-! ## Streams -/

def stream? (s : Session) (n : Nat) : Option Stream := s.streams.lookup n

def setStream (s : Session) (n : Nat) (target : Option Stream) : Session :=
  { s with streams := target.toList.map (n, ·) ++ s.streams.filter (·.1 ≠ n) }

def writeAt (d : Disk) (place : Place) (offset : Nat) (data : Bytes) : Disk :=
  match d.nodeAt? place with
  | some (.file content executable) =>
    let gap := List.replicate (offset - content.length) 0
    d.put place (.file (content.take offset ++ gap ++ data ++ content.drop (offset + data.length)) executable)
  | _ => d

def writeTo (s : Session) (target : Stream) (data : Bytes) : Session :=
  if data.isEmpty then s
  else
    match target with
    | .output => { s with written := .output data :: s.written }
    | .complaints => { s with written := .complaint data :: s.written }
    | .nowhere => s
    | .input _ => s
    | .capture n => { s with captures := s.captures.modify n (data :: ·) }
    | .file n =>
      match s.files[n]? with
      | none => s
      | some f =>
        let size := match s.disk.nodeAt? f.place with
          | some (.file content _) => content.length
          | _ => 0
        let offset := if f.appends then size else f.offset
        { s with
          disk := writeAt s.disk f.place offset data
          files := s.files.modify n fun f => { f with offset := offset + data.length } }

def write (s : Session) (n : Nat) (data : Bytes) : Session :=
  match s.stream? n with
  | some target => s.writeTo target data
  | none => s

def writeChunks (s : Session) (chunks : List Chunk) : Session :=
  chunks.foldl (fun s => fun
    | .output t => s.write 1 t
    | .complaint t => s.write 2 t) s

def available (s : Session) (n : Nat) : Bytes :=
  match s.stream? n with
  | some (.input i) => (s.inputs[i]?).getD []
  | some (.file i) =>
    match s.files[i]? with
    | some f =>
      match s.disk.nodeAt? f.place with
      | some (.file content _) => content.drop f.offset
      | _ => []
    | none => []
  | _ => []

def consume (s : Session) (n count : Nat) : Session :=
  match s.stream? n with
  | some (.input i) => { s with inputs := s.inputs.modify i (·.drop count) }
  | some (.file i) => { s with files := s.files.modify i fun f => { f with offset := f.offset + count } }
  | _ => s

def openText (s : Session) (text : Bytes) : Stream × Session :=
  (.input s.inputs.size, { s with inputs := s.inputs.push text })

/-! ## Complaints -/

def complain (s : Session) (text : Bytes) : Session :=
  let place := match s.dialect with
    | .plain => Decimal.ofNat s.line
    | .extended => utf8 "line " ++ Decimal.ofNat s.line
  let speaker := match s.speaker with
    | some name => name ++ utf8 ": "
    | none => []
  s.write 2 (Script.line (s.name ++ utf8 ": " ++ place ++ utf8 ": " ++ speaker ++ text))

def exit (s : Session) (code : Nat) : Session := { s with code, ended := some (.code code) }

def fail (s : Session) (text : Bytes) : Session := { (s.complain text).exit 2 with failed := true }

def withCode (s : Session) (code : Nat) : Session := { s with code }

/-! ## Opening files -/

def nullPlace : Place := [utf8 "dev", utf8 "null"]

def streamPlace? (place : Place) : Option Nat :=
  if place = [utf8 "dev", utf8 "stdin"] then some 0
  else if place = [utf8 "dev", utf8 "stdout"] then some 1
  else if place = [utf8 "dev", utf8 "stderr"] then some 2
  else none

def newFile (s : Session) (place : Place) (appends : Bool) : Stream × Session :=
  (.file s.files.size, { s with files := s.files.push ⟨place, 0, appends⟩ })

def openReason (d : Dialect) (creating : Bool) (cause : SystemCause) : Bytes :=
  match d, cause with
  | .plain, .noEntry => if creating then utf8 "Directory nonexistent" else utf8 "No such file"
  | .plain, .notDirectory => if creating then utf8 "Directory nonexistent" else utf8 "No such file"
  | _, cause => reason cause

def openFile (s : Session) (mode : OpenMode) (path : Bytes) : Except Bytes (Stream × Session) :=
  let creating := mode ≠ .input
  let refuse (cause : SystemCause) : Except Bytes (Stream × Session) :=
    let why := openReason s.dialect creating cause
    match s.dialect with
    | .plain =>
      .error ((if creating then utf8 "cannot create " else utf8 "cannot open ") ++ path ++ utf8 ": " ++ why)
    | .extended => .error (path ++ utf8 ": " ++ why)
  match s.disk.resolve true path with
  | .error cause => refuse cause
  | .ok (.free place) =>
    if !creating then refuse .noEntry
    else if path.getLast? = some Path.slash then refuse .isDirectory
    else
      let s := { s with disk := s.disk.put place (.file [] false) }
      .ok (s.newFile place (mode = .append))
  | .ok (.found place node) =>
    if place = nullPlace then .ok (.nowhere, s)
    else
      match streamPlace? place with
      | some n => .ok ((s.stream? n).getD .nowhere, s)
      | none =>
        match node, mode with
        | .file _ executable, .output =>
          if s.has 'C' then refuse .exists
          else .ok ({ s with disk := s.disk.put place (.file [] executable) }.newFile place false)
        | .file _ executable, .overwrite =>
          .ok ({ s with disk := s.disk.put place (.file [] executable) }.newFile place false)
        | .file .., mode => .ok (s.newFile place (mode = .append))
        | _, .input => .ok (s.newFile place false)
        | _, _ => refuse .isDirectory

/-! ## The end -/

def finish (s : Session) : ProgramRun :=
  let chunks := s.written.reverse
  ⟨s.ended.getD (.code s.code), chunks.flatMap (fun | .output t => t | .complaint _ => []),
    chunks.flatMap (fun | .complaint t => t | .output _ => []), .disk s.disk⟩

end Session

end Script

end LineCoverage
