import LineCoverage.Path
import LineCoverage.Store.Error
import Std.Data.ExtTreeMap

/-!
# File stores in memory

A memory store maps cleaned paths to files and directories. Paths that begin with a slash and paths that
do not are never the same, but the root holds the first elements of both. A store may be told that
certain operations on certain paths fail, and that it takes no changes.
-/

namespace LineCoverage

inductive FileOp where
  | stat
  | openFile
  | read
  | create
  | write
  | close
  | makeDir
  deriving DecidableEq, Repr

/-- What a path names. A file turns into a directory when something is put below it, and keeps its
content. -/
structure Node where
  isDir : Bool
  content : Bytes
  /-- Whether the directory above shows it. A directory that was removed or replaced by a file shows nothing of
  what was below it, even if it becomes a directory again. -/
  listed : Bool
  deriving DecidableEq, Repr

namespace Node

def directory : Node := ⟨true, [], true⟩

def file (content : Bytes) : Node := ⟨false, content, true⟩

end Node

/-- An operation on a path, as the caller spells it, that fails with the given text. -/
structure Fault where
  op : FileOp
  path : Bytes
  text : Bytes
  deriving DecidableEq, Repr

structure Memory where
  nodes : Std.ExtTreeMap Bytes Node
  faults : List Fault
  readOnly : Bool

namespace Memory

def root : Bytes := [Path.slash]

def empty : Memory := ⟨(∅ : Std.ExtTreeMap Bytes Node).insert root .directory, [], false⟩

/-- The path under which a node is kept. The working directory and its parent are the root. -/
def key (path : Bytes) : Bytes :=
  let p := Path.clean path
  if p = Path.dot ∨ p = Path.dotDot then root else p

def faultAt (m : Memory) (op : FileOp) (path : Bytes) : Except FileError Unit :=
  match m.faults.find? fun f => f.op = op ∧ f.path = path with
  | some f => .error (.fault f.text)
  | none => .ok ()

def find? (m : Memory) (path : Bytes) : Except FileError Node :=
  match m.nodes[key path]? with
  | some node => .ok node
  | none => .error (.absent (key path))

def stat (m : Memory) (path : Bytes) : Except FileError Node := do
  m.faultAt .stat path
  m.find? path

def parent (p : Bytes) : Bytes := key (Path.dir p)

/-- The directories above a path, nearest first. The root is the last. -/
def parents (p : Bytes) : List Bytes :=
  if p = root then []
  else
    let above := parent p
    if _h : above.length < p.length then above :: parents above else [root]
termination_by p.length

/-- Creates the missing directories of a list of parents, up to the first that is there. That one
becomes a directory if it was none. -/
def linkParents (nodes : Std.ExtTreeMap Bytes Node) : List Bytes → Std.ExtTreeMap Bytes Node
  | [] => nodes
  | p :: above =>
    match nodes[p]? with
    | some node => nodes.insert p { node with isDir := true }
    | none => linkParents (nodes.insert p .directory) above

/-- Puts a node at a path, below directories that are created as needed. -/
def put (m : Memory) (path : Bytes) (node : Node) : Memory :=
  let k := key path
  { m with nodes := linkParents (m.nodes.insert k node) (parents k) }

/-- Hides what is directly below a path. -/
def hideBelow (m : Memory) (path : Bytes) : Memory :=
  { m with nodes := m.nodes.map fun p node => if parent p = key path then { node with listed := false } else node }

def putFile (m : Memory) (path content : Bytes) : Memory :=
  let m := if (m.nodes[key path]?).any (·.isDir) then m.hideBelow path else m
  m.put path (.file content)

def write (m : Memory) (path content : Bytes) : Memory :=
  match m.nodes[key path]? with
  | some node => { m with nodes := m.nodes.insert (key path) { node with content } }
  | none => m.put path (.file content)

def putDirectory (m : Memory) (path : Bytes) : Memory :=
  if (m.nodes[key path]?).isSome then m else m.put path .directory

def checkWritable (m : Memory) : Except FileError Unit :=
  if m.readOnly then .error .refused else .ok ()

def makeDirs (m : Memory) (path : Bytes) : Except FileError Memory := do
  m.faultAt .makeDir path
  m.checkWritable
  pure (m.putDirectory path)

def create (m : Memory) (path : Bytes) : Except FileError Memory := do
  m.faultAt .create path
  m.checkWritable
  pure (m.putFile path [])

def append (m : Memory) (path : Bytes) (data : Bytes) : Memory :=
  { m with nodes := m.nodes.modify (key path) fun node => { node with content := node.content ++ data } }

/-- The names in a directory, in ascending order. The root may have one twice. -/
def namesIn (m : Memory) (dir : Bytes) : List Bytes :=
  let inside := m.nodes.toList.filter fun (p, node) => node.listed ∧ p ≠ root ∧ parent p = dir
  (inside.map fun (p, _) => Path.base p).mergeSort (fun a b => decide (a ≤ b))

def names (m : Memory) (path : Bytes) : Except FileError (List Bytes) := do
  m.faultAt .openFile path
  let _ ← m.find? path
  pure (m.namesIn (key path))

/-- Removes what is at a path. What was below it stays, but is not shown if the path becomes a directory again. -/
def remove (m : Memory) (path : Bytes) : Memory :=
  let m := m.hideBelow path
  { m with nodes := m.nodes.erase (key path) }

def longestPath (m : Memory) : Nat := m.nodes.foldl (fun n p _ => max n p.length) 0

end Memory

end LineCoverage
