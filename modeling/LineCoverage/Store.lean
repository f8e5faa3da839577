import LineCoverage.Store.Memory
import LineCoverage.Store.Disk

/-!
# File stores

The files that a report reads and writes, in memory or on a disk. All operations are functions of
the store; those that change it give back the changed one.
-/

namespace LineCoverage

inductive Store where
  | memory (m : Memory)
  | disk (d : Disk)

/-- A file that was opened for reading: what reading and closing it give. -/
structure OpenedFile where
  content : Except FileError Bytes
  closing : Except FileError Unit

namespace Store

def stat (s : Store) (path : Bytes) : Except FileError Bool :=
  match s with
  | .memory m => return (← m.stat path).isDir
  | .disk d => d.stat path

/-- Whether the path itself names a directory: a link is not followed. -/
def lstat (s : Store) (path : Bytes) : Except FileError Bool :=
  match s with
  | .memory m => return (← m.stat path).isDir
  | .disk d => d.lstat path

/-- Whether there is anything at a path. Failures other than absence are passed on. -/
def exists? (s : Store) (path : Bytes) : Except FileError Bool :=
  match s.stat path with
  | .ok _ => .ok true
  | .error e => if e.isAbsence then .ok false else .error e

def names (s : Store) (path : Bytes) : Except FileError (List Bytes) :=
  match s with
  | .memory m => m.names path
  | .disk d => d.names path

def openFile (s : Store) (path : Bytes) : Except FileError OpenedFile :=
  match s with
  | .memory m => do
    m.faultAt .openFile path
    let node ← m.find? path
    pure ⟨m.faultAt .read path *> .ok node.content, m.faultAt .close path⟩
  | .disk d => return ⟨← d.read path, .ok ()⟩

def fileContent (s : Store) (path : Bytes) : Except FileError Bytes := do (← s.openFile path).content

def makeDirs (s : Store) (path : Bytes) : Except FileError Store :=
  match s with
  | .memory m => .memory <$> m.makeDirs path
  | .disk d => .disk <$> d.makeDirs path

def create (s : Store) (path : Bytes) : Except FileError Store :=
  match s with
  | .memory m => .memory <$> m.create path
  | .disk d => .disk <$> d.create path

def writeFault (s : Store) (path : Bytes) : Except FileError Unit :=
  match s with
  | .memory m => m.faultAt .write path
  | .disk _ => .ok ()

def closeFault (s : Store) (path : Bytes) : Except FileError Unit :=
  match s with
  | .memory m => m.faultAt .close path
  | .disk _ => .ok ()

def append (s : Store) (path data : Bytes) : Store :=
  match s with
  | .memory m => .memory (m.append path data)
  | .disk d => .disk (d.append path data)

def depth (s : Store) : Nat :=
  match s with
  | .memory m => m.longestPath + 2
  | .disk d => d.longestPlace + 1

mutual

/-- The files at and below a path that was found, depth first. Fuel for the depth of the store runs out only where
the names of a directory lead back to it. -/
def walkFrom (s : Store) (fuel : Nat) (path : Bytes) (isDir : Bool) : Except FileError (List Bytes) :=
  if isDir then
    match fuel with
    | 0 => .error (.system "walk" path .endless)
    | fuel + 1 => do walkNames s fuel path (← s.names path)
  else .ok [path]
termination_by (fuel, 0)

def walkNames (s : Store) (fuel : Nat) (dir : Bytes) (names : List Bytes) : Except FileError (List Bytes) :=
  match names with
  | [] => .ok []
  | name :: rest => do
    let path := Path.join dir name
    let files ← walkFrom s fuel path (← s.lstat path)
    pure (files ++ (← walkNames s fuel dir rest))
termination_by (fuel, names.length + 1)

end

/-- All files at and below a path, depth first. -/
def filesBelow (s : Store) (path : Bytes) : Except FileError (List Bytes) := do
  walkFrom s s.depth path (← s.lstat path)

end Store

end LineCoverage
