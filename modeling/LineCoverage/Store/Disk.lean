import LineCoverage.Path
import LineCoverage.Store.Error
import Std.Data.ExtTreeMap

/-!
# File stores with symbolic links

A disk store is a tree of directories, files and symbolic links below a root, seen from a working
directory. Paths are followed element by element; `..` leads to the parent of the directory that was
reached, and a link leads to its target.
-/

namespace LineCoverage

inductive DiskNode where
  | directory
  | file (content : Bytes) (executable : Bool)
  | link (target : Bytes)
  deriving DecidableEq, Repr

/-- The place of a node: the names that lead to it from the root. -/
abbrev Place := List Bytes

structure Disk where
  nodes : Std.ExtTreeMap Place DiskNode
  workDir : Place

namespace Disk

def linkLimit : Nat := 40

def nameLimit : Nat := 255

def pathLimit : Nat := 4096

def nodeAt? (d : Disk) (p : Place) : Option DiskNode :=
  if p = [] then some .directory else d.nodes[p]?

/-- Where a path leads: an existing node, or a free name in an existing directory. -/
inductive Target where
  | found (place : Place) (node : DiskNode)
  | free (place : Place)

/-- Follows elements from a place. The last element may be a free name; a link there is followed
if `follow` is set. -/
def walk (d : Disk) (follow : Bool) (links : Nat) (here : Place) (path : List Bytes) :
    Except SystemCause Target :=
  match path with
  | [] =>
    match d.nodeAt? here with
    | some node => .ok (.found here node)
    | none => .error .noEntry
  | e :: rest =>
    match d.nodeAt? here with
    | none => .error .noEntry
    | some (.file ..) => .error .notDirectory
    | some (.link _) => .error .notDirectory
    | some .directory =>
      if e = Path.dot then walk d follow links here rest
      else if e = Path.dotDot then walk d follow links here.dropLast rest
      else if nameLimit < e.length then .error .nameTooLong
      else match d.nodeAt? (here ++ [e]) with
        | none => if rest = [] then .ok (.free (here ++ [e])) else .error .noEntry
        | some (.link target) =>
          if rest = [] ∧ !follow then .ok (.found (here ++ [e]) (.link target))
          else match links with
            | 0 => .error .tooManyLinks
            | links + 1 =>
              let base := if Path.isAbsolute target then [] else here
              walk d follow links base (((target.splitOn Path.slash).filter (· ≠ [])) ++ rest)
        | some _ => walk d follow links (here ++ [e]) rest
termination_by (links, path.length)

/-- Follows a path. A slash at the end asks for a directory, so that a link there is followed. -/
def resolve (d : Disk) (follow : Bool) (path : Bytes) : Except SystemCause Target :=
  if path.contains 0 then .error .invalid
  else if path = [] then .error .noEntry
  else if pathLimit ≤ path.length then .error .nameTooLong
  else
    let elements := (path.splitOn Path.slash).filter (· ≠ [])
    let slashed := path.getLast? = some Path.slash
    let start := if Path.isAbsolute path then [] else d.workDir
    match d.walk (follow || slashed) linkLimit start elements with
    | .ok (.found place node) =>
      if slashed ∧ node ≠ .directory then .error .notDirectory else .ok (.found place node)
    | other => other

def lookup (d : Disk) (follow : Bool) (action : String) (path : Bytes) :
    Except FileError (Place × DiskNode) :=
  match d.resolve follow path with
  | .ok (.found place node) => .ok (place, node)
  | .ok (.free _) => .error (.system action path .noEntry)
  | .error cause => .error (.system action path cause)

def isDirectory : DiskNode → Bool
  | .directory => true
  | _ => false

def stat (d : Disk) (path : Bytes) : Except FileError Bool := do
  let (_, node) ← d.lookup true "stat" path
  pure (isDirectory node)

def lstat (d : Disk) (path : Bytes) : Except FileError Bool := do
  let (_, node) ← d.lookup false "lstat" path
  pure (isDirectory node)

def put (d : Disk) (p : Place) (node : DiskNode) : Disk := { d with nodes := d.nodes.insert p node }

def namesIn (d : Disk) (dir : Place) : List Bytes :=
  d.nodes.keys.filterMap fun p => if p.dropLast = dir then p.getLast? else none

def names (d : Disk) (path : Bytes) : Except FileError (List Bytes) := do
  let (place, node) ← d.lookup true "open" path
  if isDirectory node then pure (d.namesIn place) else .error (.system "readdirent" path .notDirectory)

/-- The content of a file. A directory can be opened but not read. -/
def read (d : Disk) (path : Bytes) : Except FileError (Except FileError Bytes) := do
  let (_, node) ← d.lookup true "open" path
  match node with
  | .file content _ => pure (.ok content)
  | _ => pure (.error (.system "read" path .isDirectory))

def makeDir (d : Disk) (path : Bytes) : Except FileError Disk :=
  match d.resolve false (Path.stripSlashes path) with
  | .ok (.free place) => .ok (d.put place .directory)
  | .ok (.found ..) =>
    match d.lstat path with
    | .ok true => .ok d
    | _ => .error (.system "mkdir" path .exists)
  | .error cause => .error (.system "mkdir" path cause)

def above? (path : Bytes) : Option Bytes :=
  match Path.upToLastSlash (Path.stripSlashes path) with
  | [] => none
  | [_] => none
  | p => some p.dropLast

theorem above?_length {path p : Bytes} (h : above? path = some p) : p.length < path.length := by
  have hle : (Path.upToLastSlash (Path.stripSlashes path)).length ≤ path.length := by
    simp only [Path.upToLastSlash, Path.stripSlashes, List.length_reverse]
    refine Nat.le_trans (List.dropWhile_suffix _).length_le ?_
    rw [List.reverse_reverse]
    simpa using (List.dropWhile_suffix (l := path.reverse) (· = Path.slash)).length_le
  unfold above? at h
  split at h
  · simp at h
  · simp at h
  · rename_i p' hne _
    have hp : Path.upToLastSlash (Path.stripSlashes path) ≠ [] := hne
    have hpos := List.length_pos_iff.2 hp
    simp only [Option.some.injEq] at h
    rw [← h, List.length_dropLast]
    omega

def makeDirs (d : Disk) (path : Bytes) : Except FileError Disk :=
  match d.stat path with
  | .ok true => .ok d
  | .ok false => .error (.system "mkdir" path .notDirectory)
  | .error _ =>
    match _h : above? path with
    | none => d.makeDir path
    | some p =>
      match makeDirs d p with
      | .ok d => d.makeDir path
      | .error e => .error e
termination_by path.length
decreasing_by exact above?_length _h

def create (d : Disk) (path : Bytes) : Except FileError Disk :=
  match d.resolve true path with
  | .ok (.free place) =>
    if path.getLast? = some Path.slash then .error (.system "open" path .isDirectory)
    else .ok (d.put place (.file [] false))
  | .ok (.found place (.file _ executable)) => .ok (d.put place (.file [] executable))
  | .ok (.found ..) => .error (.system "open" path .isDirectory)
  | .error cause => .error (.system "open" path cause)

def append (d : Disk) (path data : Bytes) : Disk :=
  match d.resolve true path with
  | .ok (.found place (.file content executable)) => d.put place (.file (content ++ data) executable)
  | _ => d

/-! ## Removing and moving -/

def remove (d : Disk) (place : Place) : Disk :=
  { d with nodes := d.nodes.filter fun p _ => !place.isPrefixOf p }

def forget (d : Disk) (place : Place) : Disk := { d with nodes := d.nodes.erase place }

def subtree (d : Disk) (place : Place) : List (Place × DiskNode) :=
  d.nodes.toList.filterMap fun (p, node) =>
    if place.isPrefixOf p then some (p.drop place.length, node) else none

def graft (d : Disk) (place : Place) (nodes : List (Place × DiskNode)) : Disk :=
  nodes.foldl (fun d (p, node) => d.put (place ++ p) node) d

def move (d : Disk) (source target : Place) : Disk :=
  if source = target then d else ((d.remove source).remove target).graft target (d.subtree source)

/-! ## Resolving links by text -/

def textLinkLimit : Nat := 255

/-- The text in front of the last slash, but not before the first `least` bytes. -/
def cutLast (least : Nat) (dest : Bytes) : Option (Bytes × Bytes) :=
  let head := Path.upToLastSlash dest
  if least < head.length then some (head.dropLast, dest.drop head.length) else none

def extend (dest e : Bytes) : Bytes :=
  if dest = [] ∨ dest.getLast? = some Path.slash then dest ++ e else dest ++ Path.slash :: e

inductive LinkError where
  | file (e : FileError)
  | notDirectory
  | tooManyLinks
  deriving DecidableEq, Repr

def LinkError.message : LinkError → Bytes
  | .file e => e.message
  | .notDirectory => utf8 SystemCause.notDirectory.message
  | .tooManyLinks => utf8 "EvalSymlinks: too many links"

def nextElement (path : Bytes) : Bytes × Bytes :=
  let start := path.dropWhile (· = Path.slash)
  (start.takeWhile (· ≠ Path.slash), start.dropWhile (· ≠ Path.slash))

theorem nextElement_length {path : Bytes} (h : (nextElement path).1 ≠ []) :
    (nextElement path).2.length < path.length := by
  have h1 := (List.dropWhile_suffix (l := path) (· = Path.slash)).length_le
  have h2 := congrArg List.length
    (List.takeWhile_append_dropWhile (p := (· ≠ Path.slash)) (l := path.dropWhile (· = Path.slash)))
  have h3 := List.length_pos_iff.2 h
  rw [List.length_append] at h2
  simp only [nextElement] at h3 ⊢
  omega

/-- Resolves the links of `rest` behind `dest`; `least` bytes of `dest` are its root. -/
def followText (d : Disk) (links least : Nat) (dest rest : Bytes) : Except LinkError Bytes :=
  let e := (nextElement rest).1
  let after := (nextElement rest).2
  if _he : e = [] then .ok (Path.clean dest)
  else if e = Path.dot then followText d links least dest after
  else if e = Path.dotDot then
    match cutLast least dest with
    | some (head, last) =>
      if last = Path.dotDot then followText d links least (extend dest Path.dotDot) after
      else followText d links least head after
    | none =>
      let dest := if least < dest.length then dest ++ [Path.slash] else dest
      followText d links least (dest ++ Path.dotDot) after
  else
    let dest := extend dest e
    match d.lookup false "lstat" dest with
    | .error err => .error (.file err)
    | .ok (_, .directory) => followText d links least dest after
    | .ok (_, .file ..) => if after = [] then .ok (Path.clean dest) else .error .notDirectory
    | .ok (_, .link target) =>
      match links with
      | 0 => .error .tooManyLinks
      | links + 1 =>
        if Path.isAbsolute target then followText d links 1 [Path.slash] (target.drop 1 ++ after)
        else
          let head := match cutLast least dest with
            | some (head, _) => head
            | none => dest.take least
          followText d links least head (target ++ after)
termination_by (links, rest.length)
decreasing_by
  all_goals
    first
    | exact Prod.Lex.left _ _ (by omega)
    | exact Prod.Lex.right _ (nextElement_length _he)

def realPath (d : Disk) (path : Bytes) : Except LinkError Bytes :=
  if Path.isAbsolute path then d.followText textLinkLimit 1 [Path.slash] (path.drop 1)
  else d.followText textLinkLimit 0 [] path

def changes (old new : Disk) : List (Place × DiskNode) :=
  new.nodes.toList.filter fun (place, node) => old.nodeAt? place ≠ some node

def longestPlace (d : Disk) : Nat := d.nodes.foldl (fun n p _ => max n p.length) 0

end Disk

end LineCoverage
