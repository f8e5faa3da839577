import LineCoverage.Bytes

/-!
# Paths

Slash-separated paths and their lexical normal form: no empty and no `.` elements, and a `..` only
at the front of a relative path.
-/

namespace LineCoverage

namespace Path

def slash : UInt8 := ch '/'

def dot : Bytes := [ch '.']

def dotDot : Bytes := [ch '.', ch '.']

def isAbsolute (p : Bytes) : Bool := p.head? = some slash

def elements (p : Bytes) : List Bytes :=
  (p.splitOn slash).filter fun e => e ≠ [] && e ≠ dot

/-- Adds one element behind a list of elements kept back to front; `..` takes the last one away. -/
def pushElement (rooted : Bool) (kept : List Bytes) (e : Bytes) : List Bytes :=
  if e = dotDot then
    match kept with
    | [] => if rooted then [] else [dotDot]
    | last :: rest => if last = dotDot then dotDot :: kept else rest
  else e :: kept

def normalElements (p : Bytes) : List Bytes :=
  ((elements p).foldl (pushElement (isAbsolute p)) []).reverse

/-- The shortest path that names the same file, judged by the text alone. -/
def clean (p : Bytes) : Bytes :=
  let body := Bytes.join [slash] (normalElements p)
  if isAbsolute p then slash :: body else if body = [] then dot else body

/-- Joins the non-empty parts and cleans the result. Without any, it is empty. -/
def joinAll (parts : List Bytes) : Bytes :=
  match parts.filter (· ≠ []) with
  | [] => []
  | present => clean (Bytes.join [slash] present)

def join (p q : Bytes) : Bytes := joinAll [p, q]

def afterLastSlash (p : Bytes) : Bytes := (p.reverse.takeWhile (· ≠ slash)).reverse

def upToLastSlash (p : Bytes) : Bytes := (p.reverse.dropWhile (· ≠ slash)).reverse

def stripSlashes (p : Bytes) : Bytes := (p.reverse.dropWhile (· = slash)).reverse

/-- The last element: `.` for an empty path and `/` for one of slashes only. -/
def base (p : Bytes) : Bytes :=
  if p = [] then dot
  else
    let last := afterLastSlash (stripSlashes p)
    if last = [] then [slash] else last

def dir (p : Bytes) : Bytes := clean (upToLastSlash p)

end Path

end LineCoverage
