import LineCoverage.Path
import LineCoverage.Text.Case

/-!
# Names of source files

Debug information names source files in the way of the machine that compiled them. A name may start
with a drive, which is a letter and a colon or the host and share of a network path.
-/

namespace LineCoverage

namespace Binary

namespace Dwarf

def isLetter (b : UInt8) : Bool :=
  (ch 'A' ≤ b && b ≤ ch 'Z') || (ch 'a' ≤ b && b ≤ ch 'z')

def isSeparator (b : UInt8) : Bool := b = ch '/' || b = ch '\\'

/-- The host and the share of a network path, after its two separators, and the rest. The share ends
at the next separator behind the host. -/
def splitShare (body : Bytes) : Option (Bytes × Bytes) :=
  let host := body.takeWhile (!isSeparator ·)
  match body.dropWhile (!isSeparator ·) with
  | [] => none
  | slash :: rest =>
    let share := rest.takeWhile (!isSeparator ·)
    let tail := rest.dropWhile (!isSeparator ·)
    if host = [] ∨ tail = [] then none else some (host ++ slash :: share, tail)

def splitDrive (name : Bytes) : Bytes × Bytes :=
  match name with
  | a :: b :: rest =>
    if b = ch ':' ∧ isLetter a then ([a, b], rest)
    else if isSeparator a ∧ isSeparator b ∧ 2 ≤ rest.length then
      match splitShare rest with
      | some (drive, tail) => (a :: b :: drive, tail)
      | none => ([], name)
    else ([], name)
  | _ => ([], name)

def isRooted (name : Bytes) : Bool :=
  match (splitDrive name).2 with
  | b :: _ => isSeparator b
  | [] => false

/-- The name of a file in a directory. A directory without a drive is joined and cleaned; one with a
drive is only put in front, and a file on another drive keeps its own. -/
def inDirectory (dir file : Bytes) : Bytes :=
  if dir = [] then file
  else
    match splitDrive dir with
    | ([], dir) => Path.join dir file
    | (drive, dir) =>
      let (drive', file) := splitDrive file
      if drive' ≠ [] ∧ !Case.sameFolded drive drive' then drive' ++ file
      else
        let needed := match dir.getLast? with
          | some b => !isSeparator b
          | none => false
        let separator := if !needed then [] else if dir.head? = some (ch '/') then [ch '/'] else [ch '\\']
        drive ++ dir ++ separator ++ file

end Dwarf

end Binary

end LineCoverage
