import LineCoverage.Program

/-!
# The command line program

Reads the files below the working directory and below the absolute paths on the command line, runs the
program on them, and writes back what changed.
-/

namespace LineCoverage

namespace Main

def bytesOf (s : String) : Bytes := s.toUTF8.toList

def stringOf (b : Bytes) : String := (String.fromUTF8? ⟨b.toArray⟩).getD ""

def placeOf (path : String) : Place :=
  ((bytesOf path).splitOn Path.slash).filter fun e => e ≠ [] ∧ e ≠ Path.dot

def pathOf (place : Place) : String :=
  if place.isEmpty then "/" else stringOf (place.flatMap (Path.slash :: ·))

def entryAt (place : Place) : IO.FS.DirEntry := ⟨pathOf place.dropLast, stringOf (place.getLastD Path.dot)⟩

def isScript (content : Bytes) : Bool := Bytes.startsWith content (utf8 "#!")

/-- The target of the link at a place: relative where it leads below the link's directory. -/
def linkTarget (place real : Place) : Bytes :=
  let dir := place.dropLast
  if dir.isPrefixOf real then Bytes.join [Path.slash] (real.drop dir.length) else real.flatMap (Path.slash :: ·)

partial def load (entry : IO.FS.DirEntry) (d : Disk) : IO Disk := do
  let path := entry.path
  let place := placeOf path.toString
  match (← path.symlinkMetadata).type with
  | .dir => (← path.readDir).foldlM (fun d e => load e d) (d.put place .directory)
  | .symlink =>
    try pure (d.put place (.link (linkTarget place (placeOf (← IO.FS.realPath path).toString))))
    catch _ => pure d
  | _ =>
    let content := (← IO.FS.readBinFile path).toList
    pure (d.put place (.file content (isScript content)))

def absolutePath? (word : String) : Option String :=
  let value := match (bytesOf word).cut (ch '=') with
    | some (_, value) => value
    | none => bytesOf word
  if Path.isAbsolute value then some (stringOf value) else none

def withParents (d : Disk) (place : Place) : IO Disk :=
  (List.range place.length).foldlM (fun d n => do
    let parent := place.take n
    if parent ≠ [] && (← (entryAt parent).path.isDir) then pure (d.put parent .directory) else pure d) d

def readDisk (words : List String) : IO Disk := do
  let here := (← IO.currentDir).toString
  let places := (here :: words.filterMap absolutePath?).map placeOf
  places.foldlM (fun d place => do
    let d ← withParents d place
    try load (entryAt place) d catch _ => pure d) ⟨∅, placeOf here⟩

def readEnv : IO (List (Bytes × Bytes)) := do
  let block ← try pure (← IO.FS.readBinFile "/proc/self/environ").toList catch _ => pure []
  pure ((block.splitOn 0).filterMap (Bytes.cut (ch '=')))

def writeBack (old new : Disk) : IO Unit :=
  (old.changes new).forM fun
    | (place, .directory) => IO.FS.createDirAll (pathOf place)
    | (place, .file content _) => IO.FS.writeBinFile (pathOf place) ⟨content.toArray⟩
    | (_, .link _) => pure ()

end Main

end LineCoverage

open LineCoverage in
def main (words : List String) : IO UInt32 := do
  let disk ← Main.readDisk words
  let fresh := Decimal.ofNat (← IO.rand 0 0xFFFFFFFF)
  let outcome := Program.run disk (← Main.readEnv) fresh (words.map Main.bytesOf)
  Main.writeBack disk outcome.disk
  (← IO.getStdout).write ⟨outcome.output.toArray⟩
  (← IO.getStderr).write ⟨outcome.complaints.toArray⟩
  pure (UInt32.ofNat outcome.exit)
