import LineCoverage.Compression.Gzip
import LineCoverage.Compression.Zstd
import LineCoverage.Store

/-!
# Contents of compressed files

A file may be stored in gzip or zstandard form. The first bytes tell which, and whoever reads the
file sees the content only.
-/

namespace LineCoverage

inductive Format where
  | plain
  | gzip
  | zstd
  deriving DecidableEq, Repr

namespace Format

def name : Format → String
  | .plain => "none"
  | .gzip => "gzip"
  | .zstd => "zstd"

/-- The format of a number; every other number is the plain format. -/
def ofNumber (n : Int64) : Format := if n = 1 then .gzip else if n = 2 then .zstd else .plain

def gzipMagic : Bytes := [0x1F, 0x8B]

def zstdMagic : Bytes := [0x28, 0xB5, 0x2F, 0xFD]

def detect (header : Bytes) : Format :=
  if header.startsWith gzipMagic then .gzip
  else if header.startsWith zstdMagic then .zstd
  else .plain

end Format

inductive ContentError where
  | unopened (e : FileError)
  | unreadable (path : Bytes) (e : FileError)
  | badGzipHeader (path : Bytes)
  | corrupt (path : Bytes)
  deriving DecidableEq, Repr

def corruptMark : Bytes := utf8 "<compress>"

def ContentError.message : ContentError → Bytes
  | .unopened e => e.message
  | .unreadable path e => utf8 "open " ++ path ++ utf8 ": read header: " ++ e.message
  | .badGzipHeader path => utf8 "open " ++ path ++ utf8 ": create gzip reader: " ++ corruptMark
  | .corrupt path => utf8 "decompress " ++ path ++ utf8 ": " ++ corruptMark

namespace Content

def headerSize : Nat := 4

def toArray (b : Bytes) : ByteArray := ⟨b.toArray⟩

def ofArray (a : ByteArray) : Bytes := a.data.toList

structure Decoders where
  gunzip : ByteArray → Except Compression.GzipFault ByteArray
  unzstd? : ByteArray → Option ByteArray

def Decoders.standard : Decoders := ⟨Compression.gunzip, Compression.unzstd?⟩

/-- The content of stored data. A bad gzip header shows when the file is opened, everything else
when it is read. -/
def decodeWith (d : Decoders) (path stored : Bytes) : Except ContentError (Except ContentError Bytes) :=
  match Format.detect (stored.take headerSize) with
  | .plain => .ok (.ok stored)
  | .gzip =>
    match d.gunzip (toArray stored) with
    | .ok data => .ok (.ok (ofArray data))
    | .error .header => .error (.badGzipHeader path)
    | .error .body => .ok (.error (.corrupt path))
  | .zstd =>
    match d.unzstd? (toArray stored) with
    | some data => .ok (.ok (ofArray data))
    | none => .ok (.error (.corrupt path))

def decode (path stored : Bytes) : Except ContentError (Except ContentError Bytes) :=
  decodeWith .standard path stored

/-- An opened file whose content is decoded: what reading and closing it give. -/
structure Opened where
  content : Except ContentError Bytes
  closing : Except FileError Unit

def openFileWith (d : Decoders) (s : Store) (path : Bytes) : Except ContentError Opened := do
  let file ← (s.openFile path).mapError .unopened
  let stored ← file.content.mapError (.unreadable path)
  pure ⟨← decodeWith d path stored, file.closing⟩

def openFile (s : Store) (path : Bytes) : Except ContentError Opened := openFileWith .standard s path

def readWith (d : Decoders) (s : Store) (path : Bytes) : Except ContentError Bytes := do
  (← openFileWith d s path).content

def read (s : Store) (path : Bytes) : Except ContentError Bytes := readWith .standard s path

end Content

end LineCoverage
