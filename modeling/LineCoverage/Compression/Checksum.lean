import LineCoverage.Compression.Bits

/-! # Checksums -/

namespace LineCoverage

namespace Compression

def crcStep : Nat → UInt32 → UInt32
  | 0, c => c
  | n + 1, c => crcStep n (if c % 2 = 1 then (c >>> 1) ^^^ 0xEDB88320 else c >>> 1)

def crc32 (data : ByteArray) : UInt32 :=
  let ones : UInt32 := 0xFFFFFFFF
  data.data.foldl (fun (c : UInt32) (b : UInt8) => (c >>> 8) ^^^ crcStep 8 ((c ^^^ b.toUInt32) &&& 0xFF)) ones ^^^ ones

namespace XxHash

def prime1 : UInt64 := 0x9E3779B185EBCA87
def prime2 : UInt64 := 0xC2B2AE3D27D4EB4F
def prime3 : UInt64 := 0x165667B19E3779F9
def prime4 : UInt64 := 0x85EBCA77C2B2AE63
def prime5 : UInt64 := 0x27D4EB2F165667C5

def rotateLeft (x : UInt64) (n : UInt64) : UInt64 := (x <<< n) ||| (x >>> (64 - n))

def round (acc lane : UInt64) : UInt64 := rotateLeft (acc + lane * prime2) 31 * prime1

def mergeRound (acc lane : UInt64) : UInt64 := (acc ^^^ round 0 lane) * prime1 + prime4

def word (data : ByteArray) (start width : Nat) : UInt64 :=
  UInt64.ofNat ((littleEndian? data start width).getD 0)

def lanes (data : ByteArray) (stripes : Nat) : UInt64 × UInt64 × UInt64 × UInt64 :=
  (List.range stripes).foldl (fun (a, b, c, d) i =>
    (round a (word data (32 * i) 8), round b (word data (32 * i + 8) 8),
      round c (word data (32 * i + 16) 8), round d (word data (32 * i + 24) 8)))
    (prime1 + prime2, prime2, 0, 0 - prime1)

def avalanche (h : UInt64) : UInt64 :=
  let h := (h ^^^ (h >>> 33)) * prime2
  let h := (h ^^^ (h >>> 29)) * prime3
  h ^^^ (h >>> 32)

def hash (data : ByteArray) : UInt64 :=
  let stripes := data.size / 32
  let start :=
    if stripes = 0 then prime5
    else
      let (a, b, c, d) := lanes data stripes
      let h := rotateLeft a 1 + rotateLeft b 7 + rotateLeft c 12 + rotateLeft d 18
      mergeRound (mergeRound (mergeRound (mergeRound h a) b) c) d
  let h := start + UInt64.ofNat data.size
  let at8 := 32 * stripes
  let words := (data.size - at8) / 8
  let h := (List.range words).foldl (fun h i =>
    rotateLeft (h ^^^ round 0 (word data (at8 + 8 * i) 8)) 27 * prime1 + prime4) h
  let at4 := at8 + 8 * words
  let halves := (data.size - at4) / 4
  let h := (List.range halves).foldl (fun h i =>
    rotateLeft (h ^^^ (word data (at4 + 4 * i) 4 * prime1)) 23 * prime2 + prime3) h
  let at1 := at4 + 4 * halves
  let h := (List.range (data.size - at1)).foldl (fun h i =>
    rotateLeft (h ^^^ (word data (at1 + i) 1 * prime5)) 11 * prime1) h
  avalanche h

end XxHash

end Compression

end LineCoverage
