import LineCoverage.Coverage
import LineCoverage.Text.Decimal

/-!
# Tracefile records

A tracefile has one record for each source file:

```
TN:
SF:/src/file.c
DA:10,2
DA:11,0
LH:1
LF:2
end_of_record
```

`DA` gives a line and its count, `LH` the number of lines that were hit and `LF` the number found.
-/

namespace LineCoverage

namespace Tracefile

structure Record where
  testName : Bytes
  sourceFile : Bytes
  lines : LineCount
  linesHit : Int64
  linesFound : Int64

def hitLines (lines : LineCount) : Nat := (lines.toList.filter fun (_, n) => 0 < n).length

def dataLine (line : Int64) (count : UInt64) : Bytes :=
  utf8 "DA:" ++ Decimal.ofInt64 line ++ ch ',' :: Decimal.ofUInt64 count ++ [newline]

/-- The lines that end a record: the totals and the end mark. -/
def totals (hit found : Nat) : Bytes :=
  utf8 "LH:" ++ Decimal.ofNat hit ++ utf8 "\nLF:" ++ Decimal.ofNat found ++ utf8 "\nend_of_record\n"

def recordPieces (file : Bytes) (lines : LineCount) : List Bytes :=
  [utf8 "TN:\nSF:", file, [newline]] ++
    lines.toList.map (fun (line, count) => dataLine line count) ++
    [totals (hitLines lines) lines.size]

def recordText (file : Bytes) (lines : LineCount) : Bytes := (recordPieces file lines).flatten

/-- What stands in a tracefile without any record. -/
def emptyText : Bytes := utf8 "TN:\n"

/-- The tracefile of a coverage: its records by file name, and never an empty text. -/
def textOf (cov : FileLines) : Bytes :=
  if cov.isEmpty then emptyText
  else cov.toList.flatMap fun (file, lines) => recordText file lines

end Tracefile

end LineCoverage
