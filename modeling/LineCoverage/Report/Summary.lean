import LineCoverage.Report.Run
import LineCoverage.Table
import LineCoverage.Text.Percent
import LineCoverage.Tracefile.Record

/-!
# Summaries

What is printed about the results of a report, and about the records of a tracefile.
-/

namespace LineCoverage

namespace Report

structure ResultLine where
  module : Bytes
  stage : String
  infoPath : Bytes
  htmlDir : Bytes
  linesFound : Int64
  linesHit : Int64
  error : Option Bytes

def ResultLine.ofResult (r : ModuleResult) : ResultLine :=
  ⟨r.module, r.stage.name, r.infoPath, r.htmlDir, Int64.ofNat r.linesFound, Int64.ofNat r.linesHit,
    r.error.map (·.message)⟩

inductive Colour where
  | green
  | red

def Colour.code : Colour → String
  | .green => "32"
  | .red => "31"

def colourLine (coloured : Bool) (c : Colour) (text : Bytes) : Bytes :=
  if coloured then [0x1B] ++ utf8 "[" ++ utf8 c.code ++ utf8 "m" ++ text ++ [newline, 0x1B] ++ utf8 "[0m"
  else text ++ [newline]

namespace ResultLine

def notice (coloured : Bool) (r : ResultLine) : Bytes :=
  match r.error with
  | some e => colourLine coloured .red (r.module ++ utf8 ": " ++ e)
  | none =>
    colourLine coloured .green (utf8 "Line coverage saved to " ++ r.infoPath) ++
      if r.htmlDir = [] then []
      else colourLine coloured .green
        (utf8 "Line coverage HTML report available at " ++ Renderer.indexPath r.htmlDir)

def cells (r : ResultLine) : List Bytes :=
  let status := match r.error with
    | some _ => utf8 "failed: " ++ utf8 r.stage
    | none => utf8 "ok"
  [r.module, status, Decimal.grouped r.linesHit, Decimal.grouped r.linesFound,
    Percent.text r.linesHit r.linesFound, if r.htmlDir = [] then r.infoPath else r.htmlDir]

end ResultLine

def resultsText (coloured : Bool) (results : List ResultLine) : Bytes :=
  if results.isEmpty then utf8 "No module coverage found\n"
  else
    results.flatMap (·.notice coloured) ++
      Table.render
        { header := [utf8 "Module", utf8 "Status", utf8 "Lines hit", utf8 "Lines found", utf8 "%", utf8 "Output"]
          rows := results.map (·.cells)
          footer := [] }

structure RecordLine where
  sourceFile : Bytes
  linesFound : Int64
  linesHit : Int64

def RecordLine.ofRecord (r : Tracefile.Record) : RecordLine := ⟨r.sourceFile, r.linesFound, r.linesHit⟩

def countCells (hit found : Int64) : List Bytes :=
  [Decimal.grouped hit, Decimal.grouped found, Percent.text hit found]

def recordsText (records : List RecordLine) : Bytes :=
  let hit := records.foldl (fun n r => n + r.linesHit) 0
  let found := records.foldl (fun n r => n + r.linesFound) 0
  Table.render
    { header := [utf8 "Source file", utf8 "Lines hit", utf8 "Lines found", utf8 "%"]
      rows := records.map fun r => r.sourceFile :: countCells r.linesHit r.linesFound
      footer := (Decimal.ofNat records.length ++ utf8 " files") :: countCells hit found }

end Report

end LineCoverage
