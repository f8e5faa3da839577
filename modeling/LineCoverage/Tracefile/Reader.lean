import LineCoverage.Tracefile.Record
import LineCoverage.Text.NumberError
import LineCoverage.Text.Space

/-!
# Reading tracefiles

A tracefile is read line by line. Between records stand `TN` lines and lines with keys that mean
nothing here; a record runs from its `SF` line to `end_of_record`.
-/

namespace LineCoverage

namespace Tracefile

inductive LineFault where
  | outsideRecord (key : Bytes)
  | malformed (text : Bytes)
  | nested (file : Bytes)
  | malformedData (value : Bytes)
  | badLineNumber (e : NumberError)
  | badCount (e : NumberError)
  | badHit (e : NumberError)
  | badFound (e : NumberError)
  deriving DecidableEq, Repr

inductive ReadError where
  | atLine (number : Nat) (fault : LineFault)
  | lineTooLong
  | unfinished (file : Bytes)
  deriving DecidableEq, Repr

def LineFault.message : LineFault → Bytes
  | .outsideRecord key => key ++ utf8 " outside of a record"
  | .malformed text => utf8 "malformed entry " ++ Quoted.quote text
  | .nested file => utf8 "SF before end_of_record of " ++ file
  | .malformedData value => utf8 "malformed DA entry " ++ Quoted.quote value
  | .badLineNumber e => utf8 "DA line number: " ++ e.message
  | .badCount e => utf8 "DA count: " ++ e.message
  | .badHit e => utf8 "LH: " ++ e.message
  | .badFound e => utf8 "LF: " ++ e.message

def ReadError.message : ReadError → Bytes
  | .atLine number fault => utf8 "line " ++ Decimal.ofNat number ++ utf8 ": " ++ fault.message
  | .lineTooLong => utf8 "bufio.Scanner: token too long"
  | .unfinished file => utf8 "record for " ++ file ++ utf8 " is missing end_of_record"

/-- What has been read so far: the finished records, latest first, the test name in force and the
record that is still open. -/
structure State where
  done : List Record
  testName : Bytes
  current : Option Record

def State.start : State := ⟨[], [], none⟩

/-- Adds a `DA` line: `line,count`, then whatever else. -/
def addData (rec : Record) (value : Bytes) : Except LineFault Record :=
  match value.splitOn (ch ',') with
  | line :: count :: _ => do
    let line ← (Decimal.signed line).mapError .badLineNumber
    let count ← (Decimal.unsigned count).mapError .badCount
    pure { rec with lines := rec.lines.alter line fun old => some (old.getD 0 + count) }
  | _ => .error (.malformedData value)

def addEntry (rec : Record) (key value : Bytes) : Except LineFault Record :=
  if key = utf8 "DA" then addData rec value
  else if key = utf8 "LH" then
    match Decimal.signed value with
    | .ok n => .ok { rec with linesHit := n }
    | .error e => .error (.badHit e)
  else
    match Decimal.signed value with
    | .ok n => .ok { rec with linesFound := n }
    | .error e => .error (.badFound e)

def isEntryKey (key : Bytes) : Bool := key = utf8 "DA" || key = utf8 "LH" || key = utf8 "LF"

def endMark : Bytes := utf8 "end_of_record"

/-- Takes one line, without white space at its ends. -/
def State.step (st : State) (text : Bytes) : Except LineFault State :=
  if text = [] then .ok st
  else if text = endMark then
    match st.current with
    | none => .error (.outsideRecord endMark)
    | some rec => .ok { st with done := rec :: st.done, current := none }
  else match text.cut (ch ':') with
    | none => .error (.malformed text)
    | some (key, value) =>
      if key = utf8 "TN" then .ok { st with testName := value }
      else if key = utf8 "SF" then
        match st.current with
        | some rec => .error (.nested rec.sourceFile)
        | none => .ok { st with current := some ⟨st.testName, value, ∅, 0, 0⟩ }
      else if isEntryKey key then
        match st.current with
        | none => .error (.outsideRecord key)
        | some rec =>
          match addEntry rec key value with
          | .ok rec => .ok { st with current := some rec }
          | .error fault => .error fault
      else .ok st

def lineLimit : Nat := 0x100000

/-- The lines of a text. What follows the last newline is a line if it is not empty. -/
def linesOf (text : Bytes) : List Bytes :=
  let pieces := text.splitOn newline
  if pieces.getLast? = some [] then pieces.dropLast else pieces

/-- Takes the lines one by one; `number` is the number of the next line. -/
def readLines (st : State) (number : Nat) : List Bytes → Except ReadError State
  | [] => .ok st
  | line :: rest =>
    if lineLimit ≤ line.length then .error .lineTooLong
    else match st.step (Space.trim line) with
      | .error fault => .error (.atLine number fault)
      | .ok st => readLines st (number + 1) rest

def State.finish (st : State) : Except ReadError (List Record) :=
  match st.current with
  | some rec => .error (.unfinished rec.sourceFile)
  | none => .ok st.done.reverse

def parse (text : Bytes) : Except ReadError (List Record) :=
  match readLines .start 1 (linesOf text) with
  | .error e => .error e
  | .ok st => st.finish

end Tracefile

end LineCoverage
