import LineCoverage.Text.Decimal
import LineCoverage.Text.Quoted

/-!
# Log lines

A log entry is a level and a list of keys with values. It is written on one line as `key=value`
pairs; a value with a blank, a quote, an equals sign or a bad byte in it is quoted.
-/

namespace LineCoverage

inductive Level where
  | debug
  | info
  | warn
  | error
  deriving DecidableEq, Repr

def Level.name : Level → String
  | .debug => "debug"
  | .info => "info"
  | .warn => "warn"
  | .error => "error"

structure LogEntry where
  level : Level
  fields : List (String × Bytes)
  deriving DecidableEq, Repr

namespace LogEntry

def make (level : Level) (msg : String) (fields : List (String × Bytes)) : LogEntry :=
  ⟨level, ("msg", utf8 msg) :: fields⟩

def needsQuotes : Utf8.Unit → Bool
  | .char code _ => code ≤ 32 || code = 0x3D || code = 0x22 || code = 0xFFFD
  | .stray _ => true

def escaped : Utf8.Unit → Bytes
  | .stray _ => utf8 "\\ufffd"
  | .char code bytes =>
    if code = 0x22 ∨ code = 0x5C then ch '\\' :: bytes
    else if code = 10 then utf8 "\\n"
    else if code = 13 then utf8 "\\r"
    else if code = 9 then utf8 "\\t"
    else if code < 32 then utf8 "\\u" ++ Quoted.hex 4 code
    else if code = 0xFFFD ∨ code = 0x2028 ∨ code = 0x2029 then utf8 "\\u" ++ Quoted.hex 4 code
    else bytes

/-- A value as it stands on the line. The text `null` is quoted to tell it from a missing value. -/
def valueText (value : Bytes) : Bytes :=
  let units := Utf8.units value
  if value = utf8 "null" || units.any needsQuotes then
    ch '"' :: units.flatMap escaped ++ [ch '"']
  else value

def line (e : LogEntry) : Bytes :=
  Bytes.join [ch ' '] ((("level", utf8 e.level.name) :: e.fields).map fun (key, value) =>
    utf8 key ++ ch '=' :: valueText value)

end LogEntry

inductive Event where
  | log (e : LogEntry)
  | output (text : Bytes)
  | complaint (text : Bytes)
  deriving DecidableEq, Repr

def Event.logged? : Event → Option LogEntry
  | .log e => some e
  | _ => none

end LineCoverage
