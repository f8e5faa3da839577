import LineCoverage.Text.Decimal
import LineCoverage.Text.Quoted

/-! # Texts that are no number -/

namespace LineCoverage

inductive NumberKind where
  | signed
  | unsigned
  | fractional
  deriving DecidableEq, Repr

structure NumberError where
  kind : NumberKind
  text : Bytes
  fault : Decimal.Fault
  deriving DecidableEq, Repr

def NumberKind.reader : NumberKind → String
  | .signed => "strconv.Atoi"
  | .unsigned => "strconv.ParseUint"
  | .fractional => "strconv.ParseFloat"

def Decimal.Fault.wording : Decimal.Fault → String
  | .malformed => "invalid syntax"
  | .outOfRange => "value out of range"

def NumberError.message (e : NumberError) : Bytes :=
  utf8 e.kind.reader ++ utf8 ": parsing " ++ Quoted.quote e.text ++ utf8 ": " ++ utf8 e.fault.wording

def Decimal.signed (s : Bytes) : Except NumberError Int64 :=
  (readSigned s).mapError (⟨.signed, s, ·⟩)

def Decimal.unsigned (s : Bytes) : Except NumberError UInt64 :=
  (readUnsigned s).mapError (⟨.unsigned, s, ·⟩)

end LineCoverage
