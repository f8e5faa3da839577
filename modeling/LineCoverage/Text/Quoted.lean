import LineCoverage.Text.Utf8
import LineCoverage.Text.Printable

/-!
# Quoted text

Error messages show the text they complain about between double quotes. Printable characters stand
for themselves; a quote, a backslash and everything else is escaped.
-/

namespace LineCoverage

namespace Quoted

def hexDigit (d : Nat) : UInt8 := ch (Nat.digitChar d)

def hex : (width n : Nat) → Bytes
  | 0, _ => []
  | width + 1, n => hex width (n / 16) ++ [hexDigit (n % 16)]

def escapeLetter (code : Nat) : Option Char :=
  match code with
  | 7 => some 'a'
  | 8 => some 'b'
  | 9 => some 't'
  | 10 => some 'n'
  | 11 => some 'v'
  | 12 => some 'f'
  | 13 => some 'r'
  | _ => none

def escapeByte (b : Nat) : Bytes := utf8 "\\x" ++ hex 2 b

def quoteChar (code : Nat) (bytes : Bytes) : Bytes :=
  if code = 34 ∨ code = 92 then ch '\\' :: bytes
  else if Printable.isPrintable code then bytes
  else match escapeLetter code with
    | some c => [ch '\\', ch c]
    | none =>
      if code < 0x80 then escapeByte code
      else if code < 0x10000 then utf8 "\\u" ++ hex 4 code
      else utf8 "\\U" ++ hex 8 code

def quote (s : Bytes) : Bytes :=
  let body := (Utf8.units s).flatMap fun
    | .char code bytes => quoteChar code bytes
    | .stray b => escapeByte b.toNat
  ch '"' :: body ++ [ch '"']

end Quoted

end LineCoverage
