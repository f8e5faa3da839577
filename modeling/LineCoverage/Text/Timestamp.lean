import LineCoverage.Text.Decimal

/-!
# Points in time as text

A date such as `2001-12-14`, alone, with a time of day behind blanks, or with a time of day and a zone
behind the letter T. Months, days, hours, minutes and seconds have one or two digits, and the day has to
be one of its month.
-/

namespace LineCoverage

namespace Timestamp

def digitValue (b : UInt8) : Nat := b.toNat - 48

def number? : Bytes → Option (Nat × Bytes)
  | a :: b :: rest =>
    if !Decimal.isDigit a then none
    else if Decimal.isDigit b then some (digitValue a * 10 + digitValue b, rest)
    else some (digitValue a, b :: rest)
  | [a] => if Decimal.isDigit a then some (digitValue a, []) else none
  | [] => none

def behind? (b : UInt8) : Bytes → Option Bytes
  | c :: rest => if c = b then some rest else none
  | [] => none

def isLeapYear (year : Nat) : Bool := year % 4 = 0 && (year % 100 ≠ 0 || year % 400 = 0)

def daysIn (year month : Nat) : Nat :=
  if month = 2 then if isLeapYear year then 29 else 28
  else if month = 4 || month = 6 || month = 9 || month = 11 then 30
  else 31

def behindDate? (s : Bytes) : Option Bytes := do
  let digits := s.take 4
  if digits.length < 4 || !digits.all Decimal.isDigit then none
  else
    let year := digits.foldl (fun n b => n * 10 + digitValue b) 0
    let (month, s) ← behind? (ch '-') (s.drop 4) >>= number?
    let (day, s) ← behind? (ch '-') s >>= number?
    if 1 ≤ month && month ≤ 12 && 1 ≤ day && day ≤ daysIn year month then some s else none

/-- The text behind the fraction of a second. It may be missing. -/
def behindFraction : Bytes → Bytes
  | point :: digit :: rest =>
    if (point = ch '.' || point = ch ',') && Decimal.isDigit digit then rest.dropWhile Decimal.isDigit
    else point :: digit :: rest
  | s => s

def behindTime? (s : Bytes) : Option Bytes := do
  let (hour, s) ← number? s
  let (minute, s) ← behind? (ch ':') s >>= number?
  let (second, s) ← behind? (ch ':') s >>= number?
  if hour < 24 && minute < 60 && second < 60 then some (behindFraction s) else none

def pair? (a b : UInt8) : Option Nat :=
  if Decimal.isDigit a && Decimal.isDigit b then some (digitValue a * 10 + digitValue b) else none

/-- Whether a text is a zone: the letter Z, or a distance of at most a day. -/
def isZone : Bytes → Bool
  | [z] => z = ch 'Z'
  | [sign, h, i, colon, m, n] =>
    (sign = ch '+' || sign = ch '-') && colon = ch ':' && (pair? h i).any (· ≤ 24) && (pair? m n).any (· ≤ 60)
  | _ => false

def isTimestamp (s : Bytes) : Bool :=
  match behindDate? s with
  | none => false
  | some [] => true
  | some (mark :: rest) =>
    if mark = ch 'T' || mark = ch 't' then (behindTime? rest).any isZone
    else if mark = ch ' ' then behindTime? (rest.dropWhile (· = ch ' ')) = some []
    else false

end Timestamp

end LineCoverage
