import LineCoverage.Script.Arithmetic
import LineCoverage.Text.FloatText

/-!
# Formats

Text with escapes, and formats whose directives are filled in with arguments, as scripts print them.
-/

namespace LineCoverage

namespace Script

namespace Format

/-! ## Escapes -/

def letter? (b : UInt8) : Option UInt8 :=
  ([('a', 7), ('b', 8), ('f', 12), ('n', 10), ('r', 13), ('t', 9), ('v', 11), ('\\', 92)].map
    fun (c, n) => (ch c, UInt8.ofNat n)).lookup b

def isOctal (b : UInt8) : Bool := ch '0' ≤ b && b ≤ ch '7'

def octal (most : Nat) (s : Bytes) : UInt8 × Bytes :=
  let digits := (s.take most).takeWhile isOctal
  (UInt8.ofNat (digits.foldl (fun n b => n * 8 + (b.toNat - 48)) 0), s.drop digits.length)

/-- Text with its escapes resolved. Gives also whether an escape ended it. -/
def unescape : (fuel : Nat) → Bytes → Bytes × Bool
  | 0, s => (s, false)
  | _, [] => ([], false)
  | fuel + 1, b :: rest =>
    let add (t : Bytes) (rest : Bytes) : Bytes × Bool :=
      let (more, ended) := unescape fuel rest
      (t ++ more, ended)
    if b ≠ ch '\\' then add [b] rest
    else
      match rest with
      | [] => ([b], false)
      | c :: after =>
        if c = ch 'c' then ([], true)
        else if isOctal c then
          let (value, after) := octal 3 (if c = ch '0' then after else rest)
          add [value] after
        else
          match letter? c with
          | some x => add [x] after
          | none => add [b, c] after

/-! ## Directives -/

inductive Item where
  | text (t : Bytes)
  | directive (flags : Bytes) (width precision : Option (Option Nat)) (kind : UInt8)
  | invalid (text : Bytes)
  | unfinished

/-- A width or precision at the front: a number, or a star that takes an argument. -/
def size (s : Bytes) : Option (Option Nat) × Bytes :=
  match s with
  | b :: rest =>
    if b = ch '*' then (some none, rest)
    else
      let digits := s.takeWhile isDigit
      if digits.isEmpty then (none, s)
      else (some (some (digits.foldl (fun n b => n * 10 + (b.toNat - 48)) 0)), s.drop digits.length)
  | [] => (none, [])

def directive (s : Bytes) : Item × Bytes :=
  let flags := s.takeWhile (isOneOf · "#-+ 0")
  let (width, rest) := size (s.drop flags.length)
  let (precision, rest) := match rest with
    | b :: after =>
      if b = ch '.' then
        let (p, rest) := size after
        (some (p.getD (some 0)), rest)
      else (none, rest)
    | [] => (none, rest)
  match rest with
  | [] => (.unfinished, [])
  | kind :: after =>
    if isOneOf kind "sbcdiouxXeEfFgG" then (.directive flags width precision kind, after)
    else (.invalid (ch '%' :: s.take (s.length - after.length)), after)

def items : (fuel : Nat) → Bytes → List Item
  | 0, _ => []
  | _, [] => []
  | fuel + 1, b :: rest =>
    if b = ch '%' then
      match rest with
      | c :: after =>
        if c = ch '%' then .text [b] :: items fuel after
        else
          let (item, after) := directive rest
          item :: items fuel after
      | [] => [.unfinished]
    else if b = ch '\\' then
      match rest with
      | c :: after =>
        if isOctal c then
          let (value, after) := octal 3 rest
          .text [value] :: items fuel after
        else
          match letter? c with
          | some x => .text [x] :: items fuel after
          | none => .text [b, c] :: items fuel after
      | [] => [.text [b]]
    else .text [b] :: items fuel rest

def pad (flags : Bytes) (width : Nat) (t : Bytes) : Bytes :=
  let fill := List.replicate (width - t.length) 0x20
  if flags.contains (ch '-') then t ++ fill else fill ++ t

def padNumber (flags : Bytes) (width : Nat) (precision : Option Nat) (mark digits : Bytes) : Bytes :=
  let digits := List.replicate (precision.getD 1 - digits.length) (ch '0') ++ digits
  let t := mark ++ digits
  if flags.contains (ch '0') && !flags.contains (ch '-') && precision.isNone then
    mark ++ List.replicate (width - t.length) (ch '0') ++ digits
  else pad flags width t

def digitsOf (base : Nat) (n : Nat) : Bytes := (Nat.toDigits base n).map ch

def upper (t : Bytes) : Bytes := t.map fun b => if ch 'a' ≤ b && b ≤ ch 'z' then b - 32 else b

def number (flags : Bytes) (width : Nat) (precision : Option Nat) (kind : UInt8) (n : Int64) : Bytes :=
  let unsigned := n.toUInt64.toNat
  let zero (digits : Bytes) : Bytes := if precision = some 0 && n = 0 then [] else digits
  let marked (mark : String) : Bytes := if flags.contains (ch '#') && n ≠ 0 then utf8 mark else []
  if kind = ch 'd' || kind = ch 'i' then
    let sign := if n < 0 then utf8 "-" else if flags.contains (ch '+') then utf8 "+"
      else if flags.contains (ch ' ') then utf8 " " else []
    padNumber flags width precision sign (zero (Decimal.ofNat n.toInt.natAbs))
  else if kind = ch 'u' then padNumber flags width precision [] (zero (Decimal.ofNat unsigned))
  else if kind = ch 'o' then padNumber flags width precision (marked "0") (zero (digitsOf 8 unsigned))
  else if kind = ch 'x' then padNumber flags width precision (marked "0x") (zero (digitsOf 16 unsigned))
  else padNumber flags width precision (marked "0X") (zero (upper (digitsOf 16 unsigned)))

/-! ## Fractional numbers -/

open Percent (Fraction)

def fixedDigits (places : Nat) (x : Fraction) : Bytes :=
  let digits := Decimal.ofNat (Percent.roundDiv (x.num * Nat.pow 10 places) x.den)
  let digits := List.replicate (places + 1 - digits.length) (ch '0') ++ digits
  let whole := digits.take (digits.length - places)
  if places = 0 then whole else whole ++ ch '.' :: digits.drop whole.length

def timesTen (x : Fraction) (e : Int) : Fraction :=
  if 0 ≤ e then ⟨x.num * Nat.pow 10 e.toNat, x.den⟩ else ⟨x.num, x.den * Nat.pow 10 (-e).toNat⟩

def scientific (places : Nat) (x : Fraction) : Int × Nat :=
  if x.num = 0 then (0, 0)
  else
    let guess : Int := ((Decimal.ofNat x.num).length : Int) - (Decimal.ofNat x.den).length
    let e := if x.num * Nat.pow 10 (-guess).toNat < x.den * Nat.pow 10 guess.toNat then guess - 1 else guess
    let y := timesTen x (places - e)
    let digits := Percent.roundDiv y.num y.den
    if digits < Nat.pow 10 (places + 1) then (e, digits)
    else (e + 1, digits / 10)

def scientificDigits (places : Nat) (x : Fraction) : Bytes :=
  let (e, n) := scientific places x
  let exponent := Decimal.ofNat e.natAbs
  let exponent := if exponent.length < 2 then ch '0' :: exponent else exponent
  fixedDigits places ⟨n, Nat.pow 10 places⟩ ++ utf8 (if e < 0 then "e-" else "e+") ++ exponent

/-- Digits without zeros behind the point, and without a point that nothing follows. -/
def withoutZeros (t : Bytes) : Bytes :=
  let mantissa := t.takeWhile (· ≠ ch 'e')
  let exponent := t.drop mantissa.length
  let short := if !mantissa.contains (ch '.') then mantissa
    else
      let t := (mantissa.reverse.dropWhile (· = ch '0')).reverse
      if t.getLast? = some (ch '.') then t.dropLast else t
  short ++ exponent

def shortDigits (flags : Bytes) (digits : Nat) (x : Fraction) : Bytes :=
  let digits := max digits 1
  let (e, _) := scientific (digits - 1) x
  let t := if -4 ≤ e && e < digits then fixedDigits (digits - 1 - e).toNat x else scientificDigits (digits - 1) x
  if flags.contains (ch '#') then t else withoutZeros t

def fractional (flags : Bytes) (width : Nat) (precision : Option Nat) (kind : UInt8) (negative : Bool) (x : Fraction) : Bytes :=
  let places := precision.getD 6
  let lower := FloatText.lower kind
  let digits := if lower = ch 'f' then fixedDigits places x
    else if lower = ch 'e' then scientificDigits places x
    else shortDigits flags places x
  let sign := if negative then utf8 "-" else if flags.contains (ch '+') then utf8 "+"
    else if flags.contains (ch ' ') then utf8 " " else []
  padNumber flags width none sign (if lower = kind then digits else upper digits)

def fractionOf (t : Bytes) : Bool × Fraction × Option Bytes :=
  let zero : Fraction := ⟨0, 1⟩
  match t with
  | [] => (false, zero, none)
  | q :: rest =>
    if q = ch '"' || q = ch '\'' then (false, ⟨(rest.head?.map (·.toNat)).getD 0, 1⟩, none)
    else
      let body := t.dropWhile Arithmetic.isGap
      let run := body.takeWhile fun b => isDigit b || isOneOf b "+-.eE"
      let value? (n : Nat) : Option (Bool × Fraction) :=
        match FloatText.read (run.take n) with
        | .ok (.finite negative x) => some (negative, x)
        | _ => none
      match (List.range (run.length + 1)).reverse.find? fun n => (value? n).isSome with
      | none => (false, zero, some (t ++ utf8 ": expected numeric value"))
      | some n =>
        let (negative, x) := (value? n).getD (false, zero)
        (negative, x, if n = body.length then none else some (t ++ utf8 ": not completely converted"))

structure Printed where
  output : Bytes := []
  complaints : List Bytes := []
  fault : Option Item := none
  ended : Bool := false

def numberOf (t : Bytes) : Int64 × Option Bytes :=
  match t with
  | [] => (0, none)
  | q :: rest =>
    if q = ch '"' || q = ch '\'' then (Int64.ofNat ((rest.head?.map (·.toNat)).getD 0), none)
    else
      let body := t.dropWhile Arithmetic.isGap
      let (negative, digits) := Decimal.splitSign body
      if !(digits.head?.any isDigit) then (0, some (t ++ utf8 ": expected numeric value"))
      else
        let (n, rest) := Arithmetic.number digits
        (if negative then -n else n, if rest.isEmpty then none else some (t ++ utf8 ": not completely converted"))

def printItems : List Item → List Bytes → Printed → Printed × List Bytes
  | [], args, p => (p, args)
  | .text t :: rest, args, p => printItems rest args { p with output := p.output ++ t }
  | .invalid t :: _, args, p => ({ p with fault := some (.invalid t), ended := true }, args)
  | .unfinished :: _, args, p => ({ p with fault := some .unfinished, ended := true }, args)
  | .directive flags width precision kind :: rest, args, p =>
    -- A star takes an argument of its own.
    let take (s : Option (Option Nat)) (args : List Bytes) : Option Int × List Bytes :=
      match s with
      | none => (none, args)
      | some (some n) => (some n, args)
      | some none => (some ((numberOf (args.headD [])).1.toInt), args.drop 1)
    let (w, args) := take width args
    let (q, args) := take precision args
    let flags := if w.any (· < 0) then ch '-' :: flags else flags
    let w := (w.map (·.natAbs)).getD 0
    let q := q.bind fun n => if n < 0 then none else some n.toNat
    let arg := args.headD []
    let cut (t : Bytes) : Bytes := match q with
      | some n => t.take n
      | none => t
    if kind = ch 's' then printItems rest (args.drop 1) { p with output := p.output ++ pad flags w (cut arg) }
    else if kind = ch 'c' then printItems rest (args.drop 1) { p with output := p.output ++ pad flags w (arg.take 1) }
    else if kind = ch 'b' then
      let (t, ended) := unescape (arg.length + 1) arg
      let p := { p with output := p.output ++ pad flags w (cut t) }
      if ended then ({ p with ended := true }, args.drop 1) else printItems rest (args.drop 1) p
    else if isOneOf kind "eEfFgG" then
      let (negative, x, wrong) := fractionOf arg
      printItems rest (args.drop 1)
        { p with output := p.output ++ fractional flags w q kind negative x, complaints := p.complaints ++ wrong.toList }
    else
      let (n, wrong) := numberOf arg
      printItems rest (args.drop 1)
        { p with output := p.output ++ number flags w q kind n, complaints := p.complaints ++ wrong.toList }

def printAll (items : List Item) : (fuel : Nat) → List Bytes → Printed → Printed × List Bytes
  | 0, args, p => (p, args)
  | fuel + 1, args, p =>
    let (p, left) := printItems items args p
    if p.ended || left.isEmpty || left.length = args.length then (p, left) else printAll items fuel left p

/-- Prints a format. Gives also the arguments that had no place in it. -/
def print (format : Bytes) (args : List Bytes) : Printed × List Bytes :=
  printAll (items (format.length + 1) format) (args.length + 1) args {}

end Format

end Script

end LineCoverage
