import LineCoverage.Text.Decimal

/-!
# Percentages

A share of lines is written as a percentage with one place. It is calculated in double precision, so
every step is rounded to 53 bits; a value half-way between two neighbours goes to the even one.
-/

namespace LineCoverage

namespace Percent

/-- The quotient rounded to the nearest number, a half to the even one. -/
def roundDiv (n d : Nat) : Nat :=
  let q := n / d
  let rest := n % d
  if 2 * rest < d then q
  else if d < 2 * rest then q + 1
  else if q % 2 = 0 then q
  else q + 1

structure Fraction where
  num : Nat
  den : Nat

def Fraction.scale (x : Fraction) (s : Int) : Fraction :=
  if 0 ≤ s then ⟨x.num * Nat.pow 2 s.toNat, x.den⟩ else ⟨x.num, x.den * Nat.pow 2 (-s).toNat⟩

def precision : Nat := 53

def Fraction.round (x : Fraction) : Fraction :=
  if x.num = 0 then ⟨0, 1⟩
  else
    let s : Int := precision + Nat.log2 x.den - Nat.log2 x.num
    let y := x.scale s
    let s := if y.num / y.den < Nat.pow 2 precision then s else s - 1
    let y := x.scale s
    (⟨roundDiv y.num y.den, 1⟩ : Fraction).scale (-s)

def Fraction.div (x y : Fraction) : Fraction := (⟨x.num * y.den, x.den * y.num⟩ : Fraction).round

def tenths (hit found : Nat) : Nat :=
  let share := (Fraction.round ⟨hit, 1⟩).div (Fraction.round ⟨found, 1⟩)
  let percent := (⟨share.num * 100, share.den⟩ : Fraction).round
  roundDiv (percent.num * 10) percent.den

/-- Whether a quotient has a minus sign; zero below a negative number has one too. -/
def isNegative (hit found : Int64) : Bool := if hit < 0 then 0 < found else found < 0

def text (hit found : Int64) : Bytes :=
  if found = 0 then utf8 "-"
  else
    let n := tenths hit.toInt.natAbs found.toInt.natAbs
    (if isNegative hit found then [ch '-'] else []) ++
      Decimal.ofNat (n / 10) ++ ch '.' :: Decimal.ofNat (n % 10)

end Percent

end LineCoverage
