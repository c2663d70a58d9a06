/-! # Non-negative floating-point numbers of 64 bits, rounded exactly

A finite number is `significand * 2 ^ exponent`. Products and quotients are rounded once, from the
exact fraction, to the nearest number; a tie goes to the even significand.
-/
namespace CollectionGlue

structure Binary64 where
  significand : Nat
  exponent : Int
  deriving DecidableEq, Repr

namespace Binary64

def leastExponent : Int := -1074

def greatestExponent : Int := 971

def zero : Binary64 := ⟨0, leastExponent⟩

def numerator (x : Binary64) : Nat := x.significand * Nat.pow 2 x.exponent.toNat

def denominator (x : Binary64) : Nat := Nat.pow 2 (-x.exponent).toNat

/-- The quotient of two naturals, rounded to the nearest natural, a tie to the even one. -/
def nearestQuotient (n d : Nat) : Nat :=
  let q := n / d
  let r := n % d
  if d < 2 * r ∨ (2 * r = d ∧ q % 2 = 1) then q + 1 else q

/-- `n / d` counted in units of `2 ^ e`. -/
def inUnits (n d : Nat) (e : Int) : Nat × Nat :=
  (n * Nat.pow 2 (-e).toNat, d * Nat.pow 2 e.toNat)

/-- The exponent at which the fraction `n / d` has 53 significant bits, or else the least one. -/
def fittingExponent (n d : Nat) : Int :=
  let e : Int := (n.log2 : Int) - (d.log2 : Int) - 52
  let (scaled, unit) := inUnits n d e
  max leastExponent (if scaled < unit * Nat.pow 2 52 then e - 1 else e)

/-- The number nearest to `n / d`, none when the fraction is too large for the format. -/
def ofFraction? (n d : Nat) : Option Binary64 :=
  if n = 0 then some zero
  else
    let e := fittingExponent n d
    let (scaled, unit) := inUnits n d e
    let s := nearestQuotient scaled unit
    let x : Binary64 := if s = Nat.pow 2 53 then ⟨Nat.pow 2 52, e + 1⟩ else ⟨s, e⟩
    if greatestExponent < x.exponent then none else some x

def isZero (x : Binary64) : Bool := x.significand == 0

def times? (x y : Binary64) : Option Binary64 :=
  ofFraction? (x.numerator * y.numerator) (x.denominator * y.denominator)

def over? (x y : Binary64) : Option Binary64 :=
  ofFraction? (x.numerator * y.denominator) (x.denominator * y.numerator)

/-- Multiplies by the rounded power `10 ^ k`. -/
def timesPowerOfTen? (x : Binary64) (k : Nat) : Option Binary64 :=
  (ofFraction? (Nat.pow 10 k) 1).bind x.times?

/-- Divides by the rounded power `10 ^ k`. -/
def overPowerOfTen? (x : Binary64) (k : Nat) : Option Binary64 :=
  (ofFraction? (Nat.pow 10 k) 1).bind x.over?

/-- Divides by `10 ^ k` in steps of at most 308 places; a quotient that reaches zero stays there. -/
def scaledDown? (x : Binary64) (k : Nat) : Option Binary64 :=
  if k ≤ 308 then x.overPowerOfTen? k
  else if x.isZero then some x
  else (x.overPowerOfTen? 308).bind fun y => y.scaledDown? (k - 308)
termination_by k

/-- `significand * 10 ^ exponent` by one rounded multiplication or by rounded divisions, none when
the result is too large. -/
def ofDecimal? (significand : Nat) (exponent : Int) : Option Binary64 :=
  (ofFraction? significand 1).bind fun x =>
    if exponent < 0 then x.scaledDown? (-exponent).toNat
    else if exponent ≤ 308 then x.timesPowerOfTen? exponent.toNat
    else if x.isZero then some x
    else none

end Binary64

end CollectionGlue
