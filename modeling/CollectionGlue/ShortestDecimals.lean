import CollectionGlue.Binary64

/-! # The shortest decimal that reads back as a given floating-point number

All comparisons are of exact fractions. A number stands for the interval of reals that round to it;
the ends belong to it when the significand is even.
-/
namespace CollectionGlue

/-- The decimal `coefficient * 10 ^ place`. -/
structure Decimal where
  coefficient : Nat
  place : Int
  deriving DecidableEq, Repr

namespace Binary64

/-- Four units of this unit make one unit of the last bit. -/
def quarterUnit (x : Binary64) : Nat × Nat :=
  (Nat.pow 2 (x.exponent - 2).toNat, Nat.pow 2 (2 - x.exponent).toNat)

/-- The lower end of the interval in quarter units; below a power of two the spacing is halved. -/
def lowerEnd (x : Binary64) : Nat :=
  if x.significand = Nat.pow 2 52 ∧ leastExponent < x.exponent then 4 * x.significand - 1
  else 4 * x.significand - 2

def upperEnd (x : Binary64) : Nat := 4 * x.significand + 2

/-- Whether the decimal `c * 10 ^ p` rounds to `x`. -/
def contains (x : Binary64) (c : Nat) (p : Int) : Bool :=
  let (unit, parts) := x.quarterUnit
  let decimal := c * Nat.pow 10 p.toNat * parts
  let scale := unit * Nat.pow 10 (-p).toNat
  if x.significand % 2 = 0 then x.lowerEnd * scale ≤ decimal && decimal ≤ x.upperEnd * scale
  else x.lowerEnd * scale < decimal && decimal < x.upperEnd * scale

/-- The place of the leading digit of `n / d`. -/
def leadingPlace (n d : Nat) : Int :=
  let place : Int := (Nat.toDigits 10 n).length - (Nat.toDigits 10 d).length
  if d * Nat.pow 10 place.toNat ≤ n * Nat.pow 10 (-place).toNat then place else place - 1

/-- The neighbour of `x` among the multiples of `10 ^ p` that rounds to `x`; the nearer one of two,
and of two equally near the even one. -/
def onGrid? (x : Binary64) (p : Int) : Option Decimal :=
  let n := x.numerator * Nat.pow 10 (-p).toNat
  let d := x.denominator * Nat.pow 10 p.toNat
  let below := n / d
  match x.contains below p, x.contains (below + 1) p with
  | true, true => some ⟨nearestQuotient n d, p⟩
  | true, false => some ⟨below, p⟩
  | false, true => some ⟨below + 1, p⟩
  | false, false => none

def withoutTrailingZeros (c : Nat) (p : Int) : Decimal :=
  if c ≠ 0 ∧ c % 10 = 0 then withoutTrailingZeros (c / 10) (p + 1) else ⟨c, p⟩
termination_by c
decreasing_by omega

/-- Tries one digit, then two, and so on; seventeen always suffice. -/
def shortest (x : Binary64) : Decimal :=
  let lead := leadingPlace x.numerator x.denominator
  let found := (List.range 17).findSome? fun i : Nat => x.onGrid? (lead - i)
  let d := found.getD ⟨0, 0⟩
  withoutTrailingZeros d.coefficient d.place

end Binary64

namespace Decimal

def zeros (count : Nat) : String := String.ofList (List.replicate count '0')

/-- Digits with the decimal point after place zero; at least one digit stands on either side. -/
def positional (digits : List Char) (lead : Int) : String :=
  if lead < 0 then "0." ++ zeros (-lead - 1).toNat ++ String.ofList digits
  else
    let whole := lead.toNat + 1
    if digits.length ≤ whole then String.ofList digits ++ zeros (whole - digits.length) ++ ".0"
    else String.ofList (digits.take whole) ++ "." ++ String.ofList (digits.drop whole)

def scientific (digits : List Char) (lead : Int) : String :=
  let fraction := digits.drop 1
  let mantissa := String.ofList (digits.take 1) ++
    if fraction.isEmpty then "" else "." ++ String.ofList fraction
  mantissa ++ "e" ++ (if lead < 0 then "-" else "+") ++ toString lead.natAbs

/-- Positional from `0.00001` up to, but not including, `10 ^ 16`. -/
def text (d : Decimal) : String :=
  let digits := Nat.toDigits 10 d.coefficient
  let lead : Int := d.place + digits.length - 1
  if -5 ≤ lead ∧ lead < 16 then positional digits lead else scientific digits lead

end Decimal

def Binary64.text (x : Binary64) : String := if x.isZero then "0.0" else x.shortest.text

end CollectionGlue
