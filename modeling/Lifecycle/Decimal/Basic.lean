/-!
# Decimal numbers

A `Decimal` is a number written with decimal digits: `(-1)^negative · digits · 10^exponent`. The sign
is kept apart from the digits, so a negative zero is not lost.

`Binary64.nearest?` is the double-precision number nearest to a positive fraction, a tie going to the
even mantissa, or `none` above the largest such number. Everything is computed on natural numbers.
-/

namespace Lifecycle

/-- A number in decimal digits. -/
structure Decimal where
  negative : Bool
  digits : Nat
  exponent : Int
  deriving Repr, DecidableEq, Inhabited

namespace Decimal

/-- The value of a run of decimal digits. -/
def digitsValue (ds : List Char) : Nat := ds.foldl (fun n c => n * 10 + (c.toNat - '0'.toNat)) 0

/-- How many digits a number has in base 10. -/
def digitCount (n : Nat) : Nat := (Nat.toDigits 10 n).length

/-- The power of ten of the leading digit. -/
def leading (d : Decimal) : Int := d.exponent + digitCount d.digits - 1

end Decimal

/-! ## Rounding to 64-bit floating point -/

/-- A number `mantissa · 2^exponent` that is not negative. -/
structure Binary64 where
  mantissa : Nat
  exponent : Int
  deriving Repr, DecidableEq

namespace Binary64

/-- The least exponent of a double-precision number. -/
def minExponent : Int := -1074

/-- The greatest exponent of a double-precision number. -/
def maxExponent : Int := 971

/-- A quotient rounded to the nearest natural number, and to the even one of two. -/
def roundDiv (num den : Nat) : Nat :=
  let q := num / den
  let twice := 2 * (num % den)
  if twice < den then q
  else if twice > den then q + 1
  else q + q % 2

/-- `num / den` in units of `2^e`. -/
def scaled (num den : Nat) (e : Int) : Nat × Nat :=
  (num * Nat.pow 2 (-e).toNat, den * Nat.pow 2 e.toNat)

/-- The greatest `e` with `2^e ≤ num / den`. -/
def floorLog (num den : Nat) : Int :=
  let e : Int := (Nat.log2 num : Int) - Nat.log2 den
  let (n, d) := scaled num den e
  if n < d then e - 1 else e

/-- **The double-precision number nearest to `num / den`.** -/
def nearest? (num den : Nat) : Option Binary64 :=
  if num = 0 then some ⟨0, minExponent⟩
  else
    let e := max (floorLog num den - 52) minExponent
    let (n, d) := scaled num den e
    let m := roundDiv n d
    let b : Binary64 := if m = Nat.pow 2 53 then ⟨Nat.pow 2 52, e + 1⟩ else ⟨m, e⟩
    if b.exponent ≤ maxExponent then some b else none

/-- The double-precision number nearest to the magnitude of a decimal number. A number of more than
400 digits before the point is above them all, and one that starts 400 places after it rounds to 0. -/
def ofDecimal? (d : Decimal) : Option Binary64 :=
  if d.digits = 0 then some ⟨0, minExponent⟩
  else if 400 < d.leading then none
  else if d.leading < -400 then some ⟨0, minExponent⟩
  else nearest? (d.digits * Nat.pow 10 d.exponent.toNat) (Nat.pow 10 (-d.exponent).toNat)

end Binary64

end Lifecycle
