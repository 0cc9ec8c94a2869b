import Lifecycle.Decimal.Basic

/-!
# The text of a floating-point number

`Binary64.shortest` gives the fewest digits that round back to a number, and of those the digits
nearest to it. `Decimal.text` writes them in a layout.

Every number that lies in the interval half way to the two neighbours rounds back, the ends included
if the mantissa is even. For one digit, two digits and so on up to seventeen the two neighbours of the
number on that decimal grid are tried; if a point of the grid lies in the interval, so does one of
these two, so the first hit has the fewest digits. Where both are equally near, a `Tie` decides.

A `Layout` says which numbers are written positionally, by the power of ten of the leading digit; the
others get an exponent with its sign. A number that is written positionally always has a point. A
layout also says which digits are taken of two that are equally near.
-/

namespace Lifecycle

/-- Which of two equally near numbers of decimal digits is taken. -/
inductive Tie where
  | toEven
  | upward
  deriving Repr, DecidableEq

/-- Of `n` and `n + 1` the one that a tie goes to. -/
def Tie.choose : Tie → Nat → Nat
  | toEven, n => n + n % 2
  | upward, n => n + 1

namespace Binary64

/-- The lower end, the number and the upper end of the interval that rounds to it, all three as whole
multiples of the same power of ten. -/
structure Interval where
  low : Nat
  value : Nat
  high : Nat
  exponent : Int
  closed : Bool

/-- The interval of numbers that round to a positive number. Below a power of two the neighbour is
half as far away as above it. -/
def interval (b : Binary64) : Interval :=
  let below := if b.mantissa = Nat.pow 2 52 && decide (minExponent < b.exponent) then 1 else 2
  let e := b.exponent - 2
  let scale := Nat.pow 2 e.toNat * Nat.pow 5 (-e).toNat
  { low := (4 * b.mantissa - below) * scale
    value := 4 * b.mantissa * scale
    high := (4 * b.mantissa + 2) * scale
    exponent := min e 0
    closed := b.mantissa % 2 = 0 }

/-- Whether a number in the unit of the interval lies in it. -/
def Interval.contains (i : Interval) (n : Nat) : Bool :=
  if i.closed then decide (i.low ≤ n) && decide (n ≤ i.high)
  else decide (i.low < n) && decide (n < i.high)

/-- The point of the grid of multiples of `step` that lies in the interval, the nearer of two. -/
def Interval.onGrid? (i : Interval) (tie : Tie) (step : Nat) : Option Nat :=
  let below := i.value / step
  let above := below + 1
  match i.contains (below * step), i.contains (above * step) with
  | true, true =>
    let d := i.value - below * step
    let u := above * step - i.value
    if d < u then some below
    else if u < d then some above
    else some (tie.choose below)
  | true, false => some below
  | false, true => some above
  | false, false => none

/-- Try grids from `10^k` down, `tries` of them. -/
def Interval.search (i : Interval) (tie : Tie) (k : Nat) : Nat → Nat × Nat
  | 0 => (i.value, 0)
  | tries + 1 =>
    match i.onGrid? tie (Nat.pow 10 k) with
    | some n => (n, k)
    | none => i.search tie (k - 1) tries

/-- A decimal number without zeros at the end of its digits. -/
def stripZeros : Nat → Nat → Int → Nat × Int
  | 0, n, e => (n, e)
  | fuel + 1, n, e => if n ≠ 0 ∧ n % 10 = 0 then stripZeros fuel (n / 10) (e + 1) else (n, e)

/-- **The shortest decimal digits** that round back to a number, and their power of ten. -/
def shortest (b : Binary64) (tie : Tie) : Nat × Int :=
  if b.mantissa = 0 then (0, 0)
  else
    let i := b.interval
    let (n, k) := i.search tie (Decimal.digitCount i.value) 18
    stripZeros 400 n (i.exponent + k)

end Binary64

/-- Which powers of ten of the leading digit are written positionally, and where ties go. -/
structure Decimal.Layout where
  positional : Int → Bool
  tie : Tie

/-- Every number is written positionally, and ties go upward. -/
def Decimal.Layout.plain : Decimal.Layout := ⟨fun _ => true, .upward⟩

/-- Numbers from `10^-5` up to `10^16` are written positionally, and ties go to the even digit. -/
def Decimal.Layout.compact : Decimal.Layout :=
  ⟨fun e => decide (-5 ≤ e) && decide (e ≤ 15), .toEven⟩

/-- The characters `0`, that many times. -/
def Decimal.zeros (n : Nat) : List Char := List.replicate n '0'

/-- The text of `digits · 10^exponent` in a layout. -/
def Decimal.Layout.magnitude (layout : Layout) (digits : Nat) (exponent : Int) : List Char :=
  let ds := Nat.toDigits 10 digits
  let point : Int := exponent + ds.length
  if layout.positional (point - 1) || digits == 0 then
    if 0 ≤ exponent then ds ++ zeros exponent.toNat ++ ['.', '0']
    else if 0 < point then ds.take point.toNat ++ '.' :: ds.drop point.toNat
    else '0' :: '.' :: zeros (-point).toNat ++ ds
  else
    let sign := if 0 ≤ point - 1 then '+' else '-'
    let fraction := if ds.length ≤ 1 then [] else '.' :: ds.drop 1
    ds.take 1 ++ fraction ++ 'e' :: sign :: Nat.toDigits 10 (point - 1).natAbs

/-- The shortest text of the double-precision number nearest to a decimal number; infinity if there is
none. -/
def Decimal.text (layout : Layout) (d : Decimal) : String :=
  let sign := if d.negative then "-" else ""
  match Binary64.ofDecimal? d with
  | none => sign ++ "inf"
  | some b =>
    let (digits, exponent) := b.shortest layout.tie
    sign ++ String.ofList (layout.magnitude digits exponent)

end Lifecycle
