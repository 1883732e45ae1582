/-
Module: VirtLifecycle.Decimal.Shortest
Purpose: The shortest decimal text that reads back as a given double. Among the decimals that round
  to the double, those with the fewest digits are taken, and of these the nearest; an exact tie goes
  to the even last digit. How the digits are laid out is a separate record, `NumberLayout`.
Specification: [SPEC 10 Serialization]: how such numbers are written.
Main exports: Double.shortest, NumberLayout, NumberLayout.render, Double.layout, Double.text
-/
import VirtLifecycle.Decimal.Double

namespace VirtLifecycle

namespace Double

/-- The magnitudes that round to a double lie between two bounds, written over one common
denominator; the bounds themselves round to it iff the significand is even. -/
structure Rounding where
  low : Nat
  value : Nat
  high : Nat
  denominator : Nat
  closed : Bool

/-- The interval of a positive finite double. Just above a power of two the gap below is half as
wide as the gap above. -/
def rounding (d : Double) : Rounding :=
  let m := d.significand
  let narrow := d.fractionField = 0 ∧ 1 < d.exponentField
  let low := if narrow then 4 * m - 1 else 4 * m - 2
  match d.exponent with
  | .ofNat e =>
    ⟨low * Nat.pow 2 e, 4 * m * Nat.pow 2 e, (4 * m + 2) * Nat.pow 2 e, 4, m % 2 == 0⟩
  | .negSucc e =>
    ⟨low, 4 * m, 4 * m + 2, 4 * Nat.pow 2 (e + 1), m % 2 == 0⟩

/-- Whether `n / r.denominator` rounds to the double. -/
def Rounding.holds (r : Rounding) (n : Nat) : Bool :=
  if r.closed then r.low ≤ n && n ≤ r.high else r.low < n && n < r.high

/-- The multiple of `10 ^ power` in the interval that lies nearest to the value, as its factor. -/
def Rounding.onGrid? (r : Rounding) (power : Int) : Option Nat :=
  -- Everything is multiplied by `scale`, so that a step of the grid is a natural number.
  let (step, scale) : Nat × Nat := match power with
    | .ofNat e => (Nat.pow 10 e * r.denominator, 1)
    | .negSucc e => (r.denominator, Nat.pow 10 (e + 1))
  let scaled : Rounding :=
    { r with low := r.low * scale, value := r.value * scale, high := r.high * scale }
  let below := scaled.value / step
  let belowHolds := 0 < below && scaled.holds (below * step)
  let aboveHolds := scaled.holds ((below + 1) * step)
  let toBelow := scaled.value - below * step
  let toAbove := (below + 1) * step - scaled.value
  match belowHolds, aboveHolds with
  | false, false => none
  | true, false => some below
  | false, true => some (below + 1)
  | true, true =>
    if toBelow < toAbove then some below
    else if toAbove < toBelow then some (below + 1)
    else some (below + below % 2)

/-- Tries grids that get finer by a factor of ten, at most `fuel + 1` of them. -/
def Rounding.search (r : Rounding) : (fuel : Nat) → (power : Int) → Nat × Int
  | 0, power => (r.value / r.denominator, power)
  | fuel + 1, power =>
    match r.onGrid? power with
    | some digits => (digits, power)
    | none => r.search fuel (power - 1)

/-- Drops the zeros at the end of a number, at most `fuel` of them, and raises the power of ten. -/
def dropZeros : (fuel digits : Nat) → (power : Int) → Nat × Int
  | 0, digits, power => (digits, power)
  | fuel + 1, digits, power =>
    if digits % 10 = 0 ∧ digits ≠ 0 then dropZeros fuel (digits / 10) (power + 1)
    else (digits, power)

/-- The digits and the power of ten of the shortest decimal that rounds to a positive finite
double. The search starts above the value's own magnitude, so the first grid with a hit is the
coarsest. -/
def shortest (d : Double) : Nat × Int :=
  let r := d.rounding
  let top : Int := ((r.value.log2 : Int) - r.denominator.log2) * 30103 / 100000 + 2
  let (digits, power) := r.search 24 top
  dropZeros 400 digits power

end Double

/-- How the digits of a number are laid out. With `n` digits before the point (none if `n ≤ 0`), a
number is written in positions while `leastPlace < n ≤ mostPlaces`, otherwise as one digit, a point,
the other digits and an exponent. -/
structure NumberLayout where
  mostPlaces : Int
  leastPlace : Int
  wholeEnd : String
  exponentMark : String
  infinityText : String
  notANumberText : String

namespace NumberLayout

private def zeros (n : Int) : String :=
  String.ofList (List.replicate n.toNat '0')

/-- The text of `digits * 10 ^ power`. -/
def render (layout : NumberLayout) (digits : Nat) (power : Int) : String :=
  let shown := Nat.toDigits 10 digits
  let count : Int := shown.length
  let places := count + power
  if 0 ≤ power ∧ places ≤ layout.mostPlaces then
    String.ofList shown ++ zeros power ++ layout.wholeEnd
  else if 0 < places ∧ places ≤ layout.mostPlaces then
    String.ofList (shown.take places.toNat) ++ "." ++ String.ofList (shown.drop places.toNat)
  else if layout.leastPlace < places ∧ places ≤ 0 then
    "0." ++ zeros (-places) ++ String.ofList shown
  else
    let head := String.ofList (shown.take 1)
    let tail := shown.drop 1
    let fraction := if tail.isEmpty then "" else "." ++ String.ofList tail
    head ++ fraction ++ layout.exponentMark ++ toString (places - 1)

/-- The text of a double in the given layout. -/
def text (layout : NumberLayout) (d : Double) : String :=
  let sign := if d.isNegative then "-" else ""
  if d.isFinite then
    if d.significand = 0 then sign ++ "0" ++ layout.wholeEnd
    else
      let (digits, power) := d.shortest
      sign ++ layout.render digits power
  else if d.fractionField = 0 then sign ++ layout.infinityText
  else layout.notANumberText

end NumberLayout

/-- Numbers are positional from `1e-5` up to sixteen places, and a whole number ends in `.0`. -/
def Double.layout : NumberLayout where
  mostPlaces := 16
  leastPlace := -5
  wholeEnd := ".0"
  exponentMark := "e"
  infinityText := ".inf"
  notANumberText := ".nan"

/-- The text of a double in documents. -/
def Double.text (d : Double) : String :=
  Double.layout.text d

end VirtLifecycle
