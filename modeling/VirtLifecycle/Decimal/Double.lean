/-
Module: VirtLifecycle.Decimal.Double
Purpose: Double-precision numbers as exact data. A double is its 64 bits; its value is read off as an
  integer times a power of two, and a quotient of natural numbers is rounded to the nearest double
  by exact arithmetic, so nothing here depends on a machine's floating-point unit.
Specification: [SPEC 10 Serialization]: the numbers of free-form data that are no integers.
Main exports: Double, Double.significand, Double.exponent, Double.ofRatio, Double.ofDecimal,
  Double.scaleDecimal
-/

namespace VirtLifecycle

/-- A double-precision number, held as its bits. -/
structure Double where
  bits : UInt64
deriving DecidableEq, Repr, Inhabited

namespace Double

/-- The weight of the sign bit. -/
def signBit : Nat := 0x8000000000000000

/-- How many values the fraction field has. -/
def fractionSize : Nat := 0x10000000000000

/-- Whether the sign bit is set; zero has two signs. -/
def isNegative (d : Double) : Bool :=
  signBit ≤ d.bits.toNat

/-- The eleven bits of the exponent field. -/
def exponentField (d : Double) : Nat :=
  d.bits.toNat / fractionSize % 2048

/-- The fifty-two bits of the fraction field. -/
def fractionField (d : Double) : Nat :=
  d.bits.toNat % fractionSize

/-- Neither an infinity nor not-a-number. -/
def isFinite (d : Double) : Bool :=
  d.exponentField != 2047

/-- The integer whose product with a power of two is the magnitude of a finite double. -/
def significand (d : Double) : Nat :=
  if d.exponentField = 0 then d.fractionField else fractionSize + d.fractionField

/-- The power of two that goes with `significand`. -/
def exponent (d : Double) : Int :=
  if d.exponentField = 0 then -1074 else (d.exponentField : Int) - 1075

def infinity (negative : Bool) : Double :=
  ⟨if negative then 0xFFF0000000000000 else 0x7FF0000000000000⟩

def notANumber : Double := ⟨0x7FF8000000000000⟩

def zero (negative : Bool) : Double :=
  ⟨if negative then 0x8000000000000000 else 0⟩

/-- The magnitude of a finite double as a quotient of natural numbers. -/
def ratio (d : Double) : Nat × Nat :=
  match d.exponent with
  | .ofNat e => (d.significand * Nat.pow 2 e, 1)
  | .negSucc e => (d.significand, Nat.pow 2 (e + 1))

/-- `num / den` rounded to an integer; a half goes to the even neighbour. -/
def roundQuotient (num den : Nat) : Nat :=
  let quotient := num / den
  let twice := 2 * (num % den)
  if twice < den then quotient
  else if den < twice then quotient + 1
  else quotient + quotient % 2

/-- `num / den / 2 ^ shift` rounded to an integer; a half goes to the even neighbour. -/
def roundShifted (num den : Nat) : Int → Nat
  | .ofNat e => roundQuotient num (den * Nat.pow 2 e)
  | .negSucc e => roundQuotient (num * Nat.pow 2 (e + 1)) den

/-- The double nearest to `num / den`; a half goes to the even neighbour, and what is too large for
a finite double is infinite. `den` is positive. -/
def ofRatio (negative : Bool) (num den : Nat) : Double :=
  if num = 0 then zero negative
  else
    let guess : Int := (num.log2 : Int) - den.log2
    -- The quotient lies between `2 ^ (guess - 1)` and `2 ^ (guess + 1)`.
    let below : Bool := match guess with
      | .ofNat e => num < den * Nat.pow 2 e
      | .negSucc e => num * Nat.pow 2 (e + 1) < den
    let top : Int := if below then guess - 1 else guess
    let shift : Int := max (top - 52) (-1074)
    let rounded := roundShifted num den shift
    -- A carry out of the fraction moves into the exponent field by itself.
    let magnitude :=
      if rounded < fractionSize then rounded
      else (shift + 1074).toNat * fractionSize + rounded
    if magnitude < 2047 * fractionSize then
      ⟨UInt64.ofNat (if negative then signBit + magnitude else magnitude)⟩
    else infinity negative

/-- The double nearest to `digits * 10 ^ exponent`. Exponents so large or so small that the result
is infinite or zero for certain are cut short. -/
def ofDecimal (negative : Bool) (digits : Nat) (exponent : Int) : Double :=
  if digits = 0 then zero negative
  else if exponent + (Nat.log2 digits : Int) < -5000 then zero negative
  else if 5000 < exponent then infinity negative
  else
    match exponent with
    | .ofNat e => ofRatio negative (digits * Nat.pow 10 e) 1
    | .negSucc e => ofRatio negative digits (Nat.pow 10 (e + 1))

/-- The product of a finite double and a finite non-negative double, rounded. -/
def mul (a b : Double) : Double :=
  let (n, d) := a.ratio
  let (n', d') := b.ratio
  ofRatio a.isNegative (n * n') (d * d')

/-- The quotient of a finite double and a finite positive double, rounded. -/
def div (a b : Double) : Double :=
  let (n, d) := a.ratio
  let (n', d') := b.ratio
  ofRatio a.isNegative (n * d') (d * n')

/-- The largest power of ten that is a finite double. -/
def maxTenPower : Nat := 308

/-- The double nearest to a power of ten. -/
def tenPower (n : Nat) : Double :=
  ofRatio false (Nat.pow 10 n) 1

/-- `significand * 10 ^ exponent` in two roundings: the significand is rounded to a double and then
multiplied or divided by a rounded power of ten, a very small power in steps of `maxTenPower`.
There is no result if it would be too large. -/
def scaleDecimal (negative : Bool) (significand : Nat) (exponent : Int) : Option Double :=
  let start := ofRatio false significand 1
  let scaled : Option Double :=
    match exponent with
    | .ofNat e =>
      if e ≤ maxTenPower then
        let product := mul start (tenPower e)
        if product.isFinite then some product else none
      else if significand = 0 then some start
      else none
    | .negSucc e => some (shrink (e + 1) start)
  scaled.map fun d => if negative then ⟨d.bits ||| 0x8000000000000000⟩ else d
where
  /-- Divides by ten to the given power. Once the value is zero it stays zero. -/
  shrink (power : Nat) (value : Double) : Double :=
    if power ≤ maxTenPower then div value (tenPower power)
    else if value.significand = 0 then value
    else shrink (power - maxTenPower) (div value (tenPower maxTenPower))
  termination_by power
  decreasing_by simp only [maxTenPower] at *; omega

end Double

end VirtLifecycle
