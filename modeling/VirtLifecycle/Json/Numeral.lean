/-
Module: VirtLifecycle.Json.Numeral
Purpose: What the numerals of a JSON text stand for. A numeral without point and exponent that fits
  64 bits is an integer. Any other is a double: its digits are collected into 64 bits, digits that no
  longer fit only count for the power of ten, and the power of ten is applied in one rounding.
Specification: [SPEC 10 Serialization]: the numbers in the answers of the server.
Main exports: Json.ofNumeral
-/
import VirtLifecycle.Json.Basic

namespace VirtLifecycle.Json

/-- Digits collected so far: their value in at most 64 bits, the power of ten that goes with it, and
whether a digit was already left out. -/
structure Collected where
  significand : Nat
  power : Int
  full : Bool
deriving DecidableEq, Repr, Inhabited

def digitValue (c : Char) : Nat := c.toNat - '0'.toNat

/-- The least number that 64 bits do not hold. -/
def wordLimit : Nat := 0x10000000000000000

/-- Adds a digit before the point. From the first one left out, each counts as a power of ten. -/
def Collected.whole (c : Collected) (digit : Char) : Collected :=
  let next := c.significand * 10 + digitValue digit
  if c.full ∨ wordLimit ≤ next then { c with power := c.power + 1, full := true }
  else { c with significand := next }

/-- Adds a digit after the point. From the first one that does not fit, digits are dropped. -/
def Collected.fraction (c : Collected) (digit : Char) : Collected :=
  let next := c.significand * 10 + digitValue digit
  if c.full ∨ wordLimit ≤ next then { c with full := true }
  else { c with significand := next, power := c.power - 1 }

/-- A numeral taken apart. -/
structure Numeral where
  negative : Bool
  whole : List Char
  fraction : Option (List Char)
  exponent : Option (Bool × List Char)
deriving DecidableEq, Repr, Inhabited

/-- Splits `e-12` and the like. The mark and at least one digit have to be there. -/
def exponentOf? : List Char → Option (Option (Bool × List Char))
  | [] => some none
  | mark :: rest =>
    if mark = 'e' ∨ mark = 'E' then
      let (negative, digits) : Bool × List Char := match rest with
        | '-' :: digits => (true, digits)
        | '+' :: digits => (false, digits)
        | digits => (false, digits)
      if digits.isEmpty ∨ digits.any (fun c => !c.isDigit) then none
      else some (some (negative, digits))
    else none

/-- Takes a numeral apart: a sign, digits of which the first is zero only if it is the only one,
then perhaps a point with digits, then perhaps an exponent. -/
def Numeral.ofChars? (chars : List Char) : Option Numeral :=
  let (negative, unsigned) : Bool × List Char := match chars with
    | '-' :: rest => (true, rest)
    | rest => (false, rest)
  let whole := unsigned.takeWhile Char.isDigit
  let rest := unsigned.dropWhile Char.isDigit
  if whole.isEmpty ∨ (whole.head? = some '0' ∧ 1 < whole.length) then none
  else
    match rest with
    | '.' :: more =>
      let fraction := more.takeWhile Char.isDigit
      if fraction.isEmpty then none
      else (exponentOf? (more.dropWhile Char.isDigit)).map (⟨negative, whole, some fraction, ·⟩)
    | rest => (exponentOf? rest).map (⟨negative, whole, none, ·⟩)

def Numeral.collected (n : Numeral) : Collected :=
  let whole := n.whole.foldl Collected.whole ⟨0, 0, false⟩
  match n.fraction with
  | none => whole
  | some digits => digits.foldl Collected.fraction { whole with full := false }

def Numeral.power (n : Numeral) : Int :=
  match n.exponent with
  | none => 0
  | some (negative, digits) =>
    let size : Int := (digits.foldl (fun v c => v * 10 + digitValue c) 0 : Nat)
    if negative then -size else size

/-- Whether a numeral stands for an integer: it is written without point and exponent, and 64 bits
hold it, of which one is for the sign below zero. -/
def Numeral.isInteger (n : Numeral) : Bool :=
  let c := n.collected
  n.fraction.isNone && n.exponent.isNone && !c.full &&
    (!n.negative || (0 < c.significand && c.significand ≤ 0x8000000000000000))

/-- The value of a numeral; a double beyond all finite ones is no usable value. -/
def Numeral.value (n : Numeral) : Json :=
  let c := n.collected
  if n.isInteger then
    number (.int (if n.negative then -(c.significand : Int) else c.significand))
  else
    match Double.scaleDecimal n.negative c.significand (c.power + n.power) with
    | some d => number (.double d)
    | none => unusable

/-- The value that a numeral stands for, if the characters are one. -/
def ofNumeral (chars : List Char) : Option Json :=
  (Numeral.ofChars? chars).map Numeral.value

end VirtLifecycle.Json
