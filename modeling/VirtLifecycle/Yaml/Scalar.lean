/-
Module: VirtLifecycle.Yaml.Scalar
Purpose: What an unquoted scalar of a YAML document stands for: nothing, a truth value, an integer of
  64 bits, a double, or else the text itself. Digits with a zero in front are a text. An integer that
  needs more than 64 bits but fits 128 is refused.
Specification: [SPEC 10 Serialization]: manifests are YAML documents.
Main exports: Yaml.Scalar, Yaml.Scalar.ofPlain, Yaml.bool?, Yaml.isNullWord, Yaml.double?, Yaml.integer?
-/
import VirtLifecycle.Decimal.Shortest

namespace VirtLifecycle.Yaml

/-- The value of a scalar. -/
inductive Scalar where
  | null
  | bool (value : Bool)
  | int (value : Int)
  | double (value : Double)
  | text (value : String)
  /-- an integer of more than 64 and at most 128 bits -/
  | tooLong
deriving DecidableEq, Repr, Inhabited

def isNullWord (s : List Char) : Bool :=
  s ∈ ["null", "Null", "NULL", "~"].map String.toList

def bool? (s : List Char) : Option Bool :=
  if s ∈ ["true", "True", "TRUE"].map String.toList then some true
  else if s ∈ ["false", "False", "FALSE"].map String.toList then some false
  else none

/-- The value of a digit in a base up to sixteen. -/
def digit? (base : Nat) (c : Char) : Option Nat :=
  let value? : Option Nat :=
    if c.isDigit then some (c.toNat - '0'.toNat)
    else if 'a' ≤ c ∧ c ≤ 'f' then some (c.toNat - 'a'.toNat + 10)
    else if 'A' ≤ c ∧ c ≤ 'F' then some (c.toNat - 'A'.toNat + 10)
    else none
  value?.filter (· < base)

/-- The value of one digit or more. -/
def natural? (base : Nat) (digits : List Char) : Option Nat :=
  if digits.isEmpty then none
  else digits.foldlM (fun value c => (digit? base c).map (value * base + ·)) 0

/-- More than one digit, the first a zero, perhaps after a sign. -/
def isZeroLed (s : List Char) : Bool :=
  let unsigned := match s with
    | '-' :: rest | '+' :: rest => rest
    | rest => rest
  1 < unsigned.length && unsigned.head? == some '0' && unsigned.all Char.isDigit

/-- A number after its sign, in the base that its first two characters tell. -/
def magnitude? (unsigned : List Char) : Option Nat :=
  match unsigned with
  | '0' :: 'x' :: digits => natural? 16 digits
  | '0' :: 'o' :: digits => natural? 8 digits
  | '0' :: 'b' :: digits => natural? 2 digits
  | digits => natural? 10 digits

/-- The integer that a text stands for, of any size. -/
def integer? (s : List Char) : Option Int :=
  if isZeroLed s then none
  else
    match s with
    | '-' :: unsigned => (magnitude? unsigned).map fun n => -(n : Int)
    | '+' :: unsigned => (magnitude? unsigned).map fun n => (n : Int)
    | unsigned => (magnitude? unsigned).map fun n => (n : Int)

/-- An exponent, with its mark. -/
def exponent? : List Char → Option Int
  | [] => some 0
  | mark :: rest =>
    if mark = 'e' ∨ mark = 'E' then
      match rest with
      | '-' :: digits => (natural? 10 digits).map fun n => -(n : Int)
      | '+' :: digits => (natural? 10 digits).map fun n => (n : Int)
      | digits => (natural? 10 digits).map fun n => (n : Int)
    else none

/-- A decimal number: digits, perhaps with a point before, among or after them, and perhaps an
exponent. It has to be finite as a double. -/
def decimal? (negative : Bool) (unsigned : List Char) : Option Double := do
  let whole := unsigned.takeWhile Char.isDigit
  let rest := unsigned.dropWhile Char.isDigit
  let (fraction, rest) : List Char × List Char := match rest with
    | '.' :: more => (more.takeWhile Char.isDigit, more.dropWhile Char.isDigit)
    | rest => ([], rest)
  let digits ← natural? 10 (whole ++ fraction)
  let exponent ← exponent? rest
  let value := Double.ofDecimal negative digits (exponent - fraction.length)
  if value.isFinite then some value else none

/-- The double that a text stands for. -/
def double? (s : List Char) : Option Double :=
  let infinite := [".inf", ".Inf", ".INF"].map String.toList
  let undefined := [".nan", ".NaN", ".NAN"].map String.toList
  match s with
  | '-' :: unsigned =>
    if unsigned ∈ infinite then some (Double.infinity true) else decimal? true unsigned
  | '+' :: unsigned =>
    if unsigned ∈ infinite then some (Double.infinity false) else decimal? false unsigned
  | unsigned =>
    if unsigned ∈ infinite then some (Double.infinity false)
    else if unsigned ∈ undefined then some Double.notANumber
    else decimal? false unsigned

/-- How an integer is kept: in 64 bits, signed only below zero. -/
def ofInteger (n : Int) : Option Scalar :=
  if -0x8000000000000000 ≤ n ∧ n < 0x10000000000000000 then some (.int n)
  else if -0x80000000000000000000000000000000 ≤ n ∧ n < 0x100000000000000000000000000000000 then
    some .tooLong
  else none

/-- The value of an unquoted scalar. -/
def Scalar.ofPlain (s : List Char) : Scalar :=
  if s.isEmpty ∨ isNullWord s then .null
  else
    match bool? s with
    | some b => .bool b
    | none =>
      match (integer? s).bind ofInteger with
      | some scalar => scalar
      | none =>
        if isZeroLed s then .text (String.ofList s)
        else
          match double? s with
          | some d => .double d
          | none => .text (String.ofList s)

/-- Whether an unquoted text would be read as something else than itself. -/
def isAmbiguous (s : List Char) : Bool :=
  isZeroLed s || Scalar.ofPlain s != .text (String.ofList s)

end VirtLifecycle.Yaml
