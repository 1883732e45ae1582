/-
Module: VirtLifecycle.Decimal.Count
Purpose: Numbers without sign as people type them: decimal digits, perhaps a plus sign in front, and
  of 64 bits. A text that is none is faulty in its first place that is: a character that is no
  digit, or the digit with which the number becomes too large.
Specification: [SPEC 10 Configuration]: how `parse_secs` and the command line read an unsigned number of
  64 bits.
Main exports: Count.ofText, Count.Fault, Count.Fault.message
-/

namespace VirtLifecycle.Count

/-- Why a text is no number. -/
inductive Fault where
  | empty
  | invalidDigit
  | tooLarge
deriving DecidableEq, Repr, Inhabited

def Fault.message : Fault → String
  | empty => "cannot parse integer from empty string"
  | invalidDigit => "invalid digit found in string"
  | tooLarge => "number too large to fit in target type"

/-- The first number that is too large. -/
def limit : Nat := 0x10000000000000000

/-- The number that goes on with the digits of a text. -/
def ofDigits (value : Nat) : List Char → Except Fault Nat
  | [] => .ok value
  | c :: rest =>
    if c.isDigit then
      let next := value * 10 + (c.toNat - '0'.toNat)
      if next < limit then ofDigits next rest else .error .tooLarge
    else .error .invalidDigit

/-- The number that a text stands for. -/
def ofChars : List Char → Except Fault Nat
  | [] => .error .empty
  | ['+'] => .error .invalidDigit
  | '+' :: digits => ofDigits 0 digits
  | digits => ofDigits 0 digits

def ofText (s : String) : Except Fault Nat := ofChars s.toList

/-- The digits of a number. -/
def text (n : Nat) : String := String.ofList (Nat.toDigits 10 n)

end VirtLifecycle.Count
