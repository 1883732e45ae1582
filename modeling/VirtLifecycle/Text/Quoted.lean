/-
Module: VirtLifecycle.Text.Quoted
Purpose: Texts in double quotes, as error messages show labels and values. A quote and a backslash
  are escaped by a backslash, four control characters have a letter of their own, and every other
  character that would not be visible by itself is written as its code point in hexadecimal.
Specification: [SPEC 7 Error handling design]: labels and values in messages are shown escaped.
Main exports: hexDigits, escapeChar, quote, quoteList
-/
import VirtLifecycle.Text.Hidden

namespace VirtLifecycle.Text

/-- The hexadecimal digits of a number, in lower case and without leading zeros. -/
def hexDigits (n : Nat) : List Char :=
  Nat.toDigits 16 n

/-- How one character stands between quotes. -/
def escapeChar (c : Char) : List Char :=
  if c = '"' ∨ c = '\\' then ['\\', c]
  else if c = '\n' then ['\\', 'n']
  else if c = '\r' then ['\\', 'r']
  else if c = '\t' then ['\\', 't']
  else if c.toNat = 0 then ['\\', '0']
  else if isHidden c then ['\\', 'u', '\x7b'] ++ hexDigits c.toNat ++ ['\x7d']
  else [c]

/-- A text between quotes. -/
def quote (s : String) : String :=
  String.ofList ('"' :: (s.toList.flatMap escapeChar ++ ['"']))

/-- A list of texts: each between quotes, all between brackets. -/
def quoteList (items : List String) : String :=
  "[" ++ String.intercalate ", " (items.map quote) ++ "]"

end VirtLifecycle.Text
