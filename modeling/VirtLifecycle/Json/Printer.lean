/-
Module: VirtLifecycle.Json.Printer
Purpose: Compact JSON text: no blanks, members in the order they are held. A quote, a backslash and
  the control characters are escaped, all other characters stand for themselves.
Specification: [SPEC 10 Serialization]: the bodies of requests.
Main exports: Json.print, Json.printOnto
-/
import VirtLifecycle.Json.Basic
import VirtLifecycle.Text.Quoted

namespace VirtLifecycle.Json

/-- How one character stands in a JSON text. -/
def escapeChar (c : Char) : List Char :=
  if c = '"' ∨ c = '\\' then ['\\', c]
  else if c = '\n' then ['\\', 'n']
  else if c = '\r' then ['\\', 'r']
  else if c = '\t' then ['\\', 't']
  else if c.toNat = 8 then ['\\', 'b']
  else if c.toNat = 12 then ['\\', 'f']
  else if c.toNat < 16 then ['\\', 'u', '0', '0', '0'] ++ Text.hexDigits c.toNat
  else if c.toNat < 32 then ['\\', 'u', '0', '0'] ++ Text.hexDigits c.toNat
  else [c]

def printText (s : String) : List Char :=
  '"' :: (s.toList.flatMap escapeChar ++ ['"'])

/-- The text of an integer in decimal. -/
def printInt (value : Int) : List Char :=
  match value with
  | .ofNat n => Nat.toDigits 10 n
  | .negSucc n => '-' :: Nat.toDigits 10 (n + 1)

def Number.print : Number → List Char
  | .int value => printInt value
  | .double value => if value.isFinite then value.text.toList else ['n', 'u', 'l', 'l']

mutual

/-- The text of a value as characters, put in front of `rest`. -/
def printOnto (value : Json) (rest : List Char) : List Char :=
  match value with
  | null => 'n' :: 'u' :: 'l' :: 'l' :: rest
  | bool true => 't' :: 'r' :: 'u' :: 'e' :: rest
  | bool false => 'f' :: 'a' :: 'l' :: 's' :: 'e' :: rest
  | number n => n.print ++ rest
  | text s => printText s ++ rest
  | array [] => '[' :: ']' :: rest
  | array (item :: items) => '[' :: printOnto item (printItems items rest)
  | object [] => '{' :: '}' :: rest
  | object ((key, member) :: members) =>
    '{' :: (printText key ++ ':' :: printOnto member (printMembers members rest))

/-- The later items of an array and its closing bracket. -/
def printItems (items : List Json) (rest : List Char) : List Char :=
  match items with
  | [] => ']' :: rest
  | item :: items => ',' :: printOnto item (printItems items rest)

/-- The later members of an object and its closing brace. -/
def printMembers (members : List (String × Json)) (rest : List Char) : List Char :=
  match members with
  | [] => '}' :: rest
  | (key, member) :: members =>
    ',' :: (printText key ++ ':' :: printOnto member (printMembers members rest))

end

/-- The compact text of a value. -/
def print (value : Json) : String :=
  String.ofList (printOnto value [])

end VirtLifecycle.Json
