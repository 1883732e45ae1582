/-
Module: VirtLifecycle.Json.Reader
Purpose: Reading JSON texts, one character at a time. The state of a reading is what may come next
  and the stack of containers around it, each with the place of one value left open. Members are
  kept in the order and with the repetitions of the text. Values nested in more than 127 containers,
  numbers beyond the doubles and texts with half a surrogate pair are read as `Json.unusable`.
Specification: [SPEC 10 Serialization]: the bodies of answers.
Main exports: Json.read?, Json.readChars?, Reading.step
-/
import VirtLifecycle.Json.Numeral

namespace VirtLifecycle.Json

/-- A container with one value still to come. Lists hold the latest entry first. -/
inductive Frame where
  | items (before : List Json)
  | member (before : List (String × Json)) (key : String)
deriving Repr, Inhabited

/-- How far an escape sequence in a text has been read. -/
inductive Escape where
  | none
  /-- after a backslash -/
  | mark
  /-- after a backslash and the letter u, with the digits still to come and the value so far -/
  | digits (left value : Nat)
  /-- after the first half of a surrogate pair -/
  | half (high : Nat)
  /-- after the first half of a surrogate pair and a backslash -/
  | halfMark (high : Nat)
  /-- within the second half of a surrogate pair -/
  | halfDigits (high left value : Nat)
deriving DecidableEq, Repr, Inhabited

/-- The part of a text that has been read: its characters, the latest first, and whether each escape
in it stood for a character. -/
structure Span where
  read : List Char
  sound : Bool
deriving DecidableEq, Repr, Inhabited

/-- What may come next. -/
inductive Expect where
  | value
  | firstItem
  | itemEnd (before : List Json)
  | firstKey
  | nextKey (before : List (String × Json))
  | colon (before : List (String × Json)) (key : String)
  | memberEnd (before : List (String × Json))
  | finished (value : Json)
  | text (span : Span) (escape : Escape)
  | keyText (before : List (String × Json)) (span : Span) (escape : Escape)
  | numeral (read : List Char)
  | word (rest : List Char) (value : Json)
deriving Repr, Inhabited

/-- A text read up to some place. -/
structure Reading where
  around : List Frame
  expect : Expect
deriving Repr, Inhabited

/-- The number of containers around a value from which on it cannot be used. -/
def depthLimit : Nat := 127

namespace Reading

def start : Reading := ⟨[], .value⟩

/-- Goes on after a complete value. -/
def deliver (around : List Frame) (value : Json) : Reading :=
  match around with
  | [] => ⟨[], .finished value⟩
  | .items before :: outer => ⟨outer, .itemEnd (value :: before)⟩
  | .member before key :: outer => ⟨outer, .memberEnd ((key, value) :: before)⟩

/-- Goes on after a complete container. -/
def close (around : List Frame) (value : Json) : Reading :=
  deliver around (if depthLimit ≤ around.length then unusable else value)

def isSpace (c : Char) : Bool :=
  c == ' ' || c == '\n' || c == '\t' || c == '\r'

def isNumeralChar (c : Char) : Bool :=
  c.isDigit || c == '-' || c == '+' || c == '.' || c == 'e' || c == 'E'

/-- The first character of a value. -/
def begin? (around : List Frame) (c : Char) : Option Reading :=
  match c with
  | '[' => some ⟨around, .firstItem⟩
  | '{' => some ⟨around, .firstKey⟩
  | '"' => some ⟨around, .text ⟨[], true⟩ .none⟩
  | 'n' => some ⟨around, .word ['u', 'l', 'l'] null⟩
  | 't' => some ⟨around, .word ['r', 'u', 'e'] (bool true)⟩
  | 'f' => some ⟨around, .word ['a', 'l', 's', 'e'] (bool false)⟩
  | c => if c.isDigit || c == '-' then some ⟨around, .numeral [c]⟩ else none

/-- A character where only the end of a container, a comma or the end of the text may stand. -/
def afterValue (around : List Frame) (expect : Expect) (c : Char) : Option Reading :=
  match expect, c with
  | .itemEnd before, ']' => some (close around (array before.reverse))
  | .itemEnd before, ',' => some ⟨.items before :: around, .value⟩
  | .memberEnd before, '}' => some (close around (object before.reverse))
  | .memberEnd before, ',' => some ⟨around, .nextKey before⟩
  | _, _ => none

def hexValue? (c : Char) : Option Nat :=
  if c.isDigit then some (c.toNat - '0'.toNat)
  else if 'a' ≤ c ∧ c ≤ 'f' then some (c.toNat - 'a'.toNat + 10)
  else if 'A' ≤ c ∧ c ≤ 'F' then some (c.toNat - 'A'.toNat + 10)
  else none

def isHighHalf (n : Nat) : Bool := 0xD800 ≤ n && n < 0xDC00
def isLowHalf (n : Nat) : Bool := 0xDC00 ≤ n && n < 0xE000

def Span.push (s : Span) (c : Char) : Span := { s with read := c :: s.read }
def Span.spoil (s : Span) : Span := { s with sound := false }

/-- The character after a backslash. -/
def escape? (s : Span) (c : Char) : Option (Span × Escape) :=
  match c with
  | '"' => some (Span.push s '"', .none)
  | '\\' => some (Span.push s '\\', .none)
  | '/' => some (Span.push s '/', .none)
  | 'b' => some (Span.push s '\x08', .none)
  | 'f' => some (Span.push s '\x0c', .none)
  | 'n' => some (Span.push s '\n', .none)
  | 'r' => some (Span.push s '\r', .none)
  | 't' => some (Span.push s '\t', .none)
  | 'u' => some (s, .digits 4 0)
  | _ => none

/-- A character within a text, its closing quote apart. -/
def inText? (s : Span) (escape : Escape) (c : Char) : Option (Span × Escape) :=
  match escape with
  | .none =>
    if c = '\\' then some (s, .mark)
    else if c.toNat < 0x20 then none
    else some (Span.push s c, .none)
  | .mark => escape? s c
  | .digits left value => do
    let digit ← hexValue? c
    let value := value * 16 + digit
    if 1 < left then some (s, .digits (left - 1) value)
    else if isHighHalf value then some (s, .half value)
    else if isLowHalf value then some (Span.spoil s, .none)
    else some (Span.push s (Char.ofNat value), .none)
  | .half high =>
    if c = '\\' then some (s, .halfMark high)
    else if c.toNat < 0x20 then none
    else some (Span.spoil (Span.push s c), .none)
  | .halfMark high =>
    if c = 'u' then some (s, .halfDigits high 4 0) else escape? (Span.spoil s) c
  | .halfDigits high left value => do
    let digit ← hexValue? c
    let value := value * 16 + digit
    if 1 < left then some (s, .halfDigits high (left - 1) value)
    else if isLowHalf value then
      some (Span.push s (Char.ofNat (0x10000 + (high - 0xD800) * 0x400 + (value - 0xDC00))), .none)
    else some (Span.spoil s, .none)

/-- Whether a quote ends the text here. -/
def endsAt (escape : Escape) (c : Char) : Bool :=
  c == '"' && match escape with
    | .none => true
    | .half _ => true
    | _ => false

/-- The text that has been read, if all its escapes stand for characters. -/
def Span.text? (s : Span) (escape : Escape) : Option String :=
  if s.sound && escape == .none then some (String.ofList s.read.reverse) else none

/-- One character further. -/
def step (r : Reading) (c : Char) : Option Reading :=
  match r.expect with
  | .value => if isSpace c then some r else begin? r.around c
  | .firstItem =>
    if isSpace c then some r
    else if c = ']' then some (close r.around (array []))
    else begin? (.items [] :: r.around) c
  | .itemEnd before => if isSpace c then some r else afterValue r.around (.itemEnd before) c
  | .firstKey =>
    if isSpace c then some r
    else if c = '}' then some (close r.around (object []))
    else if c = '"' then some { r with expect := .keyText [] ⟨[], true⟩ .none }
    else none
  | .nextKey before =>
    if isSpace c then some r
    else if c = '"' then some { r with expect := .keyText before ⟨[], true⟩ .none }
    else none
  | .colon before key =>
    if isSpace c then some r
    else if c = ':' then some ⟨.member before key :: r.around, .value⟩
    else none
  | .memberEnd before => if isSpace c then some r else afterValue r.around (.memberEnd before) c
  | .finished _ => if isSpace c then some r else none
  | .text span escape =>
    if endsAt escape c then
      some (deliver r.around (((Span.text? span escape).map Json.text).getD unusable))
    else (inText? span escape c).map fun (span, escape) => { r with expect := .text span escape }
  | .keyText before span escape =>
    if endsAt escape c then
      (Span.text? span escape).map fun key => { r with expect := .colon before key }
    else
      (inText? span escape c).map fun (span, escape) =>
        { r with expect := .keyText before span escape }
  | .numeral read =>
    if isNumeralChar c then some { r with expect := .numeral (c :: read) }
    else do
      let value ← ofNumeral read.reverse
      let next := deliver r.around value
      if isSpace c then some next else afterValue next.around next.expect c
  | .word rest value =>
    match rest with
    | [] => none
    | [last] => if c = last then some (deliver r.around value) else none
    | next :: rest => if c = next then some { r with expect := .word rest value } else none

/-- The value of a text that ends here. -/
def result? (r : Reading) : Option Json :=
  match r.around, r.expect with
  | [], .finished value => some value
  | [], .numeral read => ofNumeral read.reverse
  | _, _ => none

end Reading

/-- The value of a text given as characters. -/
def readChars? (chars : List Char) : Option Json :=
  (chars.foldlM Reading.step Reading.start).bind Reading.result?

/-- The value of a text, if it is a JSON text. -/
def read? (s : String) : Option Json :=
  readChars? s.toList

end VirtLifecycle.Json
