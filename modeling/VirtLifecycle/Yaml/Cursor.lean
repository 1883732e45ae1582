/-
Module: VirtLifecycle.Yaml.Cursor
Purpose: Places in the text of a YAML document. Lines are counted, and columns within them; a place
  that is no character of the text is its end. Three of the line breaks are read as one character.
Specification: [SPEC 10 Serialization]: manifests are YAML documents.
Main exports: Yaml.Place, Yaml.Cursor, Yaml.Cursor.ofText?, Yaml.isBreak, Yaml.isBlankEnd
-/

namespace VirtLifecycle.Yaml

/-- A place in a text. -/
structure Place where
  line : Nat
  column : Nat
  /-- how many characters come before -/
  index : Nat
deriving DecidableEq, Repr, Inhabited

/-- The characters that end a line: the line feed and two separators. -/
def isBreak (c : Char) : Bool :=
  c == '\n' || c == '\u2028' || c == '\u2029'

def isTabOrSpace (c : Char) : Bool :=
  c == ' ' || c == '\t'

def isWhite (c : Char) : Bool :=
  isTabOrSpace c || isBreak c

/-- Whether a text begins with a blank or a break, or is at its end. -/
def isBlankEnd : List Char → Bool
  | [] => true
  | c :: _ => isWhite c

/-- The characters of names of anchors and the like. -/
def isNameChar (c : Char) : Bool :=
  c.isAlphanum || c == '_' || c == '-'

/-- The place after a character. -/
def Place.after (p : Place) (c : Char) : Place :=
  if isBreak c then ⟨p.line + 1, 0, p.index + 1⟩ else ⟨p.line, p.column + 1, p.index + 1⟩

/-- A place and what follows. -/
structure Cursor where
  rest : List Char
  place : Place
deriving DecidableEq, Repr, Inhabited

namespace Cursor

/-- The cursor one character further. -/
def next (c : Cursor) : Cursor :=
  match c.rest with
  | [] => c
  | d :: rest => ⟨rest, c.place.after d⟩

/-- The cursor `n` characters further. -/
def skip (c : Cursor) : Nat → Cursor
  | 0 => c
  | n + 1 => c.next.skip n

/-- Goes on while a test holds. -/
def skipWhile (test : Char → Bool) : (rest : List Char) → Place → Cursor
  | [], p => ⟨[], p⟩
  | c :: rest, p => if test c then skipWhile test rest (p.after c) else ⟨c :: rest, p⟩

/-- What stands here as long as a test holds, and the cursor behind it. -/
def takeWhile (test : Char → Bool) (c : Cursor) : List Char × Cursor :=
  (c.rest.takeWhile test, skipWhile test c.rest c.place)

/-- Whether three characters stand at the start of a line, with a blank, a break or the end behind
them. -/
def atMarker (mark : Char) (rest : List Char) (p : Place) : Bool :=
  p.column == 0 && match rest with
    | a :: b :: c :: rest => a == mark && b == mark && c == mark && isBlankEnd rest
    | _ => false

/-- Whether a marker between documents stands here. -/
def atDocumentMarker (rest : List Char) (p : Place) : Bool :=
  atMarker '-' rest p || atMarker '.' rest p

/-- The characters that a document may hold. -/
def isAllowed (c : Char) : Bool :=
  let n := c.toNat
  n == 9 || n == 10 || n == 13 || (0x20 ≤ n && n ≤ 0x7E) || n == 0x85 ||
    (0xA0 ≤ n && n ≤ 0xD7FF) || (0xE000 ≤ n && n ≤ 0xFFFD) || 0x10000 ≤ n

/-- Carriage returns, alone or before a line feed, and next-line characters become line feeds. -/
def normalizeBreaks : List Char → List Char
  | '\r' :: '\n' :: rest => '\n' :: normalizeBreaks rest
  | '\r' :: rest => '\n' :: normalizeBreaks rest
  | '\u0085' :: rest => '\n' :: normalizeBreaks rest
  | c :: rest => c :: normalizeBreaks rest
  | [] => []

/-- The start of a text, if all its characters are allowed. -/
def ofText? (s : String) : Option Cursor :=
  if s.toList.all isAllowed then some ⟨normalizeBreaks s.toList, ⟨0, 0, 0⟩⟩ else none

end Cursor

end VirtLifecycle.Yaml
