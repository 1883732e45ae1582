/-
Module: VirtLifecycle.Yaml.Token.Names
Purpose: Reading what names things in a YAML text: anchors and aliases, tags, and the directives
  before a document.
Specification: [SPEC 10 Serialization]: manifests are YAML documents.
Main exports: Yaml.Scan.anchorName?, Yaml.Scan.tag?, Yaml.Scan.directive?
-/
import VirtLifecycle.Yaml.Token
import VirtLifecycle.Yaml.Token.Scalars

namespace VirtLifecycle.Yaml.Scan

/-- Reads the name of an anchor. -/
def anchorName? (c : Cursor) : Option (String × Cursor) :=
  let (name, c) := c.takeWhile isNameChar
  let ends := isBlankEnd c.rest || match c.rest with
    | d :: _ => d ∈ ['?', ':', ',', ']', '}', '%', '@', '\x60']
    | [] => true
  if name.isEmpty || !ends then none else some (String.ofList name, c)

/-- The characters of an address that stand for themselves. -/
def isAddressChar (verbatim : Bool) (c : Char) : Bool :=
  isNameChar c ||
    c ∈ [';', '/', '?', ':', '@', '&', '=', '+', '$', '.', '!', '~', '*', '\'', '(', ')'] ||
    (verbatim && (c == ',' || c == '[' || c == ']'))

/-- How many bytes a character has that begins with the given one, if one can. -/
def byteCount? (first : Nat) : Option Nat :=
  if first < 0x80 then some 1
  else if 0xC0 ≤ first ∧ first < 0xE0 then some 2
  else if 0xE0 ≤ first ∧ first < 0xF0 then some 3
  else if 0xF0 ≤ first ∧ first < 0xF8 then some 4
  else none

/-- The bytes of an address: each character's own, and those told by a percent sign with two digits.
What is told has to make up whole characters. -/
def addressBytes? : List Char → (wanted : Nat) → Option (List UInt8)
  | [], wanted => if wanted = 0 then some [] else none
  | '%' :: a :: b :: rest, wanted => do
    let high ← hexValue? a
    let low ← hexValue? b
    let byte := high * 16 + low
    let wanted ←
      if wanted = 0 then (byteCount? byte).map (· - 1)
      else if 0x80 ≤ byte ∧ byte < 0xC0 then some (wanted - 1)
      else none
    let bytes ← addressBytes? rest wanted
    some (UInt8.ofNat byte :: bytes)
  | c :: rest, wanted => do
    if wanted ≠ 0 || c == '%' then none
    let bytes ← addressBytes? rest 0
    some ((String.ofList [c]).toUTF8.toList ++ bytes)

/-- Reads an address that begins with what has been read already. It is not empty. -/
def address? (verbatim : Bool) (front : List Char) (c : Cursor) : Option (String × Cursor) := do
  let (chars, c) := c.takeWhile fun d => isAddressChar verbatim d || d == '%'
  if front.isEmpty && chars.isEmpty then none
  let bytes ← addressBytes? chars 0
  let text ← String.fromUTF8? (ByteArray.mk bytes.toArray)
  some (String.ofList (front.drop 1) ++ text, c)

/-- Reads a handle: an exclamation mark, or a name between two of them. -/
def handle? (c : Cursor) : Option (List Char × Cursor) :=
  match c.rest with
  | '!' :: _ =>
    let (name, c) := c.next.takeWhile isNameChar
    match c.rest with
    | '!' :: _ => some ('!' :: (name ++ ['!']), c.next)
    | _ => some ('!' :: name, c)
  | _ => none

/-- Whether a handle ends with a mark of its own. -/
def isClosedHandle (handle : List Char) : Bool :=
  1 < handle.length && handle.getLast? == some '!'

/-- Reads a tag as handle and suffix. An empty handle goes with a complete tag. -/
def tag? (flow : Bool) (c : Cursor) : Option (String × String × Cursor) := do
  let (handle, suffix, c) ←
    match c.rest with
    | '!' :: '<' :: _ => do
      let (suffix, c) ← address? true [] (c.skip 2)
      match c.rest with
      | '>' :: _ => some ("", suffix, c.next)
      | _ => none
    | _ => do
      let (handle, c) ← handle? c
      if isClosedHandle handle then
        let (suffix, c) ← address? false [] c
        some (String.ofList handle, suffix, c)
      else
        let (suffix, c) ← address? false handle c
        if suffix.isEmpty then some ("", "!", c) else some ("!", suffix, c)
  if isBlankEnd c.rest || (flow && c.rest.head? == some ',') then some (handle, suffix, c) else none

/-- The most digits of a version number. -/
def versionDigits : Nat := 9

def versionNumber? (c : Cursor) : Option (Nat × Cursor) :=
  let (digits, c) := c.takeWhile Char.isDigit
  if digits.isEmpty || versionDigits < digits.length then none
  else some (digits.foldl (fun n d => n * 10 + (d.toNat - '0'.toNat)) 0, c)

def skipBlanks (c : Cursor) : Cursor :=
  (c.takeWhile isTabOrSpace).2

/-- Reads a directive after its percent sign, to the end of the line. -/
def directive? (c : Cursor) : Option (Token × Cursor) := do
  let (name, c) := c.takeWhile isNameChar
  if name.isEmpty || !isBlankEnd c.rest then none
  let (token, c) ←
    match String.ofList name with
    | "YAML" => do
      let (major, c) ← versionNumber? (skipBlanks c)
      if c.rest.head? ≠ some '.' then none
      let (minor, c) ← versionNumber? c.next
      some (Token.version major minor, c)
    | "TAG" => do
      let (handle, c) ← handle? (skipBlanks c)
      if handle ≠ ['!'] ∧ ¬ isClosedHandle handle then none
      if !(c.rest.head?.any isTabOrSpace) then none
      let (expansion, c) ← address? true [] (skipBlanks c)
      if !isBlankEnd c.rest then none
      some (Token.tagShorthand (String.ofList handle) expansion, c)
    | _ => none
  let c ← lineEnd? c
  some (token, c)

end VirtLifecycle.Yaml.Scan
