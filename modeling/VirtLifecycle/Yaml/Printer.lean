/-
Module: VirtLifecycle.Yaml.Printer
Purpose: Writing values as YAML documents in block style, two columns for each level. A list under a
  key is not indented further, a list or mapping within a list begins on the line of its mark, and
  empty ones are written as a pair of brackets or braces. A key that is long or has breaks is marked
  by a question mark.
Specification: [SPEC 6 External interfaces], the binary: the YAML that `print` writes of an object.
Main exports: Yaml.print, Yaml.Page
-/
import VirtLifecycle.Json.Printer
import VirtLifecycle.Yaml.ScalarText

namespace VirtLifecycle.Yaml

/-- A page that is being written. -/
structure Page where
  /-- what has been written, the latest first -/
  written : List Char
  column : Nat
  /-- whether the last thing written is a gap -/
  gap : Bool
  /-- whether there is nothing but indentation and marks in the line -/
  indented : Bool
deriving DecidableEq, Repr, Inhabited

namespace Page

def blank : Page := ⟨[], 0, true, true⟩

def put (p : Page) (c : Char) : Page :=
  { p with written := c :: p.written, column := p.column + 1 }

def putAll (p : Page) (cs : List Char) : Page := cs.foldl put p

/-- Ends the line with a break. -/
def endLine (p : Page) (c : Char) : Page :=
  { p with written := c :: p.written, column := 0 }

/-- Goes to a column, in a new line unless this one is still free up to there. -/
def indentTo (p : Page) (column : Nat) : Page :=
  let p :=
    if !p.indented || column < p.column || (p.column == column && !p.gap) then p.endLine '\n' else p
  { p.putAll (List.replicate (column - p.column) ' ') with gap := true, indented := true }

/-- Writes a mark, with a space before it if one is needed. -/
def mark (p : Page) (c : Char) (needsGap isGap isIndentation : Bool) : Page :=
  let p := if needsGap && !p.gap then p.put ' ' else p
  { p.put c with gap := isGap, indented := p.indented && isIndentation }

/-- Notes that a scalar has been written. -/
def scalarEnd (p : Page) : Page := { p with gap := false, indented := false }

def plain (p : Page) (s : List Char) : Page :=
  let p := if p.gap then p else p.put ' '
  (p.putAll s).scalarEnd

/-- The characters between single quotes; `broken` says whether a break was the last. -/
def singleQuotedChars (indent : Nat) : (broken : Bool) → List Char → Page → Page
  | broken, [], p => if broken then p.indentTo indent else p
  | broken, c :: rest, p =>
    if isBreak c then
      let p := if !broken && c == '\n' then p.endLine '\n' else p
      singleQuotedChars indent true rest { p.endLine c with indented := true }
    else
      let p := if broken && c != ' ' then p.indentTo indent else p
      let p := if c == '\'' then p.put '\'' else p
      let p := p.put c
      singleQuotedChars indent (broken && c == ' ') rest
        (if c == ' ' then p else { p with indented := false })

def singleQuoted (p : Page) (indent : Nat) (s : List Char) : Page :=
  let p := singleQuotedChars indent false s (p.mark '\'' true false false)
  (p.mark '\'' false false false).scalarEnd

def doubleQuoted (p : Page) (s : List Char) : Page :=
  let p := (p.mark '"' true false false).putAll (s.flatMap escapeChar)
  (p.mark '"' false false false).scalarEnd

/-- The columns of one level of indentation. -/
def step : Nat := 2

/-- What is written behind the mark of a block: how far it is indented, if it begins with a blank or a
break, and what becomes of the breaks at its end. -/
def blockHints (s : List Char) : List Char :=
  let indentation := if s.head?.any (fun c => c == ' ' || isBreak c) then Nat.toDigits 10 step else []
  let chomping := match s.reverse with
    | [] => ['-']
    | last :: before =>
      if !isBreak last then ['-']
      else match before with
        | [] => ['+']
        | c :: _ => if isBreak c then ['+'] else []
  indentation ++ chomping

/-- The lines of a block; `broken` says whether a break was the last. -/
def literalChars (indent : Nat) : (broken : Bool) → List Char → Page → Page
  | _, [], p => p
  | broken, c :: rest, p =>
    if isBreak c then literalChars indent true rest { p.endLine c with indented := true }
    else
      let p := if broken then p.indentTo indent else p
      literalChars indent false rest { p.put c with indented := false }

def literal (p : Page) (indent : Nat) (s : List Char) : Page :=
  let p := p.mark '|' true false false
  let p := (blockHints s).foldl (fun p c => p.mark c false false false) p
  literalChars indent true s { p.endLine '\n' with gap := true, indented := true }

/-- Writes a text as a scalar in a collection that is indented by `indent`. -/
def text (p : Page) (indent : Nat) (simpleKey : Bool) (s : List Char) : Page :=
  match Presentation.choose simpleKey s with
  | .plain => p.plain s
  | .singleQuoted => p.singleQuoted (indent + step) s
  | .doubleQuoted => p.doubleQuoted s
  | .literal => p.literal (indent + step) s

def brackets (p : Page) (left right : Char) : Page :=
  (p.mark left true true false).mark right false false false

/-- The longest key, in bytes, that is not marked. -/
def keyLimit : Nat := 128

def isSimpleKey (key : String) : Bool :=
  !(Features.ofText key.toList).hasBreaks && key.utf8ByteSize ≤ keyLimit

/-- Writes a key with its mark. -/
def key (p : Page) (indent : Nat) (key : String) : Page :=
  let p := p.indentTo indent
  if isSimpleKey key then (p.text indent true key.toList).mark ':' false false false
  else
    let p := (p.mark '?' true false true).text indent false key.toList
    (p.indentTo indent).mark ':' true false true

def number : Json.Number → List Char
  | .int n => Json.printInt n
  | .double d => d.text.toList

end Page

open Page in
mutual

/-- Writes a value. `indent` is the indentation of the collection around it, if there is one, and
`underKey` says whether that is a mapping. -/
def writeValue (value : Json) (indent : Option Nat) (underKey : Bool) (p : Page) : Page :=
  let within := indent.getD 0
  match value with
  | .null => p.plain "null".toList
  | .bool true => p.plain "true".toList
  | .bool false => p.plain "false".toList
  | .number n => p.plain (Page.number n)
  | .text s => p.text within false s.toList
  | .array [] => p.brackets '[' ']'
  | .object [] => p.brackets '{' '}'
  | .array (item :: items) =>
    let own := match indent with
      | none => 0
      | some n => if underKey && !p.indented then n else n + step
    writeItems items own (writeValue item (some own) false ((p.indentTo own).mark '-' true false true))
  | .object ((k, member) :: members) =>
    let own := match indent with
      | none => 0
      | some n => n + step
    writeMembers members own (writeValue member (some own) true (p.key own k))

/-- Writes the later items of a list. -/
def writeItems (items : List Json) (indent : Nat) (p : Page) : Page :=
  match items with
  | [] => p
  | item :: items =>
    writeItems items indent
      (writeValue item (some indent) false ((p.indentTo indent).mark '-' true false true))

/-- Writes the later members of a mapping. -/
def writeMembers (members : List (String × Json)) (indent : Nat) (p : Page) : Page :=
  match members with
  | [] => p
  | (k, member) :: members =>
    writeMembers members indent (writeValue member (some indent) true (p.key indent k))

end

/-- The text of a value as a document, which ends with a break. -/
def print (value : Json) : String :=
  String.ofList ((writeValue value none false Page.blank).indentTo 0).written.reverse

end VirtLifecycle.Yaml
