/-
Module: VirtLifecycle.Yaml.Token.Stream
Purpose: Cutting a YAML text into tokens. Indentation opens and closes blocks. What may turn out to be
  a key is remembered until a colon follows on the same line, and then gets its mark in front, which
  may also open a block.
Specification: [SPEC 10 Serialization]: manifests are YAML documents.
Main exports: Yaml.Token.stream?, Yaml.Scan.State, Yaml.Scan.fetch?
-/
import VirtLifecycle.Yaml.Token.Names

namespace VirtLifecycle.Yaml.Scan

/-- A place at which a key may have begun. -/
structure KeyMark where
  /-- whether nothing but a key can stand there -/
  required : Bool
  /-- the number of tokens before it -/
  tokenNumber : Nat
  place : Place
deriving DecidableEq, Repr, Inhabited

/-- A text that has been cut into tokens up to some place. -/
structure State where
  at_ : Cursor
  /-- the tokens so far, latest first -/
  tokens : List Token
  /-- for each enclosing flow collection, and for the block around all of them, where its key may
  have begun; innermost first -/
  keys : List (Option KeyMark)
  /-- the indentation of the innermost block, and of those around it -/
  indent : Int
  outer : List Int
  /-- whether a key may begin here -/
  keyAllowed : Bool
deriving Repr, Inhabited

namespace State

def start (c : Cursor) : State := ⟨c, [], [none], -1, [], true⟩

/-- Whether this is within a flow collection. -/
def inFlow (s : State) : Bool := 1 < s.keys.length

def column (s : State) : Nat := s.at_.place.column

def emit (s : State) (t : Token) : State := { s with tokens := t :: s.tokens }

/-- Puts a token in where there are `number` tokens before it. -/
def emitAt (s : State) (number : Nat) (t : Token) : State :=
  let later := s.tokens.length - number
  { s with tokens := s.tokens.take later ++ t :: s.tokens.drop later }

def moveTo (s : State) (c : Cursor) : State := { s with at_ := c }

/-- How far from its beginning a key can end. -/
def keyLimit : Nat := 1024

/-- Forgets possible keys that are too far away; a required one must not be. -/
def dropStaleKeys? (s : State) : Option State := do
  let keys ← s.keys.mapM fun key =>
    match key with
    | none => some none
    | some mark =>
      if mark.place.line < s.at_.place.line || mark.place.index + keyLimit < s.at_.place.index then
        if mark.required then none else some none
      else some (some mark)
  some { s with keys := keys }

/-- Closes the blocks that are indented by more than a column. -/
def unroll (s : State) (column : Int) : State :=
  if s.inFlow then s else go s.outer s
where
  go : List Int → State → State
  | [], s => if column < s.indent then { s.emit .blockEnd with indent := -1, outer := [] } else s
  | next :: outer, s =>
    if column < s.indent then go outer { s.emit .blockEnd with indent := next, outer := outer } else s

/-- Opens a block if this is indented by more than the innermost one. -/
def roll (s : State) (column : Nat) (number : Option Nat) (t : Token) : State :=
  if s.inFlow || column ≤ s.indent then s
  else
    let s := { s with outer := s.indent :: s.outer, indent := column }
    match number with
    | some n => s.emitAt n t
    | none => s.emit t

/-- Forgets the possible key here; it must not be required. -/
def removeKey? (s : State) : Option State :=
  match s.keys with
  | some mark :: rest => if mark.required then none else some { s with keys := none :: rest }
  | _ => some s

/-- Remembers that a key may begin here. -/
def saveKey? (s : State) : Option State := do
  if s.keyAllowed then
    let required := !s.inFlow && s.indent == s.column
    let s ← s.removeKey?
    some { s with keys := some ⟨required, s.tokens.length, s.at_.place⟩ :: s.keys.drop 1 }
  else some s

def allowKey (s : State) (allowed : Bool) : State := { s with keyAllowed := allowed }

end State

/-- Skips blanks, comments and breaks. In block context a key may begin after a break, and tabs are
blanks only where no key may begin. -/
def toNextToken (flow : Bool) :
    (rest : List Char) → Place → (comment keyAllowed : Bool) → Cursor × Bool
  | [], p, _, keyAllowed => (⟨[], p⟩, keyAllowed)
  | c :: rest, p, comment, keyAllowed =>
    if isBreak c then toNextToken flow rest (p.after c) false (keyAllowed || !flow)
    else if comment then toNextToken flow rest (p.after c) true keyAllowed
    else if (c == '\ufeff' && p.column == 0) || c == ' ' || (c == '\t' && (flow || !keyAllowed)) then
      toNextToken flow rest (p.after c) false keyAllowed
    else if c == '#' then toNextToken flow rest (p.after c) true keyAllowed
    else (⟨c :: rest, p⟩, keyAllowed)

namespace State

/-- The end of the text closes all blocks. -/
def finish? (s : State) : Option State := do
  let s ← (s.unroll (-1)).removeKey?
  some ((s.allowKey false).emit .streamEnd)

/-- A marker between documents, of three characters. -/
def documentMarker? (s : State) (t : Token) : Option State := do
  let s ← (s.unroll (-1)).removeKey?
  some (((s.allowKey false).moveTo (s.at_.skip 3)).emit t)

def directive? (s : State) : Option State := do
  let s ← (s.unroll (-1)).removeKey?
  let (token, c) ← Scan.directive? s.at_.next
  some (((s.allowKey false).moveTo c).emit token)

def flowStart? (s : State) (t : Token) : Option State := do
  let s ← s.saveKey?
  some ({ s with keys := none :: s.keys, keyAllowed := true, at_ := s.at_.next }.emit t)

def flowEnd? (s : State) (t : Token) : Option State := do
  let s ← s.removeKey?
  let keys := if s.inFlow then s.keys.drop 1 else s.keys
  some ({ s with keys := keys, keyAllowed := false, at_ := s.at_.next }.emit t)

def flowEntry? (s : State) : Option State := do
  let s ← s.removeKey?
  some ({ s with keyAllowed := true, at_ := s.at_.next }.emit .flowEntry)

def blockEntry? (s : State) : Option State := do
  if !s.inFlow && !s.keyAllowed then none
  let s ← (s.roll s.column none .blockSequenceStart).removeKey?
  some ({ s with keyAllowed := true, at_ := s.at_.next }.emit .blockEntry)

def key? (s : State) : Option State := do
  if !s.inFlow && !s.keyAllowed then none
  let s ← (s.roll s.column none .blockMappingStart).removeKey?
  some ({ s with keyAllowed := !s.inFlow, at_ := s.at_.next }.emit .key)

/-- A colon. If a key may have begun before, its mark is put in there. -/
def value? (s : State) : Option State :=
  match s.keys with
  | some mark :: rest =>
    let s := (s.emitAt mark.tokenNumber .key).roll mark.place.column (some mark.tokenNumber)
      .blockMappingStart
    some ({ s with keys := none :: rest, keyAllowed := false, at_ := s.at_.next }.emit .value)
  | _ =>
    if !s.inFlow && !s.keyAllowed then none
    else
      let s := s.roll s.column none .blockMappingStart
      some ({ s with keyAllowed := !s.inFlow, at_ := s.at_.next }.emit .value)

def anchor? (s : State) (token : String → Token) : Option State := do
  let s ← s.saveKey?
  let (name, c) ← anchorName? s.at_.next
  some (((s.allowKey false).moveTo c).emit (token name))

def tag? (s : State) : Option State := do
  let s ← s.saveKey?
  let (handle, suffix, c) ← Scan.tag? s.inFlow s.at_
  some (((s.allowKey false).moveTo c).emit (.tag handle suffix))

def block? (s : State) (folded : Bool) : Option State := do
  let s ← s.removeKey?
  let read ← Scan.block? folded s.indent s.at_.next
  some (((s.allowKey true).moveTo read.after).emit
    (.scalar read.text (if folded then .folded else .literal)))

def quoted? (s : State) (double : Bool) : Option State := do
  let s ← s.saveKey?
  let c := s.at_.next
  let read ← Scan.quoted? double c.rest c.place [] Gap.empty .char
  some (((s.allowKey false).moveTo read.after).emit
    (.scalar read.text (if double then .doubleQuoted else .singleQuoted)))

def plain? (s : State) : Option State := do
  let s ← s.saveKey?
  let read ← Scan.plain? s.inFlow (s.indent + 1) s.at_.rest s.at_.place [] Gap.empty
  some (((s.allowKey read.broken).moveTo read.after).emit (.scalar read.text .plain))

end State

/-- Whether an unquoted scalar may begin with this character. -/
def beginsPlain (flow : Bool) (c : Char) (rest : List Char) : Bool :=
  let blankNext := rest.head?.any isTabOrSpace
  if c == '-' then !blankNext
  else if c == '?' || c == ':' then !flow && !isBlankEnd rest
  else
    !(c ∈ [',', '[', ']', '{', '}', '#', '&', '*', '!', '|', '>', '\'', '"', '%', '@', '\x60']) &&
      !isWhite c

/-- Reads the token that begins with `d` here. -/
def State.fetchAt? (s : State) (d : Char) (rest : List Char) : Option State :=
  let c := s.at_
  let flow := s.inFlow
  if c.place.column == 0 && d == '%' then s.directive?
  else if Cursor.atMarker '-' c.rest c.place then s.documentMarker? .documentStart
  else if Cursor.atMarker '.' c.rest c.place then s.documentMarker? .documentEnd
  else if d == '[' then s.flowStart? .flowSequenceStart
  else if d == '{' then s.flowStart? .flowMappingStart
  else if d == ']' then s.flowEnd? .flowSequenceEnd
  else if d == '}' then s.flowEnd? .flowMappingEnd
  else if d == ',' then s.flowEntry?
  else if d == '-' && isBlankEnd rest then s.blockEntry?
  else if d == '?' && (flow || isBlankEnd rest) then s.key?
  else if d == ':' && (flow || isBlankEnd rest) then s.value?
  else if d == '*' then s.anchor? .reference
  else if d == '&' then s.anchor? .anchor
  else if d == '!' then s.tag?
  else if d == '|' && !flow then s.block? false
  else if d == '>' && !flow then s.block? true
  else if d == '\'' then s.quoted? false
  else if d == '"' then s.quoted? true
  else if beginsPlain flow d rest then s.plain?
  else none

/-- Reads the next token, and with it those of blocks that end or begin here. -/
def fetch? (s : State) : Option State := do
  let (c, keyAllowed) := toNextToken s.inFlow s.at_.rest s.at_.place false s.keyAllowed
  let s ← { s with at_ := c, keyAllowed := keyAllowed }.dropStaleKeys?
  match c.rest with
  | [] => s.finish?
  | d :: rest => (s.unroll c.place.column).fetchAt? d rest

/-- Reads tokens up to the end of the text, in at most `turns` turns. -/
def fetchAll? : (turns : Nat) → State → Option (List Token)
  | 0, _ => none
  | turns + 1, s => do
    let s ← fetch? s
    match s.tokens with
    | .streamEnd :: _ => some s.tokens.reverse
    | _ => fetchAll? turns s

end Scan

/-- The tokens of a text. Each turn reads a character at least, so there are enough turns. -/
def Token.stream? (text : String) : Option (List Token) := do
  let c ← Cursor.ofText? text
  Scan.fetchAll? (c.rest.length + 1) (Scan.State.start c)

end VirtLifecycle.Yaml
