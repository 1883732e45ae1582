/-
Module: VirtLifecycle.Yaml.Token.Scalars
Purpose: Reading the scalars of a YAML text: unquoted ones, ones between quotes, and blocks of lines.
  A break between two words of a folded scalar counts as a space, and of several breaks the first
  does not count.
Specification: [SPEC 10 Serialization]: manifests are YAML documents.
Main exports: Yaml.Scan.plain?, Yaml.Scan.quoted?, Yaml.Scan.block?, Yaml.Scan.Gap
-/
import VirtLifecycle.Yaml.Cursor

namespace VirtLifecycle.Yaml.Scan

/-- The blanks and breaks between two words of a scalar, the latest first. Once there is a break, the
blanks do not count. -/
structure Gap where
  blanks : List Char
  first : Option Char
  later : List Char
  broken : Bool
deriving DecidableEq, Repr, Inhabited

namespace Gap

def empty : Gap := ⟨[], none, [], false⟩

/-- The gap after a break that was escaped. -/
def escaped : Gap := ⟨[], none, [], true⟩

def isEmpty (g : Gap) : Bool := g.blanks.isEmpty && !g.broken

/-- Adds a blank or a break. -/
def add (g : Gap) (c : Char) : Gap :=
  if isBreak c then
    if g.broken then { g with later := c :: g.later } else ⟨[], some c, [], true⟩
  else if g.broken then g
  else { g with blanks := c :: g.blanks }

/-- What the gap puts in front of the next word, the latest character first. -/
def shown (g : Gap) : List Char :=
  if g.broken then
    match g.first with
    | some '\n' => if g.later.isEmpty then [' '] else g.later
    | first => g.later ++ first.toList
  else g.blanks

end Gap

/-- A scalar that has been read. -/
structure Read where
  text : String
  /-- whether a break was read after the last word -/
  broken : Bool
  after : Cursor
deriving Repr, Inhabited

/-- Whether an unquoted scalar ends at this character: a colon with a blank behind it, and in flow
context the marks of that. -/
def endsPlain (flow : Bool) (c : Char) (rest : List Char) : Bool :=
  (c == ':' && isBlankEnd rest) || (flow && (c == ',' || c == '[' || c == ']' || c == '{' || c == '}'))

/-- Whether a colon stands before a mark of flow context, which is not allowed there. -/
def isStrayColon (flow : Bool) (c : Char) (rest : List Char) : Bool :=
  flow && c == ':' && match rest with
    | d :: _ => d == ',' || d == '?' || d == '[' || d == ']' || d == '{' || d == '}'
    | [] => false

/-- Reads an unquoted scalar, whose later lines are indented by at least `indent`. -/
def plain? (flow : Bool) (indent : Int) :
    (rest : List Char) → Place → (text : List Char) → Gap → Option Read
  | [], p, text, gap => some ⟨String.ofList text.reverse, gap.broken, ⟨[], p⟩⟩
  | c :: rest, p, text, gap =>
    let stop : Read := ⟨String.ofList text.reverse, gap.broken, ⟨c :: rest, p⟩⟩
    if isWhite c then
      if gap.broken && p.column < indent && c == '\t' then none
      else plain? flow indent rest (p.after c) text (gap.add c)
    else if !gap.isEmpty && !flow && p.column < indent then some stop
    else if Cursor.atDocumentMarker (c :: rest) p || (!gap.isEmpty && c == '#') then some stop
    else if isStrayColon flow c rest then none
    else if endsPlain flow c rest then some stop
    else plain? flow indent rest (p.after c) (c :: (gap.shown ++ text)) Gap.empty

/-- The character that an escape of one letter stands for. -/
def escaped? (c : Char) : Option Char :=
  match c with
  | '0' => some '\x00'
  | 'a' => some '\x07'
  | 'b' => some '\x08'
  | 't' => some '\t'
  | '\t' => some '\t'
  | 'n' => some '\n'
  | 'v' => some '\x0b'
  | 'f' => some '\x0c'
  | 'r' => some '\r'
  | 'e' => some '\x1b'
  | ' ' => some ' '
  | '"' => some '"'
  | '/' => some '/'
  | '\\' => some '\\'
  | 'N' => some '\u0085'
  | '_' => some '\u00a0'
  | 'L' => some '\u2028'
  | 'P' => some '\u2029'
  | _ => none

/-- The number of hexadecimal digits after the letter of an escape. -/
def escapeDigits? (c : Char) : Option Nat :=
  match c with
  | 'x' => some 2
  | 'u' => some 4
  | 'U' => some 8
  | _ => none

def hexValue? (c : Char) : Option Nat :=
  if c.isDigit then some (c.toNat - '0'.toNat)
  else if 'a' ≤ c ∧ c ≤ 'f' then some (c.toNat - 'a'.toNat + 10)
  else if 'A' ≤ c ∧ c ≤ 'F' then some (c.toNat - 'A'.toNat + 10)
  else none

/-- The character with a code, if there is one. -/
def charOf? (code : Nat) : Option Char :=
  if code.isValidChar then some (Char.ofNat code) else none

/-- What comes next in a scalar between quotes. -/
inductive Within where
  | char
  /-- after a backslash -/
  | escape
  /-- after a quote in a scalar between single quotes -/
  | quote
  /-- within the digits of an escape -/
  | digits (left value : Nat)
deriving DecidableEq, Repr, Inhabited

/-- Reads what stands after an opening quote, up to and with the closing one. -/
def quoted? (double : Bool) :
    (rest : List Char) → Place → (text : List Char) → Gap → Within → Option Read
  | [], p, text, _, .quote => some ⟨String.ofList text.reverse, false, ⟨[], p⟩⟩
  | [], _, _, _, _ => none
  | c :: rest, p, text, gap, .quote =>
    if c = '\'' then quoted? double rest (p.after c) (c :: text) gap .char
    else some ⟨String.ofList text.reverse, false, ⟨c :: rest, p⟩⟩
  | c :: rest, p, text, gap, .escape =>
    if isBreak c then quoted? double rest (p.after c) text Gap.escaped .char
    else
      match escaped? c, escapeDigits? c with
      | some e, _ => quoted? double rest (p.after c) (e :: text) gap .char
      | none, some n => quoted? double rest (p.after c) text gap (.digits n 0)
      | none, none => none
  | c :: rest, p, text, gap, .digits left value =>
    match hexValue? c with
    | none => none
    | some digit =>
      let value := value * 16 + digit
      if 1 < left then quoted? double rest (p.after c) text gap (.digits (left - 1) value)
      else
        match charOf? value with
        | some e => quoted? double rest (p.after c) (e :: text) gap .char
        | none => none
  | c :: rest, p, text, gap, .char =>
    if isWhite c then quoted? double rest (p.after c) text (gap.add c) .char
    else if Cursor.atDocumentMarker (c :: rest) p then none
    else
      let text := gap.shown ++ text
      if double then
        if c = '"' then some ⟨String.ofList text.reverse, false, ⟨rest, p.after c⟩⟩
        else if c = '\\' then quoted? double rest (p.after c) text Gap.empty .escape
        else quoted? double rest (p.after c) (c :: text) Gap.empty .char
      else if c = '\'' then quoted? double rest (p.after c) text Gap.empty .quote
      else quoted? double rest (p.after c) (c :: text) Gap.empty .char

/-- What becomes of the breaks at the end of a block of lines. -/
inductive Chomping where
  | strip
  | clip
  | keep
deriving DecidableEq, Repr, Inhabited

/-- A block of lines that is being read, the latest characters first. -/
structure Block where
  text : List Char
  /-- the break after the last line -/
  lineEnd : Option Char
  /-- the empty lines after it -/
  empties : List Char
  /-- whether the last line began with a blank -/
  blankLed : Bool
deriving DecidableEq, Repr, Inhabited

/-- Begins a line. In a folded block the break before it becomes a space, unless empty lines or lines
that begin with a blank are near. -/
def Block.beginLine (b : Block) (folded : Bool) (c : Char) : Block :=
  let blank := isTabOrSpace c
  let before :=
    if folded && b.lineEnd == some '\n' && !b.blankLed && !blank then
      if b.empties.isEmpty then [' '] else []
    else b.lineEnd.toList
  ⟨c :: (b.empties ++ (before ++ b.text)), none, [], blank⟩

/-- The text of a block that has been read. -/
def Block.finish (b : Block) (chomping : Chomping) : String :=
  let text := match chomping with
    | .strip => b.text
    | .clip => b.lineEnd.toList ++ b.text
    | .keep => b.empties ++ (b.lineEnd.toList ++ b.text)
  String.ofList text.reverse

/-- Reads the lines of a block that is indented by `indent`; `inLine` says whether the margin of the
line has been passed. -/
def blockLines? (folded : Bool) (indent : Nat) :
    (rest : List Char) → Place → (inLine : Bool) → Block → Option (Block × Cursor)
  | [], p, _, b => some (b, ⟨[], p⟩)
  | c :: rest, p, true, b =>
    if isBreak c then blockLines? folded indent rest (p.after c) false { b with lineEnd := some c }
    else blockLines? folded indent rest (p.after c) true { b with text := c :: b.text }
  | c :: rest, p, false, b =>
    if p.column < indent && c == ' ' then blockLines? folded indent rest (p.after c) false b
    else if p.column < indent && c == '\t' then none
    else if isBreak c then
      blockLines? folded indent rest (p.after c) false { b with empties := c :: b.empties }
    else if p.column = indent then
      blockLines? folded indent rest (p.after c) true (b.beginLine folded c)
    else some (b, ⟨c :: rest, p⟩)

/-- Reads the empty lines before a block whose indentation is not told, and finds out the widest
margin. -/
def blockMargin? : (rest : List Char) → Place → (widest : Nat) → (empties : List Char) →
    Option (Nat × List Char × Cursor)
  | [], p, widest, empties => some (max widest p.column, empties, ⟨[], p⟩)
  | c :: rest, p, widest, empties =>
    let wide := max widest p.column
    if c = ' ' then blockMargin? rest (p.after c) widest empties
    else if c = '\t' then none
    else if isBreak c then blockMargin? rest (p.after c) wide (c :: empties)
    else some (wide, empties, ⟨c :: rest, p⟩)

/-- The sign and the digit after the mark of a block, in either order. -/
def blockHeader? (rest : List Char) : Option (Chomping × Nat × List Char) :=
  let sign? (c : Char) : Option Chomping :=
    if c = '+' then some .keep else if c = '-' then some .strip else none
  let digit? (c : Char) : Option Nat := if c.isDigit then some (c.toNat - '0'.toNat) else none
  match rest with
  | [] => some (.clip, 0, [])
  | a :: more =>
    match sign? a, digit? a with
    | some chomping, _ =>
      match more with
      | b :: rest' =>
        match digit? b with
        | some 0 => none
        | some n => some (chomping, n, rest')
        | none => some (chomping, 0, more)
      | [] => some (chomping, 0, [])
    | none, some 0 => none
    | none, some n =>
      match more with
      | b :: rest' =>
        match sign? b with
        | some chomping => some (chomping, n, rest')
        | none => some (.clip, n, more)
      | [] => some (.clip, n, [])
    | none, none => some (.clip, 0, rest)

/-- Skips blanks and a comment up to the end of the line, where nothing else may stand. -/
def lineEnd? (c : Cursor) : Option Cursor :=
  let c := (c.takeWhile isTabOrSpace).2
  let c := if c.rest.head? = some '#' then (c.takeWhile (! isBreak ·)).2 else c
  match c.rest with
  | [] => some c
  | d :: _ => if isBreak d then some c.next else none

/-- Reads a block of lines after its mark. `parent` is the indentation of what encloses it. -/
def block? (folded : Bool) (parent : Int) (c : Cursor) : Option Read := do
  let (chomping, told, rest) ← blockHeader? c.rest
  let c ← lineEnd? (c.skip (c.rest.length - rest.length))
  let (indent, empties, c) ←
    if told = 0 then do
      let (widest, empties, c) ← blockMargin? c.rest c.place 0 []
      some (max widest (max (parent + 1) 1).toNat, empties, c)
    else some ((if 0 ≤ parent then parent.toNat else 0) + told, [], c)
  let (block, c) ← blockLines? folded indent c.rest c.place false ⟨[], none, empties, false⟩
  some ⟨block.finish chomping, false, c⟩

end VirtLifecycle.Yaml.Scan
