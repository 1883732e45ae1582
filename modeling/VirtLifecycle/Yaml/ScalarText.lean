/-
Module: VirtLifecycle.Yaml.ScalarText
Purpose: How a text is written as a scalar: without quotes where that reads back as the text, else
  between single quotes, as a block of lines where it has line feeds, and between double quotes where
  it has characters that need escapes.
Specification: [SPEC 6 External interfaces], the binary: the texts in the YAML that `print` writes.
Main exports: Yaml.Features, Yaml.Features.ofText, Yaml.Presentation, Yaml.Presentation.choose,
  Yaml.escapeChar
-/
import VirtLifecycle.Yaml.Cursor
import VirtLifecycle.Yaml.Scalar

namespace VirtLifecycle.Yaml

/-- The characters that can stand for themselves in a document. -/
def isPrintable (c : Char) : Bool :=
  let n := c.toNat
  n == 10 || (0x20 ≤ n && n ≤ 0x7E) || (0xA0 ≤ n && n ≤ 0xD7FF) ||
    (0xE000 ≤ n && n ≤ 0xFFFD && n != 0xFEFF) || 0x10000 ≤ n

/-- The breaks of lines as a writer sees them. -/
def isLineEnd (c : Char) : Bool :=
  isBreak c || c == '\r' || c == '\u0085'

/-- A blank, a break, or the character zero. -/
def isGap (c : Char) : Bool :=
  c == ' ' || c == '\t' || isLineEnd c || c.toNat == 0

/-- What matters about a text for how it can be written. -/
structure Features where
  /-- it holds or begins with something that has a meaning in a block -/
  indicators : Bool
  hasBreaks : Bool
  /-- it has characters that need escapes -/
  special : Bool
  leadingSpace : Bool
  leadingBreak : Bool
  trailingSpace : Bool
  trailingBreak : Bool
  /-- a break is followed by a space -/
  breakSpace : Bool
  /-- a space is followed by a break -/
  spaceBreak : Bool
deriving DecidableEq, Repr, Inhabited

/-- Characters that have a meaning at the beginning of a scalar. -/
def isFirstIndicator (c : Char) : Bool :=
  c ∈ ['#', ',', '[', ']', '{', '}', '&', '*', '!', '|', '>', '\'', '"', '%', '@', '\x60']

/-- Whether a text is at its end or goes on with a gap. -/
def gapNext : List Char → Bool
  | [] => true
  | c :: _ => isGap c

/-- Whether something that has a meaning stands behind the first character; `previous` comes before. -/
def innerIndicators (previous : Char) : List Char → Bool
  | [] => false
  | c :: rest =>
    (c == ':' && gapNext rest) || (c == '#' && isGap previous) || innerIndicators c rest

/-- Whether two kinds of characters stand next to each other anywhere. -/
def adjacent (p q : Char → Bool) : List Char → Bool
  | a :: b :: rest => (p a && q b) || adjacent p q (b :: rest)
  | _ => false

def isSpaceChar (c : Char) : Bool := c == ' '

def Features.ofText (s : List Char) : Features where
  indicators :=
    let marker := s.take 3 = ['-', '-', '-'] || s.take 3 = ['.', '.', '.']
    match s with
    | [] => false
    | c :: rest =>
      marker || isFirstIndicator c || ((c == '?' || c == ':' || c == '-') && gapNext rest) ||
        innerIndicators c rest
  hasBreaks := s.any isLineEnd
  special := s.any (! isPrintable ·)
  leadingSpace := s.head?.any isSpaceChar
  leadingBreak := s.head?.any isLineEnd
  trailingSpace := s.getLast?.any isSpaceChar
  trailingBreak := s.getLast?.any isLineEnd
  breakSpace := adjacent isLineEnd isSpaceChar s
  spaceBreak := adjacent isSpaceChar isLineEnd s

namespace Features

def allowsPlain (f : Features) : Bool :=
  !(f.leadingSpace || f.leadingBreak || f.trailingSpace || f.trailingBreak || f.breakSpace ||
    f.spaceBreak || f.special || f.hasBreaks || f.indicators)

def allowsSingleQuotes (f : Features) : Bool :=
  !(f.breakSpace || f.spaceBreak || f.special)

def allowsBlock (f : Features) : Bool :=
  !(f.trailingSpace || f.spaceBreak || f.special)

end Features

/-- How a scalar is written. -/
inductive Presentation where
  | plain
  | singleQuoted
  | doubleQuoted
  | literal
deriving DecidableEq, Repr, Inhabited

namespace Presentation

/-- Single quotes, or double quotes where these are not enough. -/
def quotedFor (f : Features) : Presentation :=
  if f.allowsSingleQuotes then singleQuoted else doubleQuoted

/-- How a text is written, in front of a colon or elsewhere. -/
def choose (simpleKey : Bool) (s : List Char) : Presentation :=
  let f := Features.ofText s
  if simpleKey && f.hasBreaks then doubleQuoted
  else if s.contains '\n' then if f.allowsBlock && !simpleKey then literal else doubleQuoted
  else if isAmbiguous s then quotedFor f
  else if f.allowsPlain then plain
  else quotedFor f

end Presentation

/-- The digits of a number in base sixteen, in capitals, at least `places`. -/
def capitalHex (places n : Nat) : List Char :=
  let digits := (Nat.toDigits 16 n).map Char.toUpper
  List.replicate (places - digits.length) '0' ++ digits

/-- How a character stands between double quotes. -/
def escapeChar (c : Char) : List Char :=
  let n := c.toNat
  if isPrintable c && !isBreak c && c != '"' && c != '\\' then [c]
  else
    '\\' ::
      (if n = 0 then ['0']
      else if n = 7 then ['a']
      else if n = 8 then ['b']
      else if n = 9 then ['t']
      else if n = 10 then ['n']
      else if n = 11 then ['v']
      else if n = 12 then ['f']
      else if n = 13 then ['r']
      else if n = 0x1B then ['e']
      else if c = '"' ∨ c = '\\' then [c]
      else if n = 0x85 then ['N']
      else if n = 0xA0 then ['_']
      else if n = 0x2028 then ['L']
      else if n = 0x2029 then ['P']
      else if n ≤ 0xFF then 'x' :: capitalHex 2 n
      else if n ≤ 0xFFFF then 'u' :: capitalHex 4 n
      else 'U' :: capitalHex 8 n)

end VirtLifecycle.Yaml
