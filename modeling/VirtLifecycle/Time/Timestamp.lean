/-
Module: VirtLifecycle.Time.Timestamp
Purpose: Points in time as documents write them: a date, a time of day with seconds, and an offset
  from UTC. A point is held in UTC, to the nanosecond; within a leap second it counts on from the
  second before. Only points that can be written are built. Printing is in UTC, in whole seconds or
  with just enough decimals.
Specification: [SPEC 10 Serialization]: condition timestamps (`DateTime`) and those of metadata
  (`Time`).
Main exports: Timestamp, Timestamp.of?, Timestamp.ofText?, Timestamp.text, Timestamp.wholeText,
  Timestamp.wholeSeconds
-/
import VirtLifecycle.Time.Calendar
import VirtLifecycle.Time.Duration
import VirtLifecycle.Text.Blank

namespace VirtLifecycle

/-- So many seconds since 1970-01-01T00:00:00Z, with so many nanoseconds on top of them, are a point in
time: the date in UTC lies in the years that can be written, and there is a second or more on top only
within a leap second, at the end of a minute. -/
structure Timestamp.IsPoint (seconds : Int) (nanos : Nat) : Prop where
  year : Calendar.minYear ≤ (Calendar.Date.ofDay (seconds / 86400)).year ∧
    (Calendar.Date.ofDay (seconds / 86400)).year ≤ Calendar.maxYear
  nanos : nanos < Duration.secondNanos ∨ nanos < 2 * Duration.secondNanos ∧ seconds % 60 = 59

instance (seconds : Int) (nanos : Nat) : Decidable (Timestamp.IsPoint seconds nanos) :=
  decidable_of_iff (_ ∧ _)
    ⟨fun ⟨year, nanos⟩ => ⟨year, nanos⟩, fun point => ⟨point.year, point.nanos⟩⟩

/-- A point in time: seconds since 1970-01-01T00:00:00Z and nanoseconds on top of them. -/
structure Timestamp where
  seconds : Int
  nanos : Nat
  isPoint : Timestamp.IsPoint seconds nanos := by decide
deriving DecidableEq, Repr

namespace Timestamp

open Text (dropBlanks isBlank)

instance : Inhabited Timestamp := ⟨⟨0, 0, by decide⟩⟩

/-- The point in time that many seconds and nanoseconds after 1970-01-01T00:00:00Z, if it is one. -/
def of? (seconds : Int) (nanos : Nat) : Option Timestamp :=
  if isPoint : IsPoint seconds nanos then some ⟨seconds, nanos, isPoint⟩ else none

/-- Reads between one and `most` digits. -/
def number? (most : Nat) (cs : List Char) : Option (Nat × List Char) :=
  let digits := (cs.take most).takeWhile Char.isDigit
  if digits.isEmpty then none
  else some (digits.foldl (fun n c => n * 10 + (c.toNat - '0'.toNat)) 0, cs.drop digits.length)

/-- Reads a one- or two-digit number after blanks. -/
def part? (cs : List Char) : Option (Nat × List Char) :=
  number? 2 (dropBlanks cs)

/-- Reads a separator after blanks. -/
def separator? (c : Char) (cs : List Char) : Option (List Char) :=
  match dropBlanks cs with
  | d :: rest => if d = c then some rest else none
  | [] => none

/-- Reads a year after blanks: up to four digits, or a sign and any number of digits. -/
def year? (cs : List Char) : Option (Int × List Char) :=
  match dropBlanks cs with
  | '-' :: rest => (number? rest.length rest).map fun (n, rest) => (-(n : Int), rest)
  | '+' :: rest => (number? rest.length rest).map fun (n, rest) => ((n : Int), rest)
  | rest => (number? 4 rest).map fun (n, rest) => ((n : Int), rest)

def date? (cs : List Char) : Option (Calendar.Date × List Char) := do
  let (year, cs) ← year? cs
  let cs ← separator? '-' cs
  let (month, cs) ← part? cs
  let cs ← separator? '-' cs
  let (day, cs) ← part? cs
  let date : Calendar.Date := ⟨year, month, day⟩
  if date.isValid then some (date, cs) else none

/-- The decimals of a second as nanoseconds; digits after the ninth do not count. -/
def fraction? (cs : List Char) : Option (Nat × List Char) :=
  match cs with
  | '.' :: rest => do
    let (value, _) ← number? 9 rest
    let digits := rest.takeWhile Char.isDigit
    some (value * Nat.pow 10 (9 - digits.length), rest.drop digits.length)
  | rest => some (0, rest)

/-- The seconds since midnight and the nanoseconds on top. The second 60 is the last second of its
minute with a whole second on top. -/
def timeOfDay? (cs : List Char) : Option (Nat × Nat × List Char) := do
  let (hour, cs) ← part? cs
  let cs ← separator? ':' cs
  let (minute, cs) ← part? cs
  let cs ← separator? ':' cs
  let (second, cs) ← part? cs
  let (nanos, cs) ← fraction? cs
  if hour ≤ 23 ∧ minute ≤ 59 ∧ second ≤ 60 then
    let leap := if second = 60 then Duration.secondNanos else 0
    some (hour * 3600 + minute * 60 + min second 59, nanos + leap, cs)
  else none

/-- Reads exactly two digits. -/
def twoDigits? (cs : List Char) : Option (Nat × List Char) :=
  if (cs.take 2).all Char.isDigit ∧ 2 ≤ cs.length then number? 2 cs else none

/-- Hours and minutes of an offset in seconds; between them any colons and blanks may stand. -/
def offsetSize? (cs : List Char) : Option (Nat × List Char) := do
  let (hours, cs) ← twoDigits? cs
  let (minutes, cs) ← twoDigits? (cs.dropWhile fun c => c == ':' || isBlank c)
  let size := hours * 3600 + minutes * 60
  if minutes ≤ 59 ∧ size < 86400 then some (size, cs) else none

/-- The seconds that local time is ahead of UTC. -/
def offset? (cs : List Char) : Option (Int × List Char) :=
  let cs := dropBlanks cs
  if (cs.take 3).map Char.toUpper = ['U', 'T', 'C'] then some (0, cs.drop 3)
  else
    match cs with
    | 'Z' :: rest | 'z' :: rest => some (0, rest)
    | '+' :: rest => (offsetSize? rest).map fun (n, rest) => ((n : Int), rest)
    | '-' :: rest | '\u2212' :: rest => (offsetSize? rest).map fun (n, rest) => (-(n : Int), rest)
    | _ => none

/-- The date in UTC. -/
def date (t : Timestamp) : Calendar.Date :=
  Calendar.Date.ofDay (t.seconds / 86400)

/-- Reads a timestamp given as characters. -/
def ofChars? (cs : List Char) : Option Timestamp := do
  let (date, cs) ← date? cs
  let cs ← match cs with
    | 'T' :: rest | 't' :: rest | ' ' :: rest => some rest
    | _ => none
  let (second, nanos, cs) ← timeOfDay? cs
  let (offset, cs) ← offset? cs
  if (dropBlanks cs).isEmpty then of? (date.toDay * 86400 + second - offset) nanos else none

/-- The point in time that a text denotes. -/
def ofText? (s : String) : Option Timestamp := ofChars? s.toList

/-- A year has four digits, or a sign and at least as many. -/
def yearText (year : Int) : List Char :=
  if 0 ≤ year ∧ year ≤ 9999 then Duration.padded 4 year.toNat
  else (if year < 0 then '-' else '+') :: Duration.padded 4 year.natAbs

/-- The decimals of a second: none, three, six or nine. -/
def fractionText (nanos : Nat) : List Char :=
  if nanos = 0 then []
  else if nanos % Duration.milliNanos = 0 then '.' :: Duration.padded 3 (nanos / Duration.milliNanos)
  else if nanos % Duration.microNanos = 0 then '.' :: Duration.padded 6 (nanos / Duration.microNanos)
  else '.' :: Duration.padded 9 nanos

/-- The text in UTC, with the given decimals of the second. -/
def textWith (t : Timestamp) (decimals : List Char) : String :=
  let date := t.date
  let second := (t.seconds % 86400).toNat
  let leap := t.nanos / Duration.secondNanos
  String.ofList <|
    yearText date.year ++ '-' :: Duration.padded 2 date.month ++ '-' :: Duration.padded 2 date.day ++
    'T' :: Duration.padded 2 (second / 3600) ++ ':' :: Duration.padded 2 (second / 60 % 60) ++
    ':' :: Duration.padded 2 (second % 60 + leap) ++ decimals ++ ['Z']

/-- The text in UTC with as many decimals as it takes. -/
def text (t : Timestamp) : String :=
  t.textWith (fractionText (t.nanos % Duration.secondNanos))

/-- The text in UTC without decimals. -/
def wholeText (t : Timestamp) : String :=
  t.textWith []

/-- The last whole second that is not after the point; a leap second counts as one. -/
def wholeSeconds (t : Timestamp) : Timestamp where
  seconds := t.seconds
  nanos := t.nanos / Duration.secondNanos * Duration.secondNanos
  isPoint := by
    have nanos := t.isPoint.nanos
    refine ⟨t.isPoint.year, ?_⟩
    simp only [Duration.secondNanos] at nanos ⊢
    omega

end Timestamp

end VirtLifecycle
