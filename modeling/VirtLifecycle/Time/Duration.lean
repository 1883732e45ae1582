/-
Module: VirtLifecycle.Time.Duration
Purpose: Spans of time in whole nanoseconds, from zero up to a largest span of 2^64 seconds less one
  nanosecond. Sums stop at the largest span and differences at zero. A span is shown in the largest
  unit that leaves a whole part, with as many places as it takes to be exact.
Specification: [SPEC 3 Data model]: the spans of a `WaitConfig` (`Duration`), also as messages show
  them.
Main exports: Duration, Duration.ofNanos, Duration.add, Duration.sub, Duration.text
-/

namespace VirtLifecycle

namespace Duration

/-- Nanoseconds in a second. -/
def secondNanos : Nat := 1000000000

/-- Nanoseconds in a millisecond. -/
def milliNanos : Nat := 1000000

/-- Nanoseconds in a microsecond. -/
def microNanos : Nat := 1000

/-- The nanoseconds of the largest span. -/
def maxNanos : Nat := 0xFFFFFFFFFFFFFFFF * secondNanos + 999999999

end Duration

/-- A span of time. -/
structure Duration where
  nanos : Nat
  nanos_le : nanos ≤ Duration.maxNanos
deriving DecidableEq, Repr

namespace Duration

/-- The span of the given nanoseconds, or the largest span if there are too many. -/
def ofNanos (n : Nat) : Duration :=
  ⟨min n maxNanos, Nat.min_le_right _ _⟩

def zero : Duration := ofNanos 0

/-- The largest span. -/
def max : Duration := ofNanos maxNanos

def ofMillis (n : Nat) : Duration := ofNanos (n * milliNanos)

def ofSeconds (n : Nat) : Duration := ofNanos (n * secondNanos)

instance : Inhabited Duration := ⟨zero⟩

/-- Whole seconds of the span. -/
def seconds (d : Duration) : Nat := d.nanos / secondNanos

/-- Nanoseconds beyond the whole seconds. -/
def subsecond (d : Duration) : Nat := d.nanos % secondNanos

/-- The sum, at most the largest span. -/
def add (a b : Duration) : Duration := ofNanos (a.nanos + b.nanos)

/-- The difference, at least zero. -/
def sub (a b : Duration) : Duration := ofNanos (a.nanos - b.nanos)

/-- The smaller of two spans. -/
def least (a b : Duration) : Duration := if a.nanos ≤ b.nanos then a else b

def isZero (d : Duration) : Bool := d.nanos == 0

@[ext] theorem ext {a b : Duration} (h : a.nanos = b.nanos) : a = b := by
  cases a; cases b; cases h; rfl

@[simp] theorem nanos_ofNanos (n : Nat) : (ofNanos n).nanos = min n maxNanos := rfl

theorem nanos_ofNanos_of_le {n : Nat} (h : n ≤ maxNanos) : (ofNanos n).nanos = n := by
  simp [h]

@[simp] theorem nanos_add (a b : Duration) : (a.add b).nanos = min (a.nanos + b.nanos) maxNanos := rfl

@[simp] theorem nanos_sub (a b : Duration) : (a.sub b).nanos = a.nanos - b.nanos := by
  have := a.nanos_le
  simp [sub]; omega

@[simp] theorem nanos_least (a b : Duration) : (a.least b).nanos = min a.nanos b.nanos := by
  simp only [least]
  split <;> simp only [Nat.min_def] <;> split <;> omega

/-- A number with `places` digits, zeros in front where it is shorter. -/
def padded (places n : Nat) : List Char :=
  let digits := Nat.toDigits 10 n
  List.replicate (places - digits.length) '0' ++ digits

/-- A count of units with the part of a unit behind a point, which has no zeros at its end and is
left out if there is none. A unit is `10 ^ places` parts. -/
def decimalText (whole fraction places : Nat) : List Char :=
  let shown := ((padded places fraction).reverse.dropWhile (· == '0')).reverse
  Nat.toDigits 10 whole ++ (if shown.isEmpty then [] else '.' :: shown)

/-- The span in the largest unit that leaves a whole part. -/
def text (d : Duration) : String :=
  let (chars, suffix) : List Char × String :=
    if secondNanos ≤ d.nanos then (decimalText d.seconds d.subsecond 9, "s")
    else if milliNanos ≤ d.nanos then
      (decimalText (d.nanos / milliNanos) (d.nanos % milliNanos) 6, "ms")
    else if microNanos ≤ d.nanos then
      (decimalText (d.nanos / microNanos) (d.nanos % microNanos) 3, "µs")
    else (decimalText d.nanos 0 0, "ns")
  String.ofList chars ++ suffix

end Duration

end VirtLifecycle
