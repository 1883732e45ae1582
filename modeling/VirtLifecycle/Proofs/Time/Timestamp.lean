/-
Module: VirtLifecycle.Proofs.Time.Timestamp
Purpose: Timestamps can be printed and read again. Printed with its decimals, a timestamp reads back as
  itself; printed in whole seconds, as its last whole second. What is read of a time of day and an
  offset is a point in time if its year can be written.
Main exports: Timestamp.ofText?_text, Timestamp.ofText?_wholeText, Timestamp.of?_eq_none_iff
-/
import VirtLifecycle.Proofs.Text.Blank
import VirtLifecycle.Proofs.Time.Calendar
import VirtLifecycle.Time.Timestamp

namespace VirtLifecycle.Timestamp

open Duration (padded)
open Text (dropBlanks_of_head isBlank_of_isDigit)

theorem of?_of_isPoint {seconds : Int} {nanos : Nat} (isPoint : IsPoint seconds nanos) :
    of? seconds nanos = some ⟨seconds, nanos, isPoint⟩ :=
  dif_pos isPoint

/-! ### Readers of parts -/

/-- Digits are read as their number if they are not too many and nothing more is read after them. -/
theorem number?_append {most : Nat} {digits rest : List Char}
    (all : ∀ c ∈ digits, c.isDigit = true) (nonempty : digits ≠ []) (fits : digits.length ≤ most)
    (stop : digits.length = most ∨ ∀ c, rest.head? = some c → c.isDigit = false) :
    number? most (digits ++ rest) = some (Nat.ofDigitChars 10 digits 0, rest) := by
  have stops : ∀ c, (rest.take (most - digits.length)).head? = some c → c.isDigit = false := by
    intro c head
    rcases stop with full | stop
    · rw [full, Nat.sub_self, List.take_zero] at head
      cases head
    · rw [List.head?_take] at head
      split at head
      · cases head
      · exact stop c head
  have taken : ((digits ++ rest).take most).takeWhile Char.isDigit = digits := by
    rw [List.take_append, List.take_of_length_le fits]
    exact (takeWhile_append_stop all stops).1
  have number : digits.foldl (fun n c => n * 10 + (c.toNat - '0'.toNat)) 0 =
      Nat.ofDigitChars 10 digits 0 := by
    simp only [Nat.ofDigitChars_eq_foldl, Nat.mul_comm]
  rw [number?, taken]
  simp only [List.isEmpty_iff, nonempty, if_false, number, List.drop_left]

theorem isDigit_of_head?_padded (places n : Nat) (rest : List Char) {c : Char}
    (head : (padded places n ++ rest).head? = some c) : c.isDigit = true := by
  have mem : c ∈ padded places n := by
    cases digits : padded places n with
    | nil => exact absurd digits (Duration.padded_ne_nil places n)
    | cons d ds =>
      rw [digits] at head
      rw [← Option.some.inj head]
      exact List.mem_cons_self
  exact Duration.isDigit_of_mem_padded mem

theorem dropBlanks_padded (places n : Nat) (rest : List Char) :
    Text.dropBlanks (padded places n ++ rest) = padded places n ++ rest :=
  dropBlanks_of_head fun _ head => isBlank_of_isDigit (isDigit_of_head?_padded places n rest head)

/-- A number with exactly as many places as are read. -/
theorem number?_padded {places n : Nat} (positive : 0 < places) (fits : n < 10 ^ places)
    (rest : List Char) : number? places (padded places n ++ rest) = some (n, rest) := by
  have length := Duration.length_padded positive fits
  rw [number?_append (fun _ => Duration.isDigit_of_mem_padded) (Duration.padded_ne_nil places n)
    (Nat.le_of_eq length) (.inl length), Duration.ofDigitChars_padded]

theorem part?_padded {n : Nat} (fits : n < 100) (rest : List Char) :
    part? (padded 2 n ++ rest) = some (n, rest) := by
  rw [part?, dropBlanks_padded]
  exact number?_padded (by decide) fits rest

theorem separator?_cons {c : Char} (shown : Text.isBlank c = false) (rest : List Char) :
    separator? c (c :: rest) = some rest := by
  rw [separator?, dropBlanks_of_head (by rintro _ ⟨⟩; exact shown)]
  exact if_pos rfl

/-! ### Dates and times -/

/-- A year with a sign is read up to what is no digit. -/
theorem number?_signed (n : Nat) (rest : List Char) :
    number? (padded 4 n ++ '-' :: rest).length (padded 4 n ++ '-' :: rest) =
      some (n, '-' :: rest) := by
  have fits : (padded 4 n).length ≤ (padded 4 n ++ '-' :: rest).length := by
    rw [List.length_append]
    exact Nat.le_add_right _ _
  have stops : ∀ c, ('-' :: rest).head? = some c → c.isDigit = false := by
    rintro _ ⟨⟩
    rfl
  rw [number?_append (fun _ => Duration.isDigit_of_mem_padded) (Duration.padded_ne_nil 4 n) fits
    (.inr stops), Duration.ofDigitChars_padded]

/-- A year is read back from its text, be it longer than four digits or before the year zero. -/
theorem year?_yearText (year : Int) (rest : List Char) :
    year? (yearText year ++ '-' :: rest) = some (year, '-' :: rest) := by
  unfold yearText
  by_cases plain : 0 ≤ year ∧ year ≤ 9999
  · have fits : year.toNat < 10 ^ 4 := by omega
    have read := number?_padded (by decide) fits ('-' :: rest)
    rw [if_pos plain, year?, dropBlanks_padded]
    split
    · rename_i equal
      have digit := isDigit_of_head?_padded 4 year.toNat ('-' :: rest) (congrArg List.head? equal)
      exact absurd digit (by decide)
    · rename_i equal
      have digit := isDigit_of_head?_padded 4 year.toNat ('-' :: rest) (congrArg List.head? equal)
      exact absurd digit (by decide)
    · simp only [read, Option.map_some, Int.toNat_of_nonneg plain.1]
  · rw [if_neg plain]
    by_cases negative : year < 0
    · rw [if_pos negative, year?, List.cons_append, dropBlanks_of_head (by rintro _ ⟨⟩; rfl)]
      have value : -(year.natAbs : Int) = year := by omega
      simp only [number?_signed, Option.map_some, value]
    · rw [if_neg negative, year?, List.cons_append, dropBlanks_of_head (by rintro _ ⟨⟩; rfl)]
      have value : (year.natAbs : Int) = year := by omega
      simp only [number?_signed, Option.map_some, value]

theorem date?_text {date : Calendar.Date} (valid : date.isValid = true) (rest : List Char) :
    date? (yearText date.year ++ '-' :: (padded 2 date.month ++ '-' :: (padded 2 date.day ++ rest))) =
      some (date, rest) := by
  have bounds := valid
  simp only [Calendar.Date.isValid, Bool.and_eq_true, decide_eq_true_eq] at bounds
  obtain ⟨⟨⟨_, month⟩, _⟩, day⟩ := bounds
  have dayLe : date.day ≤ 31 := by
    refine Nat.le_trans day ?_
    unfold Calendar.daysInMonth
    split <;> try split
    all_goals decide
  have dash : ∀ rest, separator? '-' ('-' :: rest) = some rest := separator?_cons rfl
  simp only [date?, year?_yearText, dash, part?_padded (by omega : date.month < 100),
    part?_padded (by omega : date.day < 100), Option.bind_eq_bind, Option.bind_some]
  exact if_pos valid

/-- Decimals of a second, before the mark of the offset. -/
theorem fraction?_decimals (places value : Nat) (positive : 0 < places) (few : places ≤ 9)
    (fits : value < 10 ^ places) :
    fraction? ('.' :: (padded places value ++ ['Z'])) = some (value * 10 ^ (9 - places), ['Z']) := by
  have length := Duration.length_padded positive fits
  have all : ∀ c ∈ padded places value, c.isDigit = true := fun _ => Duration.isDigit_of_mem_padded
  have stops : ∀ c, ['Z'].head? = some c → c.isDigit = false := by
    rintro _ ⟨⟩
    rfl
  have read := number?_append all (Duration.padded_ne_nil places value) (length ▸ few) (.inr stops)
  have digits := (takeWhile_append_stop all stops).1
  simp only [fraction?, read, digits, Option.bind_eq_bind, Option.bind_some,
    Duration.ofDigitChars_padded]
  rw [List.drop_left, length]
  rfl

/-- Decimals of a second are read back from their text, whether there are three, six, nine or none. -/
theorem fraction?_fractionText {nanos : Nat} (below : nanos < Duration.secondNanos) :
    fraction? (fractionText nanos ++ ['Z']) = some (nanos, ['Z']) := by
  unfold Duration.secondNanos at below
  unfold fractionText Duration.milliNanos Duration.microNanos
  split
  · rename_i zero
    rw [zero]
    rfl
  · split
    · have shown := fraction?_decimals 3 (nanos / 1000000) (by decide) (by decide)
        (by omega)
      rw [List.cons_append, shown]
      congr 2
      omega
    · split
      · have shown := fraction?_decimals 6 (nanos / 1000) (by decide) (by decide)
          (by omega)
        rw [List.cons_append, shown]
        congr 2
        omega
      · have shown := fraction?_decimals 9 nanos (by decide) (by decide)
          (by omega)
        rw [List.cons_append, shown, Nat.sub_self, Nat.pow_zero, Nat.mul_one]

theorem timeOfDay?_text {second leap value : Nat} {decimals : List Char} (inDay : second < 86400)
    (leapLe : leap ≤ 1) (last : leap = 1 → second % 60 = 59)
    (fraction : fraction? (decimals ++ ['Z']) = some (value, ['Z'])) :
    timeOfDay? (padded 2 (second / 3600) ++ ':' :: (padded 2 (second / 60 % 60) ++
        ':' :: (padded 2 (second % 60 + leap) ++ (decimals ++ ['Z'])))) =
      some (second, value + leap * Duration.secondNanos, ['Z']) := by
  have colon : ∀ rest, separator? ':' (':' :: rest) = some rest := separator?_cons rfl
  have inBounds : second / 3600 ≤ 23 ∧ second / 60 % 60 ≤ 59 ∧ second % 60 + leap ≤ 60 := by omega
  simp only [timeOfDay?, colon, part?_padded (by omega : second / 3600 < 100),
    part?_padded (by omega : second / 60 % 60 < 100),
    part?_padded (by omega : second % 60 + leap < 100), fraction, Option.bind_eq_bind,
    Option.bind_some, if_pos inBounds]
  have seconds : second / 3600 * 3600 + second / 60 % 60 * 60 + min (second % 60 + leap) 59 = second := by
    omega
  rw [seconds]
  by_cases isLeap : leap = 1
  · rw [if_pos (by omega), isLeap, Nat.one_mul]
  · rw [if_neg (by omega), Nat.lt_one_iff.mp (Nat.lt_of_le_of_ne leapLe isLeap), Nat.zero_mul]

/-! ### Whole texts -/

/-- A text is read as its point in time, up to how the decimals are read. -/
theorem ofText?_textWith (t : Timestamp) {decimals : List Char} {value : Nat}
    (fraction : fraction? (decimals ++ ['Z']) = some (value, ['Z'])) :
    ofText? (t.textWith decimals) =
      of? t.seconds (value + t.nanos / Duration.secondNanos * Duration.secondNanos) := by
  obtain ⟨year, nanos⟩ := t.isPoint
  have valid : t.date.isValid = true := Calendar.Date.isValid_ofDay year.1 year.2
  have leapLe : t.nanos / Duration.secondNanos ≤ 1 := by
    unfold Duration.secondNanos at nanos ⊢
    omega
  have last : t.nanos / Duration.secondNanos = 1 → (t.seconds % 86400).toNat % 60 = 59 := by
    unfold Duration.secondNanos at nanos ⊢
    omega
  have time := timeOfDay?_text (by omega : (t.seconds % 86400).toNat < 86400) leapLe last fraction
  have utc : offset? ['Z'] = some (0, []) := rfl
  have ends : (Text.dropBlanks []).isEmpty = true := rfl
  have seconds : t.date.toDay * 86400 + ((t.seconds % 86400).toNat : Int) - 0 = t.seconds := by
    rw [date, Calendar.Date.toDay_ofDay]
    omega
  simp only [ofText?, textWith, String.toList_ofList, List.append_assoc, List.cons_append, ofChars?,
    date?_text valid, Option.bind_eq_bind, Option.bind_some, time, utc, seconds, ends, if_true]

/-- A timestamp printed with its decimals reads back as itself. -/
theorem ofText?_text (t : Timestamp) : ofText? t.text = some t := by
  have below : t.nanos % Duration.secondNanos < Duration.secondNanos :=
    Nat.mod_lt _ (by decide)
  rw [text, ofText?_textWith t (fraction?_fractionText below), Nat.mul_comm, Nat.mod_add_div,
    of?_of_isPoint t.isPoint]

/-- A timestamp printed in whole seconds reads back as its last whole second. -/
theorem ofText?_wholeText (t : Timestamp) : ofText? t.wholeText = some t.wholeSeconds := by
  have none : fraction? ([] ++ ['Z']) = some (0, ['Z']) := rfl
  rw [wholeText, ofText?_textWith t none, Nat.zero_add]
  exact of?_of_isPoint t.wholeSeconds.isPoint

/-- A last whole second is its own. -/
theorem wholeSeconds_wholeSeconds (t : Timestamp) : t.wholeSeconds.wholeSeconds = t.wholeSeconds := by
  have leap : t.nanos / Duration.secondNanos * Duration.secondNanos / Duration.secondNanos =
      t.nanos / Duration.secondNanos := Nat.mul_div_cancel _ (by decide)
  simp only [wholeSeconds, leap]

/-- The last whole second is printed as the point itself. -/
theorem wholeText_wholeSeconds (t : Timestamp) : t.wholeSeconds.wholeText = t.wholeText := by
  have leap : t.wholeSeconds.nanos / Duration.secondNanos = t.nanos / Duration.secondNanos :=
    Nat.mul_div_cancel _ (by decide)
  simp only [wholeText, textWith, leap]
  rfl

/-! ### What is read -/

theorem number?_lt {most n : Nat} {cs rest : List Char} (read : number? most cs = some (n, rest)) :
    n < 10 ^ min most (cs.takeWhile Char.isDigit).length := by
  rw [number?] at read
  split at read
  · cases read
  · cases read
    have digits : ∀ c ∈ (cs.take most).takeWhile Char.isDigit, c.isDigit = true :=
      fun _ mem => List.all_eq_true.mp List.all_takeWhile _ mem
    have bound := Digits.ofDigitChars_lt digits 0
    simp only [Nat.ofDigitChars_eq_foldl, Nat.mul_comm 10, ← List.take_takeWhile, List.length_take,
      Nat.zero_add, Nat.one_mul] at bound ⊢
    exact bound

theorem fraction?_lt {cs rest : List Char} {n : Nat} (read : fraction? cs = some (n, rest)) :
    n < Duration.secondNanos := by
  unfold fraction? at read
  split at read
  · rename_i decimals
    simp only [Option.bind_eq_bind, Option.bind_eq_some_iff, Option.some.injEq, Prod.mk.injEq] at read
    obtain ⟨⟨value, _⟩, number, rfl, _⟩ := read
    have few := number?_lt number
    have scale : min 9 (decimals.takeWhile Char.isDigit).length +
        (9 - (decimals.takeWhile Char.isDigit).length) = 9 := by omega
    calc value * 10 ^ (9 - (decimals.takeWhile Char.isDigit).length)
        < 10 ^ min 9 (decimals.takeWhile Char.isDigit).length *
            10 ^ (9 - (decimals.takeWhile Char.isDigit).length) :=
          Nat.mul_lt_mul_of_pos_right few (Nat.pow_pos (by decide))
      _ = 10 ^ 9 := by rw [← Nat.pow_add, scale]
  · cases read
    decide

/-- The nanoseconds of a time of day are less than a second, or less than two within a leap second, which
only the last second of a minute has. -/
theorem timeOfDay?_nanos {cs rest : List Char} {second nanos : Nat}
    (read : timeOfDay? cs = some (second, nanos, rest)) :
    nanos < Duration.secondNanos ∨ nanos < 2 * Duration.secondNanos ∧ second % 60 = 59 := by
  simp only [timeOfDay?, Option.bind_eq_bind, Option.bind_eq_some_iff] at read
  obtain ⟨⟨hour, _⟩, _, _, _, ⟨minute, _⟩, _, _, _, ⟨sec, _⟩, _, ⟨decimals, _⟩, fraction, final⟩ := read
  have below := fraction?_lt fraction
  simp only at final
  split at final
  · cases final
    split
    · right
      omega
    · left
      exact below
  · cases final

theorem offsetSize?_whole {cs rest : List Char} {size : Nat}
    (read : offsetSize? cs = some (size, rest)) : size % 60 = 0 := by
  simp only [offsetSize?, Option.bind_eq_bind, Option.bind_eq_some_iff] at read
  obtain ⟨⟨hours, _⟩, _, ⟨minutes, _⟩, _, final⟩ := read
  simp only at final
  split at final
  · cases final
    omega
  · cases final

/-- Offsets are whole minutes. -/
theorem offset?_whole {cs rest : List Char} {ahead : Int} (read : offset? cs = some (ahead, rest)) :
    ahead % 60 = 0 := by
  unfold offset? at read
  simp only at read
  split at read
  · cases read
    rfl
  · split at read
    case h_1 | h_2 =>
      cases read
      rfl
    case h_3 | h_4 | h_5 =>
      simp only [Option.map_eq_some_iff, Prod.mk.injEq] at read
      obtain ⟨⟨size, _⟩, whole, rfl, _⟩ := read
      have := offsetSize?_whole whole
      simp only
      omega
    case h_6 => cases read

/-- What is read of a time of day and an offset is refused for the year alone: within leap seconds and
outside of them, the nanoseconds are as they have to be. -/
theorem of?_eq_none_iff {cs rest : List Char} {second nanos : Nat} {day ahead : Int}
    (time : timeOfDay? cs = some (second, nanos, rest)) {cs' rest' : List Char}
    (offset : offset? cs' = some (ahead, rest')) :
    of? (day * 86400 + second - ahead) nanos = none ↔
      ¬ (Calendar.minYear ≤ (Calendar.Date.ofDay ((day * 86400 + second - ahead) / 86400)).year ∧
        (Calendar.Date.ofDay ((day * 86400 + second - ahead) / 86400)).year ≤ Calendar.maxYear) := by
  have whole := offset?_whole offset
  have fits : nanos < Duration.secondNanos ∨
      nanos < 2 * Duration.secondNanos ∧ (day * 86400 + second - ahead) % 60 = 59 :=
    (timeOfDay?_nanos time).imp_right fun ⟨below, last⟩ => ⟨below, by omega⟩
  rw [of?, dite_eq_right_iff]
  constructor
  · intro refused year
    exact Option.some_ne_none _ (refused ⟨year, fits⟩)
  · intro late isPoint
    exact absurd isPoint.year late

end VirtLifecycle.Timestamp
