/-
Module: VirtLifecycle.Proofs.Yaml.Numbers
Purpose: Numbers that are written without quotes and read as numbers. An integer that 64 bits hold is read as
  itself. Whether a double is depends on its digits, so this is a condition on the double; what is read as a
  double has only characters that can stand without quotes.
Main exports: Yaml.IsLegible, Yaml.bare_of_double?, Yaml.ofScalar?_number, Yaml.Legible
-/
import VirtLifecycle.Proofs.Decimal.Digits
import VirtLifecycle.Proofs.Yaml.Unquoted
import VirtLifecycle.Yaml.Printer
import VirtLifecycle.Yaml.Reader

namespace VirtLifecycle.Yaml

open Scan (Bare IsInk)

/-! ### Digits -/

theorem digit?_of_isDigit {c : Char} (digit : c.isDigit = true) : digit? 10 c = some (c.toNat - '0'.toNat) := by
  have bounds := Char.isDigit_iff_toNat.mp digit
  have small : c.toNat - '0'.toNat < 10 := by
    have low : '0'.toNat = 48 := rfl
    have high : '9'.toNat = 57 := rfl
    omega
  simp only [digit?, digit, if_true, Option.filter_some, small, decide_true]

theorem isDigit_of_digit? {c : Char} {v : Nat} (read : digit? 10 c = some v) : c.isDigit = true := by
  by_contra other
  simp only [digit?, other, if_false] at read
  obtain ⟨found, small⟩ := Option.filter_eq_some_iff.mp read
  split at found
  · cases found
    simp at small
  · split at found
    · cases found
      simp at small
    · cases found

/-- Digits are read as their number. -/
theorem natural?_of_digits {ds : List Char} (some : ds ≠ []) (digits : ∀ c ∈ ds, c.isDigit = true) :
    natural? 10 ds = .some (Nat.ofDigitChars 10 ds 0) := by
  have from' (n : Nat) : ds.foldlM (fun value c => (digit? 10 c).map (value * 10 + ·)) n =
      .some (Nat.ofDigitChars 10 ds n) := by
    induction ds generalizing n with
    | nil => rfl
    | cons c ds ih =>
      obtain ⟨first, rest⟩ := List.forall_mem_cons.mp digits
      cases ds with
      | nil => simp [digit?_of_isDigit first, Nat.ofDigitChars_cons, Nat.mul_comm]
      | cons d ds =>
        rw [List.foldlM_cons, digit?_of_isDigit first, Nat.ofDigitChars_cons, Nat.mul_comm]
        exact ih (List.cons_ne_nil d ds) rest _
  rw [natural?, if_neg (by simpa using some)]
  exact from' 0

/-- Nothing but digits is read as a number, and not nothing: a sign or a blank would be refused. -/
theorem digits_of_natural? {ds : List Char} {n : Nat} (read : natural? 10 ds = some n) :
    ds ≠ [] ∧ ∀ c ∈ ds, c.isDigit = true := by
  unfold natural? at read
  split at read
  · cases read
  · rename_i some
    refine ⟨by simpa using some, ?_⟩
    clear some
    generalize 0 = value at read
    induction ds generalizing value with
    | nil => exact List.forall_mem_nil _
    | cons c ds ih =>
      rw [List.foldlM_cons] at read
      obtain ⟨next, first, read⟩ := Option.bind_eq_some_iff.mp read
      obtain ⟨v, digit, -⟩ := Option.map_eq_some_iff.mp first
      exact List.forall_mem_cons.mpr ⟨isDigit_of_digit? digit, ih next read⟩

/-! ### Characters of numbers -/

/-- The characters that numbers are written with. -/
def IsNumeral (c : Char) : Prop :=
  c.isDigit = true ∨ c ∈ ['+', '-', '.', 'e', 'E', 'i', 'n', 'f', 'I', 'N', 'F', 'a', 'A']

instance (c : Char) : Decidable (IsNumeral c) := inferInstanceAs (Decidable (_ ∨ _))

/-- The characters of numbers can be shown anywhere in a text without quotes. Of the marks that mean
something to a reader only the dash is among them, and it means something only before a blank. -/
theorem IsNumeral.ink {c : Char} (numeral : IsNumeral c) :
    IsInk c ∧ c ≠ ' ' ∧ isFirstIndicator c = false ∧ c ≠ '?' ∧ c ≠ ':' ∧ c ≠ '#' := by
  rcases numeral with digit | mark
  · obtain ⟨low, high⟩ : 48 ≤ c.toNat ∧ c.toNat ≤ 57 := Char.isDigit_iff_toNat.mp digit
    have same : c = Char.ofNat c.toNat := (Char.ofNat_toNat c).symm
    generalize c.toNat = n at same low high
    subst same
    interval_cases n <;> decide
  · simp only [List.mem_cons, List.not_mem_nil, or_false] at mark
    rcases mark with rfl | rfl | rfl | rfl | rfl | rfl | rfl | rfl | rfl | rfl | rfl | rfl | rfl <;> decide

/-- What a number is without its sign: it begins with a digit, or with a point that no other one follows. -/
structure Unsigned (c : Char) (s : List Char) : Prop where
  numerals : ∀ d ∈ c :: s, IsNumeral d
  dash : c ≠ '-'
  dot : c = '.' → s.head? ≠ some '.'

/-- Within a number nothing is taken for a colon of a key or for a comment. -/
theorem innerIndicators_of_numerals {s : List Char} (numerals : ∀ d ∈ s, IsNumeral d) (previous : Char) :
    innerIndicators previous s = false := by
  induction s generalizing previous with
  | nil => rfl
  | cons c s ih =>
    obtain ⟨first, rest⟩ := List.forall_mem_cons.mp numerals
    obtain ⟨-, -, -, -, colon, comment⟩ := first.ink
    simp [innerIndicators, colon, comment, ih rest]

/-- The characters of numbers can stand without quotes, but for a lone dash and marks between documents. -/
theorem bare_of_numerals {c : Char} {s : List Char} (numerals : ∀ d ∈ c :: s, IsNumeral d)
    (lone : c = '-' → s ≠ []) (dashes : c = '-' → s.head? ≠ some '-') (dots : c = '.' → s.head? ≠ some '.') :
    Bare c s where
  ink d mem := (numerals d mem).ink.1
  space := (numerals c List.mem_cons_self).ink.2.1
  trailing last := (numerals ' ' (List.mem_of_getLast? last)).ink.2.1 rfl
  dashes take := by
    obtain ⟨first, rest⟩ := List.cons.inj take
    refine dashes first ?_
    cases s with
    | nil => cases rest
    | cons d s => exact congrArg some (List.cons.inj rest).1
  dots take := by
    obtain ⟨first, rest⟩ := List.cons.inj take
    refine dots first ?_
    cases s with
    | nil => cases rest
    | cons d s => exact congrArg some (List.cons.inj rest).1
  first := (numerals c List.mem_cons_self).ink.2.2.1
  marked := by
    obtain ⟨-, -, -, question, colon, -⟩ := (numerals c List.mem_cons_self).ink
    by_cases dash : c = '-'
    · obtain ⟨d, s, rfl⟩ := List.exists_cons_of_ne_nil (lone dash)
      obtain ⟨ink, space, -⟩ := (numerals d (List.mem_cons_of_mem c List.mem_cons_self)).ink
      simp [gapNext, Scan.isGap_eq_false ink space]
    · simp [question, colon, dash]
  inner := innerIndicators_of_numerals (fun d mem => numerals d (List.mem_cons_of_mem c mem)) c

/-- Without its sign a number can stand as it is, since it begins with no dash. -/
theorem Unsigned.bare {c : Char} {s : List Char} (unsigned : Unsigned c s) : Bare c s :=
  bare_of_numerals unsigned.numerals (fun dash => absurd dash unsigned.dash)
    (fun dash => absurd dash unsigned.dash) unsigned.dot

/-- With a sign it can, too: a dash before a digit or a point marks no item. -/
theorem Unsigned.signed {c : Char} {s : List Char} (unsigned : Unsigned c s) {sign : Char}
    (signs : sign = '-' ∨ sign = '+') : Bare sign (c :: s) := by
  refine bare_of_numerals (List.forall_mem_cons.mpr ⟨?_, unsigned.numerals⟩) (fun _ => List.cons_ne_nil c s)
    (fun _ dash => unsigned.dash (Option.some.inj dash)) ?_
  · rcases signs with rfl | rfl <;> exact .inr (by decide)
  · rintro rfl
    rcases signs with dot | dot <;> cases dot

/-- Digits alone are a number without a sign. -/
theorem unsigned_of_digits {ds : List Char} (some : ds ≠ []) (digits : ∀ c ∈ ds, c.isDigit = true) :
    ∃ c s, ds = c :: s ∧ Unsigned c s := by
  obtain ⟨c, s, rfl⟩ := List.exists_cons_of_ne_nil some
  have first := digits c List.mem_cons_self
  refine ⟨c, s, rfl, fun d mem => .inl (digits d mem), ?_, ?_⟩
  · rintro rfl
    cases first
  · rintro rfl
    cases first

/-- What follows the digits of a number, if it is an exponent or nothing. -/
theorem numerals_of_exponent? {s : List Char} {n : Int} (read : exponent? s = some n) : ∀ c ∈ s, IsNumeral c := by
  unfold exponent? at read
  split at read
  · exact List.forall_mem_nil _
  · rename_i mark rest
    split at read
    · rename_i marked
      have first : IsNumeral mark := by rcases marked with rfl | rfl <;> exact .inr (by decide)
      refine List.forall_mem_cons.mpr ⟨first, ?_⟩
      split at read
      all_goals
        obtain ⟨_, found, -⟩ := Option.map_eq_some_iff.mp read
        obtain ⟨n, digits, -⟩ := Option.bind_eq_some_iff.mp found
        have all : ∀ c ∈ _, IsNumeral c := fun c mem => .inl ((digits_of_natural? digits).2 c mem)
      · exact List.forall_mem_cons.mpr ⟨.inr (by decide), all⟩
      · exact List.forall_mem_cons.mpr ⟨.inr (by decide), all⟩
      · exact all
    · cases read

/-- What is read as a finite double, without its sign: digits with a point somewhere, and an exponent. -/
theorem unsigned_of_decimal? {negative : Bool} {s : List Char} {d : Double}
    (read : decimal? negative s = some d) : ∃ c more, s = c :: more ∧ Unsigned c more := by
  have split (cs : List Char) : cs = cs.takeWhile Char.isDigit ++ cs.dropWhile Char.isDigit :=
    List.takeWhile_append_dropWhile.symm
  have numerals {cs : List Char} (digits : ∀ c ∈ cs, c.isDigit = true) : ∀ c ∈ cs, IsNumeral c :=
    fun c mem => .inl (digits c mem)
  -- A digit in front, or the point with a digit behind it, makes the number begin as it does.
  have led {c : Char} {before rest : List Char} (digits : ∀ d ∈ c :: before, d.isDigit = true)
      (behind : ∀ d ∈ rest, IsNumeral d) : Unsigned c (before ++ rest) := by
    have first := digits c List.mem_cons_self
    refine ⟨?_, ?_, ?_⟩
    · rw [← List.cons_append, List.forall_mem_append]
      exact ⟨numerals digits, behind⟩
    · rintro rfl
      cases first
    · rintro rfl
      cases first
  have front := split s
  unfold decimal? at read
  dsimp only at read
  obtain ⟨n, number, read⟩ := Option.bind_eq_some_iff.mp read
  obtain ⟨e, exponent, -⟩ := Option.bind_eq_some_iff.mp read
  obtain ⟨some, digits⟩ := digits_of_natural? number
  have behind := numerals_of_exponent? exponent
  have parts := And.intro some (And.intro digits behind)
  clear number read exponent some digits behind
  generalize s.takeWhile Char.isDigit = before at front parts
  generalize s.dropWhile Char.isDigit = rest at front parts
  split at parts
  · rename_i more
    obtain ⟨some, digits, behind⟩ := parts
    obtain ⟨whole, fractional⟩ := List.forall_mem_append.mp digits
    have after : ∀ c ∈ '.' :: more, IsNumeral c := by
      refine List.forall_mem_cons.mpr ⟨.inr (by decide), ?_⟩
      rw [split more]
      exact List.forall_mem_append.mpr ⟨numerals fractional, behind⟩
    cases before with
    | nil =>
      refine ⟨'.', more, front, after, by decide, fun _ twice => ?_⟩
      obtain ⟨more, rfl⟩ := List.head?_eq_some_iff.mp twice
      exact some rfl
    | cons c before => exact ⟨c, _, front, led whole after⟩
  · obtain ⟨some, digits, behind⟩ := parts
    rw [List.append_nil] at some digits
    obtain ⟨c, before, rfl⟩ := List.exists_cons_of_ne_nil some
    exact ⟨c, _, front, led digits behind⟩

/-- So is each of the words for infinity, which begin with a point. -/
theorem unsigned_of_infinite {s : List Char} (word : s ∈ [".inf", ".Inf", ".INF"].map String.toList) :
    ∃ c more, s = c :: more ∧ Unsigned c more := by
  have words : [".inf", ".Inf", ".INF"].map String.toList =
      [['.', 'i', 'n', 'f'], ['.', 'I', 'n', 'f'], ['.', 'I', 'N', 'F']] := by decide
  rw [words] at word
  simp only [List.mem_cons, List.not_mem_nil, or_false] at word
  rcases word with rfl | rfl | rfl <;> exact ⟨'.', _, rfl, by simp [IsNumeral], by decide, by decide⟩

/-- What is read as a double can stand without quotes. -/
theorem bare_of_double? {s : List Char} {d : Double} (read : double? s = some d) :
    ∃ c more, s = c :: more ∧ Bare c more := by
  unfold double? at read
  dsimp only at read
  split at read
  · split at read
    · obtain ⟨c, more, rfl, unsigned⟩ := unsigned_of_infinite ‹_›
      exact ⟨'-', _, rfl, unsigned.signed (.inl rfl)⟩
    · obtain ⟨c, more, rfl, unsigned⟩ := unsigned_of_decimal? read
      exact ⟨'-', _, rfl, unsigned.signed (.inl rfl)⟩
  · split at read
    · obtain ⟨c, more, rfl, unsigned⟩ := unsigned_of_infinite ‹_›
      exact ⟨'+', _, rfl, unsigned.signed (.inr rfl)⟩
    · obtain ⟨c, more, rfl, unsigned⟩ := unsigned_of_decimal? read
      exact ⟨'+', _, rfl, unsigned.signed (.inr rfl)⟩
  · split at read
    · obtain ⟨c, more, rfl, unsigned⟩ := unsigned_of_infinite ‹_›
      exact ⟨c, more, rfl, unsigned.bare⟩
    · split at read
      · rename_i word
        have words : [".nan", ".NaN", ".NAN"].map String.toList =
            [['.', 'n', 'a', 'n'], ['.', 'N', 'a', 'N'], ['.', 'N', 'A', 'N']] := by decide
        rw [words] at word
        simp only [List.mem_cons, List.not_mem_nil, or_false] at word
        rcases word with rfl | rfl | rfl <;>
          exact ⟨'.', _, rfl, Unsigned.bare ⟨by simp [IsNumeral], by decide, by decide⟩⟩
      · obtain ⟨c, more, rfl, unsigned⟩ := unsigned_of_decimal? read
        exact ⟨c, more, rfl, unsigned.bare⟩

/-! ### Numbers that are read as themselves -/

/-- The number is written and read as itself: it is an integer that 64 bits hold, or a double whose text is read
as the double. -/
def IsLegible : Json.Number → Prop
  | .int value => -0x8000000000000000 ≤ value ∧ value < 0x10000000000000000
  | .double value => Scalar.ofPlain value.text.toList = .double value

instance : (n : Json.Number) → Decidable (IsLegible n)
  | .int _ => inferInstanceAs (Decidable (_ ∧ _))
  | .double _ => inferInstanceAs (Decidable (_ = _))

/-- Digits of a number, perhaps with a dash before them, are read as the number. -/
theorem integer?_digits (n : Nat) :
    integer? (Nat.toDigits 10 n) = some (n : Int) ∧ integer? ('-' :: Nat.toDigits 10 n) = some (-(n : Int)) := by
  have digits : ∀ c ∈ Nat.toDigits 10 n, c.isDigit = true := fun _ => Digits.isDigit_of_mem_toDigits
  have whole : natural? 10 (Nat.toDigits 10 n) = some n := by
    rw [natural?_of_digits Nat.toDigits_ne_nil digits, Nat.ofDigitChars_ten_toDigits]
  have magnitude : magnitude? (Nat.toDigits 10 n) = some n := by
    unfold magnitude?
    split
    · rename_i rest shown
      exact absurd (digits 'x' (shown ▸ by simp)) (by decide)
    · rename_i rest shown
      exact absurd (digits 'o' (shown ▸ by simp)) (by decide)
    · rename_i rest shown
      exact absurd (digits 'b' (shown ▸ by simp)) (by decide)
    · exact whole
  have single : (Nat.toDigits 10 n).head? = some '0' → ¬ 1 < (Nat.toDigits 10 n).length := fun zero long => by
    rw [Digits.length_toDigits_of_zero zero] at long
    exact Nat.lt_irrefl 1 long
  obtain ⟨c, ds, shown⟩ := List.exists_cons_of_ne_nil (Nat.toDigits_ne_nil : Nat.toDigits 10 n ≠ [])
  rw [shown] at digits magnitude single ⊢
  have dash : c ≠ '-' := by
    rintro rfl
    exact absurd (digits '-' List.mem_cons_self) (by decide)
  have plus : c ≠ '+' := by
    rintro rfl
    exact absurd (digits '+' List.mem_cons_self) (by decide)
  have led : isZeroLed (c :: ds) = false ∧ isZeroLed ('-' :: c :: ds) = false := by
    by_cases zero : c = '0'
    · subst zero
      obtain rfl : ds = [] := by
        by_contra more
        exact single rfl (Nat.succ_lt_succ (List.length_pos_iff.mpr more))
      decide
    · simp [isZeroLed, dash, plus, zero]
  constructor
  · simp [integer?, led.1, dash, plus, magnitude]
  · simp [integer?, led.2, magnitude]

/-- What begins with a digit or a dash is none of the words for null and the truth values. -/
theorem ofPlain_of_integer? {c : Char} {s : List Char} {n : Int} (first : c.isDigit = true ∨ c = '-')
    (read : integer? (c :: s) = some n)
    (fits : -0x8000000000000000 ≤ n ∧ n < 0x10000000000000000) : Scalar.ofPlain (c :: s) = .int n := by
  have nulls : ["null", "Null", "NULL", "~"].map String.toList =
      [['n', 'u', 'l', 'l'], ['N', 'u', 'l', 'l'], ['N', 'U', 'L', 'L'], ['~']] := by decide
  have trues : ["true", "True", "TRUE"].map String.toList =
      [['t', 'r', 'u', 'e'], ['T', 'r', 'u', 'e'], ['T', 'R', 'U', 'E']] := by decide
  have falses : ["false", "False", "FALSE"].map String.toList =
      [['f', 'a', 'l', 's', 'e'], ['F', 'a', 'l', 's', 'e'], ['F', 'A', 'L', 'S', 'E']] := by decide
  have other {d : Char} (letter : d.isDigit = false ∧ d ≠ '-') : c ≠ d := by
    rintro rfl
    rcases first with digit | dash
    · exact Bool.false_ne_true (letter.1.symm.trans digit)
    · exact letter.2 dash
  have null : isNullWord (c :: s) = false := by
    simp [isNullWord, nulls, other (show 'n'.isDigit = false ∧ 'n' ≠ '-' by decide),
      other (show 'N'.isDigit = false ∧ 'N' ≠ '-' by decide),
      other (show '~'.isDigit = false ∧ '~' ≠ '-' by decide)]
  have bool : bool? (c :: s) = none := by
    simp [bool?, trues, falses, other (show 't'.isDigit = false ∧ 't' ≠ '-' by decide),
      other (show 'T'.isDigit = false ∧ 'T' ≠ '-' by decide),
      other (show 'f'.isDigit = false ∧ 'f' ≠ '-' by decide),
      other (show 'F'.isDigit = false ∧ 'F' ≠ '-' by decide)]
  simp [Scalar.ofPlain, null, bool, read, ofInteger, fits]

/-- What stands for a double has been read as one, after it was read as neither a word nor an integer. -/
theorem double?_of_ofPlain {s : List Char} {d : Double} (read : Scalar.ofPlain s = .double d) :
    double? s = some d := by
  unfold Scalar.ofPlain at read
  split at read
  · cases read
  · split at read
    · cases read
    · split at read
      · rename_i scalar integer
        obtain ⟨n, -, kept⟩ := Option.bind_eq_some_iff.mp integer
        subst read
        unfold ofInteger at kept
        split at kept
        · cases kept
        · split at kept <;> cases kept
      · split at read
        · cases read
        · split at read
          · cases read
            assumption
          · cases read

/-- **A number that is written is read as the number**, and can stand without quotes. -/
theorem ofScalar?_number {n : Json.Number} (legible : IsLegible n) :
    (∃ c s, Page.number n = c :: s ∧ Bare c s) ∧
      ofScalar? (Scalar.ofPlain (Page.number n)) = some (.number n) := by
  cases n with
  | double d => exact ⟨bare_of_double? (double?_of_ofPlain legible), by rw [Page.number, legible]; rfl⟩
  | int n =>
    have digits {n : Nat} : ∀ c ∈ Nat.toDigits 10 n, c.isDigit = true := fun _ => Digits.isDigit_of_mem_toDigits
    cases n with
    | ofNat n =>
      obtain ⟨c, s, shown, unsigned⟩ := unsigned_of_digits (Nat.toDigits_ne_nil : Nat.toDigits 10 n ≠ []) digits
      have text : Page.number (.int (Int.ofNat n)) = c :: s := shown
      have read := (integer?_digits n).1
      rw [shown] at read
      have first := digits c (shown ▸ List.mem_cons_self)
      refine ⟨⟨c, s, text, unsigned.bare⟩, ?_⟩
      rw [text, ofPlain_of_integer? (.inl first) read legible]
      rfl
    | negSucc n =>
      obtain ⟨c, s, shown, unsigned⟩ :=
        unsigned_of_digits (Nat.toDigits_ne_nil : Nat.toDigits 10 (n + 1) ≠ []) digits
      have text : Page.number (.int (Int.negSucc n)) = '-' :: c :: s := congrArg ('-' :: ·) shown
      have read := (integer?_digits (n + 1)).2
      rw [shown] at read
      refine ⟨⟨'-', _, text, unsigned.signed (.inl rfl)⟩, ?_⟩
      rw [text, ofPlain_of_integer? (.inr rfl) read legible]
      rfl

/-! ### Values with such numbers -/

mutual

/-- Every number in the value is legible. -/
def Legible : Json → Prop
  | .number n => IsLegible n
  | .array items => ItemsLegible items
  | .object members => MembersLegible members
  | _ => True

def ItemsLegible : List Json → Prop
  | [] => True
  | item :: items => Legible item ∧ ItemsLegible items

def MembersLegible : List (String × Json) → Prop
  | [] => True
  | (_, value) :: members => Legible value ∧ MembersLegible members

end

mutual

def decideLegible : (value : Json) → Decidable (Legible value)
  | .null | .bool _ | .text _ => isTrue trivial
  | .number n => inferInstanceAs (Decidable (IsLegible n))
  | .array items => decideItemsLegible items
  | .object members => decideMembersLegible members

def decideItemsLegible : (items : List Json) → Decidable (ItemsLegible items)
  | [] => isTrue trivial
  | item :: items => @instDecidableAnd _ _ (decideLegible item) (decideItemsLegible items)

def decideMembersLegible : (members : List (String × Json)) → Decidable (MembersLegible members)
  | [] => isTrue trivial
  | (_, value) :: members => @instDecidableAnd _ _ (decideLegible value) (decideMembersLegible members)

end

instance (value : Json) : Decidable (Legible value) := decideLegible value

end VirtLifecycle.Yaml
