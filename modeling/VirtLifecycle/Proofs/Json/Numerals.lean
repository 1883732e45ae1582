/-
Module: VirtLifecycle.Proofs.Json.Numerals
Purpose: Numerals that are printed and read. The characters of a numeral end where a container goes on,
  and an integer that 64 bits hold is read as itself. A double need not be: its digits are read with up
  to two roundings, so whether it travels is a condition on the double.
Main exports: Json.Number.Travels, Json.ofNumeral_print, Json.exists_cons_of_ofNumeral
-/
import Mathlib.Data.List.TakeWhile
import VirtLifecycle.Json.Printer
import VirtLifecycle.Json.Reader
import VirtLifecycle.Proofs.Decimal.Digits

namespace VirtLifecycle.Json

open Reading (isNumeralChar)

/-! ### The characters of a numeral -/

theorem isNumeralChar_of_isDigit {c : Char} (digit : c.isDigit = true) : isNumeralChar c = true := by
  simp [isNumeralChar, digit]

theorem forall_isNumeralChar_takeWhile (cs : List Char) :
    ∀ c ∈ cs.takeWhile Char.isDigit, isNumeralChar c = true := fun _ mem =>
  isNumeralChar_of_isDigit (List.all_eq_true.mp List.all_takeWhile _ mem)

/-- What follows the digits of a numeral, if it is an exponent or nothing. -/
theorem forall_isNumeralChar_of_exponentOf? {cs : List Char} {exponent : Option (Bool × List Char)}
    (read : exponentOf? cs = some exponent) : ∀ c ∈ cs, isNumeralChar c = true := by
  unfold exponentOf? at read
  split at read
  · simp
  · rename_i mark rest
    split at read
    · rename_i marked
      have atMark : isNumeralChar mark = true := by rcases marked with rfl | rfl <;> rfl
      refine List.forall_mem_cons.mpr ⟨atMark, ?_⟩
      have digits : ∀ {negative : Bool} {ds : List Char},
          (if ds.isEmpty = true ∨ (ds.any fun c => !c.isDigit) = true then none
            else some (some (negative, ds))) = some exponent →
          ∀ c ∈ ds, isNumeralChar c = true := by
        intro negative ds read c mem
        refine isNumeralChar_of_isDigit (Decidable.by_contra fun other => ?_)
        rw [if_pos (.inr (List.any_eq_true.mpr ⟨c, mem, by simp [other]⟩))] at read
        cases read
      simp only at read
      split at read
      · exact List.forall_mem_cons.mpr ⟨rfl, digits read⟩
      · exact List.forall_mem_cons.mpr ⟨rfl, digits read⟩
      · exact digits read
    · cases read

/-- The digits of a numeral and what comes after them, if they make one. -/
theorem forall_isNumeralChar_of_unsigned {negative : Bool} {cs : List Char} {n : Numeral}
    (read : (match cs.dropWhile Char.isDigit with
      | '.' :: more =>
        if (more.takeWhile Char.isDigit).isEmpty then none
        else (exponentOf? (more.dropWhile Char.isDigit)).map
          (⟨negative, cs.takeWhile Char.isDigit, some (more.takeWhile Char.isDigit), ·⟩)
      | rest => (exponentOf? rest).map (⟨negative, cs.takeWhile Char.isDigit, none, ·⟩)) = some n) :
    ∀ c ∈ cs, isNumeralChar c = true := by
  rw [← List.takeWhile_append_dropWhile (p := Char.isDigit) (l := cs)]
  refine List.forall_mem_append.mpr ⟨forall_isNumeralChar_takeWhile cs, ?_⟩
  split at read
  · rename_i more point
    rw [point]
    split at read
    · cases read
    · obtain ⟨_, exponent, _⟩ := Option.map_eq_some_iff.mp read
      refine List.forall_mem_cons.mpr ⟨rfl, ?_⟩
      rw [← List.takeWhile_append_dropWhile (p := Char.isDigit) (l := more)]
      exact List.forall_mem_append.mpr
        ⟨forall_isNumeralChar_takeWhile more, forall_isNumeralChar_of_exponentOf? exponent⟩
  · obtain ⟨_, exponent, _⟩ := Option.map_eq_some_iff.mp read
    exact forall_isNumeralChar_of_exponentOf? exponent

/-- A numeral begins with a digit or a sign and has only characters of numerals. -/
theorem exists_cons_of_ofNumeral {chars : List Char} {value : Json}
    (read : ofNumeral chars = some value) :
    ∃ c cs, chars = c :: cs ∧ (c.isDigit = true ∨ c = '-') ∧ ∀ d ∈ chars, isNumeralChar d = true := by
  obtain ⟨n, read, _⟩ := Option.map_eq_some_iff.mp read
  simp only [Numeral.ofChars?] at read
  split at read
  · rename_i rest _
    simp only at read
    split at read
    · cases read
    · exact ⟨'-', rest, rfl, .inr rfl,
        List.forall_mem_cons.mpr ⟨rfl, forall_isNumeralChar_of_unsigned read⟩⟩
  · simp only at read
    split at read
    · cases read
    · rename_i some
      cases chars with
      | nil => exact absurd (.inl rfl) some
      | cons c cs =>
        refine ⟨c, cs, rfl, .inl (Decidable.by_contra fun other => some (.inl ?_)),
          forall_isNumeralChar_of_unsigned read⟩
        rw [List.takeWhile_cons_of_neg other]
        rfl

/-! ### Integers -/

/-- Digits before the point are collected as long as 64 bits hold them. -/
theorem foldl_whole {cs : List Char} {n : Nat} (fits : Nat.ofDigitChars 10 cs n < wordLimit) :
    cs.foldl Collected.whole ⟨n, 0, false⟩ = ⟨Nat.ofDigitChars 10 cs n, 0, false⟩ := by
  induction cs generalizing n with
  | nil => rfl
  | cons c cs ih =>
    rw [Nat.ofDigitChars_cons] at fits ⊢
    have le : 10 * n + (c.toNat - '0'.toNat) < wordLimit :=
      Nat.lt_of_le_of_lt (Digits.le_ofDigitChars cs _) fits
    have step : Collected.whole ⟨n, 0, false⟩ c = ⟨10 * n + (c.toNat - '0'.toNat), 0, false⟩ := by
      rw [Nat.mul_comm] at le ⊢
      simp only [Collected.whole, digitValue, Bool.false_eq_true, Nat.not_le.mpr le, or_self, if_false]
    rw [List.foldl_cons, step, ih fits]

/-- Digits, perhaps with a sign, are a numeral without point and exponent. -/
theorem ofChars?_digits (negative : Bool) (n : Nat) :
    Numeral.ofChars? ((if negative then ['-'] else []) ++ Nat.toDigits 10 n) =
      some ⟨negative, Nat.toDigits 10 n, none, none⟩ := by
  have digits : ∀ c ∈ Nat.toDigits 10 n, c.isDigit = true := fun _ => Digits.isDigit_of_mem_toDigits
  have taken := List.takeWhile_eq_self_iff.mpr digits
  have dropped := List.dropWhile_eq_nil_iff.mpr digits
  have notBad : ¬ ((Nat.toDigits 10 n).isEmpty = true ∨
      (Nat.toDigits 10 n).head? = some '0' ∧ 1 < (Nat.toDigits 10 n).length) := by
    rintro (empty | ⟨zero, long⟩)
    · exact Nat.toDigits_ne_nil (List.isEmpty_iff.mp empty)
    · rw [Digits.length_toDigits_of_zero zero] at long
      exact Nat.lt_irrefl 1 long
  cases negative with
  | true =>
    simp only [if_true, List.cons_append, List.nil_append, Numeral.ofChars?, taken, dropped,
      if_neg notBad, exponentOf?, Option.map_some]
  | false =>
    simp only [Bool.false_eq_true, if_false, List.nil_append, Numeral.ofChars?]
    split
    · rename_i rest signed
      exact absurd (digits '-' (signed ▸ List.mem_cons_self)) (by decide)
    · simp only [taken, dropped, if_neg notBad, exponentOf?, Option.map_some]

/-- Digits, perhaps with a sign, are read as their number if 64 bits hold it. -/
theorem ofNumeral_digits (negative : Bool) {n : Nat} (fits : n < wordLimit)
    (signed : negative = true → 0 < n ∧ n ≤ 0x8000000000000000) :
    ofNumeral ((if negative then ['-'] else []) ++ Nat.toDigits 10 n) =
      some (number (.int (if negative then -(n : Int) else n))) := by
  have back : Nat.ofDigitChars 10 (Nat.toDigits 10 n) 0 = n := Nat.ofDigitChars_ten_toDigits
  have collected : Numeral.collected ⟨negative, Nat.toDigits 10 n, none, none⟩ = ⟨n, 0, false⟩ := by
    have whole : Nat.ofDigitChars 10 (Nat.toDigits 10 n) 0 < wordLimit := by
      rw [back]
      exact fits
    exact (foldl_whole whole).trans (by rw [back])
  have integer : Numeral.isInteger ⟨negative, Nat.toDigits 10 n, none, none⟩ = true := by
    cases negative with
    | true => simp [Numeral.isInteger, collected, signed rfl]
    | false => simp [Numeral.isInteger, collected]
  rw [ofNumeral, ofChars?_digits, Option.map_some, Numeral.value]
  simp only [integer, if_true, collected]

/-! ### Numbers that travel -/

/-- A numeral that is no integer is read by scaling its digits. -/
theorem ofNumeral_of_scaled {chars : List Char} {n : Numeral} {d : Double}
    (split : Numeral.ofChars? chars = some n) (notInteger : n.isInteger = false)
    (scaled : Double.scaleDecimal n.negative n.collected.significand (n.collected.power + n.power) =
      some d) : ofNumeral chars = some (number (.double d)) := by
  rw [ofNumeral, split, Option.map_some, Numeral.value]
  simp only [notInteger, Bool.false_eq_true, if_false, scaled]

/-- The number is printed and read as itself: it is an integer that 64 bits hold, or a double whose
text is read as the double. -/
def Number.Travels : Number → Prop
  | .int value => -0x8000000000000000 ≤ value ∧ value < 0x10000000000000000
  | .double value => ofNumeral (Number.print (.double value)) = some (number (.double value))

theorem ofNumeral_print {n : Number} (travels : n.Travels) : ofNumeral n.print = some (number n) := by
  cases n with
  | double d => exact travels
  | int value =>
    obtain ⟨low, high⟩ := travels
    cases value with
    | ofNat n =>
      have fits : n < wordLimit := Int.ofNat_lt.mp high
      exact ofNumeral_digits false fits nofun
    | negSucc n =>
      have le : n + 1 ≤ 0x8000000000000000 := by omega
      have fits : n + 1 < wordLimit := Nat.lt_of_le_of_lt le (by decide)
      exact ofNumeral_digits true fits fun _ => ⟨Nat.succ_pos n, le⟩

end VirtLifecycle.Json
