/-
Module: VirtLifecycle.Proofs.Decimal.Count
Purpose: Which texts spell a number without sign: digits, perhaps with a plus sign in front, of a number
  that 64 bits hold. Such a text is read as the number that its digits stand for, and each number has one.
Main exports: Count.Spells, Count.ofText_eq_ok_iff, Count.spells_text
-/
import VirtLifecycle.Decimal.Count
import VirtLifecycle.Proofs.Text.Blank

namespace VirtLifecycle.Count

variable {s : String} {n : Nat}

/-- The text has digits, perhaps with a plus sign in front, of a number that is not too large. -/
structure Spells (s : String) (n : Nat) : Prop where
  digits : ∃ digits, (s.toList = digits ∨ s.toList = '+' :: digits) ∧ digits ≠ [] ∧
    (∀ c ∈ digits, c.isDigit = true) ∧ Nat.ofDigitChars 10 digits 0 = n
  fits : n < limit

/-- Digits are collected as long as the number is not too large; it never becomes smaller again. -/
theorem ofDigits_eq_ok_iff {cs : List Char} {value : Nat} (fits : value < limit) :
    ofDigits value cs = .ok n ↔
      (∀ c ∈ cs, c.isDigit = true) ∧ Nat.ofDigitChars 10 cs value = n ∧ n < limit := by
  induction cs generalizing value with
  | nil =>
    rw [ofDigits, Nat.ofDigitChars_nil, Except.ok.injEq]
    constructor
    · rintro rfl
      exact ⟨List.forall_mem_nil _, rfl, fits⟩
    · rintro ⟨-, rfl, -⟩
      rfl
  | cons c cs ih =>
    rw [ofDigits, Nat.ofDigitChars_cons, List.forall_mem_cons, Nat.mul_comm 10 value]
    split
    · rename_i digit
      dsimp only
      split
      · rename_i small
        rw [ih small]
        simp only [digit, true_and]
      · rename_i large
        refine iff_of_false nofun ?_
        rintro ⟨-, rfl, fits⟩
        exact large (Nat.lt_of_le_of_lt (Digits.le_ofDigitChars cs _) fits)
    · rename_i other
      refine iff_of_false nofun ?_
      rintro ⟨⟨digit, -⟩, -⟩
      exact other digit

/-- Only a plus sign with something after it is passed over. -/
theorem ofChars_eq_ok_iff {cs : List Char} :
    ofChars cs = .ok n ↔
      ∃ digits, (cs = digits ∨ cs = '+' :: digits) ∧ digits ≠ [] ∧ ofDigits 0 digits = .ok n := by
  have plus (rest : List Char) : ofDigits 0 ('+' :: rest) ≠ .ok n := nofun
  unfold ofChars
  split
  · refine iff_of_false nofun ?_
    rintro ⟨digits, rfl | signed, some, -⟩
    · exact some rfl
    · cases signed
  · refine iff_of_false nofun ?_
    rintro ⟨digits, rfl | ⟨⟨⟩⟩, some, read⟩
    · exact plus [] read
    · exact some rfl
  · rename_i digits some
    constructor
    · intro read
      refine ⟨digits, .inr rfl, ?_, read⟩
      rintro rfl
      exact some rfl
    · rintro ⟨digits', rfl | ⟨⟨⟩⟩, -, read⟩
      · exact absurd read (plus digits)
      · exact read
  · rename_i some _ unsigned
    constructor
    · exact fun read => ⟨cs, .inl rfl, some, read⟩
    · rintro ⟨digits, rfl | rfl, -, read⟩
      · exact read
      · exact absurd rfl (unsigned digits)

/-- **A text is read as a number exactly if it spells it.** -/
theorem ofText_eq_ok_iff : ofText s = .ok n ↔ Spells s n := by
  have small : 0 < limit := by decide
  simp only [ofText, ofChars_eq_ok_iff, ofDigits_eq_ok_iff small]
  constructor
  · rintro ⟨digits, signed, some, all, value, fits⟩
    exact ⟨⟨digits, signed, some, all, value⟩, fits⟩
  · rintro ⟨⟨digits, signed, some, all, value⟩, fits⟩
    exact ⟨digits, signed, some, all, value, fits⟩

/-- The digits of a number spell it. -/
theorem spells_text (fits : n < limit) : Spells (text n) n := by
  refine ⟨⟨Nat.toDigits 10 n, .inl String.toList_ofList, Nat.toDigits_ne_nil, ?_, ?_⟩, fits⟩
  · exact fun c => Digits.isDigit_of_mem_toDigits
  · exact Nat.ofDigitChars_ten_toDigits

/-- There is no blank in the digits of a number. -/
theorem hasBareEnds_text (n : Nat) : Text.HasBareEnds (text n).toList := by
  apply Text.hasBareEnds_of_forall
  intro c mem
  rw [text, String.toList_ofList] at mem
  exact Text.isBlank_of_isDigit (Digits.isDigit_of_mem_toDigits mem)

end VirtLifecycle.Count
