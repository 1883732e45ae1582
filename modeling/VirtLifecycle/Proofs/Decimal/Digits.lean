/-
Module: VirtLifecycle.Proofs.Decimal.Digits
Purpose: Numbers as digits, with zeros in front up to a number of places. The digits read back as the
  number, and there are as many as there are places if the number is not too large.
Main exports: Duration.isDigit_of_mem_padded, Duration.ofDigitChars_padded, Duration.length_padded,
  Digits.ofDigitChars_lt, takeWhile_append_stop
-/
import Mathlib.Algebra.Group.Nat.Defs
import VirtLifecycle.Time.Duration

namespace VirtLifecycle

/-- What is taken from a list that goes on with something else is its first part. -/
theorem takeWhile_append_stop {α : Type} {p : α → Bool} {taken rest : List α}
    (all : ∀ a ∈ taken, p a = true) (stop : ∀ a, rest.head? = some a → p a = false) :
    (taken ++ rest).takeWhile p = taken ∧ (taken ++ rest).dropWhile p = rest := by
  rw [List.takeWhile_append_of_pos all, List.dropWhile_append_of_pos all]
  cases rest with
  | nil => exact ⟨List.append_nil taken, rfl⟩
  | cons a rest =>
    have stops := stop a rfl
    rw [List.takeWhile_cons_of_neg (by simp [stops]), List.dropWhile_cons_of_neg (by simp [stops])]
    exact ⟨List.append_nil taken, rfl⟩

theorem Digits.le_ofDigitChars (cs : List Char) (n : Nat) : n ≤ Nat.ofDigitChars 10 cs n := by
  induction cs generalizing n with
  | nil => exact Nat.le_refl n
  | cons c cs ih =>
    rw [Nat.ofDigitChars_cons]
    have := ih (10 * n + (c.toNat - '0'.toNat))
    omega

/-- Digits that go on after a number are a number with as many more places. -/
theorem Digits.ofDigitChars_lt {cs : List Char} (digits : ∀ c ∈ cs, c.isDigit = true) (n : Nat) :
    Nat.ofDigitChars 10 cs n < (n + 1) * 10 ^ cs.length := by
  induction cs generalizing n with
  | nil =>
    rw [Nat.ofDigitChars_nil, List.length_nil, Nat.pow_zero, Nat.mul_one]
    exact Nat.lt_succ_self n
  | cons c cs ih =>
    have bounds := Char.isDigit_iff_toNat.mp (digits c List.mem_cons_self)
    have step : 10 * n + (c.toNat - '0'.toNat) + 1 ≤ (n + 1) * 10 := by
      have low : '0'.toNat = 48 := rfl
      have high : '9'.toNat = 57 := rfl
      omega
    rw [Nat.ofDigitChars_cons, List.length_cons, Nat.pow_succ', ← Nat.mul_assoc]
    exact Nat.lt_of_lt_of_le (ih (fun d mem => digits d (List.mem_cons_of_mem c mem)) _)
      (Nat.mul_le_mul_right _ step)

theorem Digits.isDigit_of_mem_toDigits {n : Nat} {c : Char} (mem : c ∈ Nat.toDigits 10 n) :
    c.isDigit = true :=
  Nat.isDigit_of_mem_toDigits (by decide) (by decide) mem

/-- Only the number zero begins with a zero. -/
theorem Digits.length_toDigits_of_zero {n : Nat} (zero : (Nat.toDigits 10 n).head? = some '0') :
    (Nat.toDigits 10 n).length = 1 := by
  cases digits : Nat.toDigits 10 n with
  | nil => exact absurd digits Nat.toDigits_ne_nil
  | cons c cs =>
    rw [digits] at zero
    cases zero
    cases cs with
    | nil => rfl
    | cons d ds =>
      -- A zero in front would make the number too small for so many digits.
      have value : n = Nat.ofDigitChars 10 (d :: ds) 0 := by
        have back : Nat.ofDigitChars 10 (Nat.toDigits 10 n) 0 = n := Nat.ofDigitChars_ten_toDigits
        rw [digits, Nat.ofDigitChars_cons] at back
        exact back.symm
      have all : ∀ e ∈ d :: ds, e.isDigit = true := fun e mem =>
        Digits.isDigit_of_mem_toDigits (digits ▸ List.mem_cons_of_mem _ mem)
      have small : n < 10 ^ (d :: ds).length := by
        have bound := Digits.ofDigitChars_lt all 0
        rwa [Nat.zero_add, Nat.one_mul, ← value] at bound
      have short := (Nat.length_toDigits_le_iff (by decide) (Nat.succ_pos _)).mpr small
      rw [digits, List.length_cons] at short
      exact absurd short (Nat.not_succ_le_self _)

namespace Duration

theorem isDigit_of_mem_padded {places n : Nat} {c : Char} (mem : c ∈ padded places n) :
    c.isDigit = true := by
  unfold padded at mem
  rcases List.mem_append.mp mem with zero | digit
  · rw [List.eq_of_mem_replicate zero]
    rfl
  · exact Digits.isDigit_of_mem_toDigits digit

theorem ofDigitChars_padded (places n : Nat) : Nat.ofDigitChars 10 (padded places n) 0 = n := by
  unfold padded
  rw [Nat.ofDigitChars_append, Nat.ofDigitChars_replicate_zero, Nat.mul_zero,
    Nat.ofDigitChars_ten_toDigits]

theorem padded_ne_nil (places n : Nat) : padded places n ≠ [] := by
  unfold padded
  exact List.append_ne_nil_of_right_ne_nil _ Nat.toDigits_ne_nil

theorem length_padded {places n : Nat} (positive : 0 < places) (fits : n < 10 ^ places) :
    (padded places n).length = places := by
  have few := (Nat.length_toDigits_le_iff (by decide : 1 < 10) positive).mpr fits
  rw [padded, List.length_append, List.length_replicate]
  omega

end Duration

end VirtLifecycle
