/-
Module: VirtLifecycle.Proofs.Text.Blank
Purpose: Trimming. A text is its core with blanks around it, in one way only, and trimming gives the core;
  so a text with no blank at its ends is left as it is.
Main exports: Text.HasBareEnds, Text.IsCore, Text.isCore_iff, Text.isCore_self
-/
import Mathlib.Data.List.TakeWhile
import VirtLifecycle.Proofs.Decimal.Digits
import VirtLifecycle.Text.Blank

namespace VirtLifecycle.Text

/-- No blank stands at either end. -/
structure HasBareEnds (cs : List Char) : Prop where
  front : ∀ c, cs.head? = some c → isBlank c = false
  back : ∀ c, cs.getLast? = some c → isBlank c = false

/-- The text is a core that has no blank at its ends, with blanks around it. -/
structure IsCore (s core : String) : Prop where
  bare : HasBareEnds core.toList
  around : ∃ front back, s.toList = front ++ core.toList ++ back ∧
    (∀ c ∈ front, isBlank c = true) ∧ ∀ c ∈ back, isBlank c = true

theorem isBlank_of_isDigit {c : Char} (digit : c.isDigit = true) : isBlank c = false := by
  have bounds := Char.isDigit_iff_toNat.mp digit
  have low : '0'.toNat = 48 := rfl
  have high : '9'.toNat = 57 := rfl
  simp [isBlank]
  omega

variable {cs rest front back : List Char} {s core : String}

theorem dropBlanks_of_head (head : ∀ c, cs.head? = some c → isBlank c = false) :
    dropBlanks cs = cs := by
  cases cs with
  | nil => rfl
  | cons c cs =>
    have first := head c rfl
    rw [dropBlanks, List.dropWhile_cons_of_neg (by simp [first])]

theorem dropBlanks_append (blank : ∀ c ∈ front, isBlank c = true)
    (head : ∀ c, rest.head? = some c → isBlank c = false) : dropBlanks (front ++ rest) = rest :=
  (takeWhile_append_stop blank head).2

/-- What is left of a list begins with no blank, and there were only blanks before it. -/
theorem exists_dropBlanks (cs : List Char) :
    (∀ c, (dropBlanks cs).head? = some c → isBlank c = false) ∧
      ∃ front, cs = front ++ dropBlanks cs ∧ ∀ c ∈ front, isBlank c = true := by
  constructor
  · intro c head
    have stop := List.head?_dropWhile_not isBlank cs
    rw [dropBlanks] at head
    rw [head] at stop
    simpa using stop
  · exact ⟨cs.takeWhile isBlank, List.takeWhile_append_dropWhile.symm,
      fun c => List.mem_takeWhile_imp⟩

/-- Taking the blanks off the end leaves the front as it was. -/
theorem head?_of_append {c : Char} (head : cs.head? = some c) (rest : List Char) :
    (cs ++ rest).head? = some c := by
  rw [List.head?_append, head, Option.some_or]

/-- Trimming gives the core. -/
theorem trim_eq_of_isCore (isCore : IsCore s core) : trim s = core := by
  obtain ⟨bare, front, back, whole, blankFront, blankBack⟩ := isCore
  have blankBack' : ∀ c ∈ back.reverse, isBlank c = true := fun c mem =>
    blankBack c (List.mem_reverse.mp mem)
  rw [trim, trimChars, whole, List.append_assoc]
  by_cases empty : core.toList = []
  · -- there is nothing but blanks, which are all dropped in front
    have all : ∀ c ∈ front ++ back, isBlank c = true := fun c mem =>
      (List.mem_append.mp mem).elim (blankFront c) (blankBack c)
    have dropped : dropBlanks (front ++ back) = [] := List.dropWhile_eq_nil_iff.mpr all
    rw [empty, List.nil_append, dropped]
    exact (congrArg String.ofList empty.symm).trans String.ofList_toList
  · have head : ∀ c, (core.toList ++ back).head? = some c → isBlank c = false := by
      intro c found
      rw [List.head?_append, List.head?_eq_some_head empty, Option.some_or,
        ← List.head?_eq_some_head empty] at found
      exact bare.front c found
    have last : ∀ c, core.toList.reverse.head? = some c → isBlank c = false := by
      intro c found
      rw [List.head?_reverse] at found
      exact bare.back c found
    rw [dropBlanks_append blankFront head, List.reverse_append, dropBlanks_append blankBack' last,
      List.reverse_reverse, String.ofList_toList]

/-- What trimming gives is a core. -/
theorem isCore_trim (s : String) : IsCore s (trim s) := by
  obtain ⟨head, front, whole, blankFront⟩ := exists_dropBlanks s.toList
  obtain ⟨last, back, rest, blankBack⟩ := exists_dropBlanks (dropBlanks s.toList).reverse
  have core : dropBlanks s.toList = trimChars s.toList ++ back.reverse := by
    rw [trimChars, ← List.reverse_append, ← rest, List.reverse_reverse]
  constructor
  · rw [trim, String.toList_ofList]
    constructor
    · intro c found
      apply head
      rw [core]
      exact head?_of_append found back.reverse
    · intro c found
      rw [trimChars, List.getLast?_reverse] at found
      exact last c found
  · refine ⟨front, back.reverse, ?_, blankFront, fun c mem => blankBack c (List.mem_reverse.mp mem)⟩
    rw [trim, String.toList_ofList, List.append_assoc, ← core, ← whole]

/-- **Trimming gives the one core of a text.** -/
theorem isCore_iff : IsCore s core ↔ trim s = core := by
  constructor
  · exact trim_eq_of_isCore
  · rintro rfl
    exact isCore_trim s

/-- A text without blanks at its ends is its own core. -/
theorem isCore_self (bare : HasBareEnds s.toList) : IsCore s s :=
  ⟨bare, [], [], (List.append_nil _).symm, List.forall_mem_nil _, List.forall_mem_nil _⟩

/-- A list without blanks has none at its ends. -/
theorem hasBareEnds_of_forall (bare : ∀ c ∈ cs, isBlank c = false) : HasBareEnds cs :=
  ⟨fun c head => bare c (List.mem_of_head? head), fun c last => bare c (List.mem_of_getLast? last)⟩

end VirtLifecycle.Text
