/-
Module: VirtLifecycle.Proofs.Yaml.Printable
Purpose: Printed texts have only characters that can stand for themselves in a document, and no breaks but line
  feeds. A reader refuses a text with any other character, and changes other breaks, before it looks for tokens;
  to a printed text it does neither.
Main exports: Yaml.printable_scalarText, Yaml.printable_valueText, Yaml.ofText?_of_printable
-/
import VirtLifecycle.Proofs.Yaml.Numbers
import VirtLifecycle.Proofs.Yaml.Texts

namespace VirtLifecycle.Yaml

/-! ### Texts and keys -/

theorem printable_spaces (n : Nat) : (spaces n).all isPrintable = true := by
  rw [List.all_eq_true]
  intro c mem
  rw [List.eq_of_mem_replicate mem]
  rfl

/-- Lines are printable if their characters are, as themselves where they are breaks and as what is shown
for them otherwise. The margins are spaces. -/
theorem printable_linesText {n : Nat} {shown : Char → List Char} {s : List Char}
    (printable : ∀ c ∈ s, isPrintable c = true ∧ (shown c).all isPrintable = true) (broken : Bool) :
    (linesText n shown broken s).all isPrintable = true := by
  induction s generalizing broken with
  | nil => rfl
  | cons c s ih =>
    obtain ⟨⟨own, as⟩, rest⟩ := List.forall_mem_cons.mp printable
    rw [linesText]
    split
    · simp [own, ih rest]
    · cases broken <;> simp [as, printable_spaces, ih rest]

/-- The marks of a block are a digit and a sign. -/
theorem printable_blockHints (s : List Char) : (Page.blockHints s).all isPrintable = true := by
  have digits : (Nat.toDigits 10 Page.step).all isPrintable = true := by decide
  unfold Page.blockHints
  dsimp only
  rw [List.all_append, Bool.and_eq_true]
  constructor
  · split
    · exact digits
    · rfl
  · repeat' split
    all_goals rfl

/-- What is written for a text needs no escapes but those that it has. -/
theorem printable_scalarText (simpleKey : Bool) (within : Nat) (s : List Char) :
    (scalarText simpleKey within s).all isPrintable = true := by
  unfold scalarText
  cases chosen : Presentation.choose simpleKey s with
  | plain =>
    obtain ⟨c, more, rfl, bare⟩ := Scan.bare_of_plain chosen
    exact List.all_eq_true.mpr fun d mem => (bare.ink d mem).1
  | singleQuoted =>
    have carriable := Carriable.of_features (Presentation.of_singleQuoted chosen).2
    have quote : isPrintable '\'' = true := rfl
    have lines := @printable_linesText (within + Page.step) singleChar s (fun c mem => by
      have own := carriable.printable c mem
      unfold singleChar
      split <;> simp [own]) false
    cases ends : endsBroken false s <;> simp [singleText, ends, quote, lines, printable_spaces]
  | doubleQuoted =>
    have quote : isPrintable '"' = true := rfl
    have escapes : (s.flatMap escapeChar).all isPrintable = true := by
      rw [List.all_flatMap, List.all_eq_true]
      exact fun c _ => List.all_eq_true.mpr fun d mem => ((Scan.ink_escapeChar c).1 d mem).1
    simp only [doubleText, List.all_cons, List.all_append, List.all_nil, quote, escapes, Bool.and_self]
  | literal =>
    have mark : isPrintable '|' = true := rfl
    have feed : isPrintable '\n' = true := rfl
    have lines := @printable_linesText (within + Page.step) (fun c => [c]) s (fun c mem => by
      simp [(Scan.printable_of_literal chosen).2 c mem]) true
    simp only [literalText, List.all_cons, List.all_append, mark, feed, printable_blockHints, lines, Bool.and_self]

/-- The end of a line adds a line feed, or nothing. -/
theorem printable_scalarLine (simpleKey : Bool) (within : Nat) (s : List Char) :
    (scalarLine simpleKey within s).all isPrintable = true := by
  have feed : (lineEnd simpleKey s).all isPrintable = true := by
    unfold lineEnd
    split <;> rfl
  rw [scalarLine, List.all_append, printable_scalarText, feed]
  rfl

/-- A key adds its marks, a question mark and a colon, and the indentation before the second. -/
theorem printable_keyText (own : Nat) (key : String) : (keyText own key).all isPrintable = true := by
  have marks : isPrintable '?' = true ∧ isPrintable ' ' = true ∧ isPrintable ':' = true := by decide
  unfold keyText
  split <;> simp [marks, printable_scalarText, printable_scalarLine, printable_spaces]

/-! ### Values -/

/-- Before a value stand spaces and line feeds only. -/
theorem printable_before (spot : Spot) (own : Nat) :
    spot.gap.all isPrintable = true ∧ (spot.lead own).all isPrintable = true := by
  have space : isPrintable ' ' = true := rfl
  have feed : isPrintable '\n' = true := rfl
  cases spot <;> simp [Spot.gap, Spot.lead, space, feed, printable_spaces]

mutual

/-- What is written for a value is printable throughout. Numbers are, because they are legible; all else is
whatever it says. -/
theorem printable_valueText : (value : Json) → (spot : Spot) → Legible value →
    (valueText value spot).all isPrintable = true
  | .null, spot, _ | .bool true, spot, _ | .bool false, spot, _ => by
    rw [valueText, List.all_append, (printable_before spot 0).1]
    decide
  | .number n, spot, legible => by
    obtain ⟨c, s, text, bare⟩ := (ofScalar?_number legible).1
    have word : (Page.number n).all isPrintable = true := by
      rw [text]
      exact List.all_eq_true.mpr fun d mem => (bare.ink d mem).1
    rw [valueText, List.all_append, (printable_before spot 0).1, wordText, List.all_append, word]
    rfl
  | .text s, spot, _ => by
    rw [valueText, List.all_append, (printable_before spot 0).1, printable_scalarLine]
    rfl
  | .array [], spot, _ | .object [], spot, _ => by
    rw [valueText, List.all_append, (printable_before spot 0).1]
    decide
  | .array (item :: items), spot, legible => by
    have dash : isPrintable '-' = true := rfl
    rw [valueText]
    simp [(printable_before spot _).2, dash, printable_valueText item _ legible.1,
      printable_itemsText items legible.2]
  | .object ((key, member) :: members), spot, legible => by
    rw [valueText]
    simp [(printable_before spot _).2, printable_keyText, printable_valueText member _ legible.1,
      printable_membersText members legible.2]

theorem printable_itemsText {own : Nat} : (items : List Json) → ItemsLegible items →
    (itemsText own items).all isPrintable = true
  | [], _ => rfl
  | item :: items, legible => by
    have dash : isPrintable '-' = true := rfl
    rw [itemsText]
    simp [printable_spaces, dash, printable_valueText item _ legible.1, printable_itemsText items legible.2]

theorem printable_membersText {own : Nat} : (members : List (String × Json)) → MembersLegible members →
    (membersText own members).all isPrintable = true
  | [], _ => rfl
  | (key, member) :: members, legible => by
    rw [membersText]
    simp [printable_spaces, printable_keyText, printable_valueText member _ legible.1,
      printable_membersText members legible.2]

end

/-! ### Reading -/

/-- Breaks that would be changed are not printable. -/
theorem normalizeBreaks_of_printable {cs : List Char} (each : ∀ c ∈ cs, isPrintable c = true) :
    Cursor.normalizeBreaks cs = cs := by
  induction cs with
  | nil => rfl
  | cons c cs ih =>
    obtain ⟨first, rest⟩ := List.forall_mem_cons.mp each
    have return' : c ≠ '\r' := by
      rintro rfl
      exact absurd first (by decide)
    have nextLine : c ≠ '\u0085' := by
      rintro rfl
      exact absurd first (by decide)
    rw [Cursor.normalizeBreaks.eq_def]
    split
    · rename_i shape
      exact absurd (List.cons.inj shape).1 return'
    · rename_i shape
      exact absurd (List.cons.inj shape).1 return'
    · rename_i shape
      exact absurd (List.cons.inj shape).1 nextLine
    · rename_i shape
      obtain ⟨rfl, rfl⟩ := List.cons.inj shape
      rw [ih rest]
    · rename_i shape
      cases shape

/-- What can stand for itself in a document is allowed there, and is no break that a reader would change. -/
theorem ofText?_of_printable {cs : List Char} (printable : cs.all isPrintable = true) :
    Cursor.ofText? (String.ofList cs) = some ⟨cs, ⟨0, 0, 0⟩⟩ := by
  have each := List.all_eq_true.mp printable
  have allowed : cs.all Cursor.isAllowed = true := by
    rw [List.all_eq_true]
    intro c mem
    have shown := each c mem
    simp only [isPrintable, Bool.or_eq_true, Bool.and_eq_true, decide_eq_true_eq, beq_iff_eq] at shown
    simp only [Cursor.isAllowed, Bool.or_eq_true, Bool.and_eq_true, decide_eq_true_eq, beq_iff_eq]
    omega
  rw [Cursor.ofText?, String.toList_ofList, if_pos allowed, normalizeBreaks_of_printable each]

end VirtLifecycle.Yaml
