/-
Module: VirtLifecycle.Proofs.Yaml.Quoted
Purpose: Texts that are written between quotes and read. Between double quotes each character is read back
  from its escape; between single quotes the lines of a text are found again behind their indentation.
  Each presentation is chosen only for texts that it can carry, as their features say.
Main exports: Yaml.Place.over, Yaml.Scan.ink_escapeChar, Yaml.Scan.quoted?_doubleText,
  Yaml.Scan.quoted?_singleText
-/
import Mathlib.Tactic.IntervalCases
import VirtLifecycle.Proofs.Yaml.Layout
import VirtLifecycle.Yaml.Token.Scalars

namespace VirtLifecycle.Yaml

/-! ### Places -/

/-- The place after a text. -/
def Place.over (p : Place) (cs : List Char) : Place := cs.foldl Place.after p

namespace Place

@[simp] theorem over_nil (p : Place) : p.over [] = p := rfl

@[simp] theorem over_cons (p : Place) (c : Char) (cs : List Char) : p.over (c :: cs) = (p.after c).over cs := rfl

@[simp] theorem over_append (p : Place) (cs ds : List Char) : p.over (cs ++ ds) = (p.over cs).over ds :=
  List.foldl_append

/-- Reading on never leads back to an earlier line. -/
theorem line_le_over (p : Place) (cs : List Char) : p.line ≤ (p.over cs).line := by
  induction cs generalizing p with
  | nil => exact Nat.le_refl _
  | cons c cs ih =>
    have after : p.line ≤ (p.after c).line := by cases breaks : isBreak c <;> simp [after, breaks]
    exact Nat.le_trans after (ih _)

/-- A break leads to a later line. -/
theorem line_lt_over (p : Place) {cs : List Char} (breaks : ∃ c ∈ cs, isBreak c = true) :
    p.line < (p.over cs).line := by
  obtain ⟨c, mem, breaks⟩ := breaks
  obtain ⟨front, back, rfl⟩ := List.append_of_mem mem
  rw [over_append, over_cons]
  have before := p.line_le_over front
  have behind := ((p.over front).after c).line_le_over back
  have there : ((p.over front).after c).line = (p.over front).line + 1 := by simp [after, breaks]
  omega

/-- Without breaks the place stays in its line. -/
theorem over_of_line (p : Place) {cs : List Char} (line : ∀ c ∈ cs, isBreak c = false) :
    p.over cs = ⟨p.line, p.column + cs.length, p.index + cs.length⟩ := by
  induction cs generalizing p with
  | nil => rfl
  | cons c cs ih =>
    obtain ⟨first, rest⟩ := List.forall_mem_cons.mp line
    rw [over_cons, ih _ rest]
    simp [after, first, Nat.add_assoc, Nat.add_comm 1]

/-- Spaces lead on within the line. -/
theorem over_spaces (p : Place) (n : Nat) : p.over (spaces n) = ⟨p.line, p.column + n, p.index + n⟩ := by
  have line : ∀ c ∈ spaces n, isBreak c = false := fun c mem => by
    rw [List.eq_of_mem_replicate mem]
    rfl
  rw [over_of_line p line, spaces, List.length_replicate]

theorem column_over_spaces (p : Place) (n : Nat) : (p.over (spaces n)).column = p.column + n := by
  rw [over_spaces]

end Place

/-! ### Escapes -/

/-- A digit is read in capitals as well. -/
theorem hexValue?_toUpper_digitChar {d : Nat} (digit : d < 16) :
    Scan.hexValue? (Nat.digitChar d).toUpper = some d := by
  interval_cases d <;> rfl

/-- The number of hexadecimal digits, the first one first. -/
def hexNumber? (value : Nat) (ds : List Char) : Option Nat :=
  ds.foldlM (fun value d => (Scan.hexValue? d).map (value * 16 + ·)) value

/-- A number is read digit by digit, from any value so far. -/
theorem hexNumber?_append (value : Nat) (ds es : List Char) :
    hexNumber? value (ds ++ es) = (hexNumber? value ds).bind (hexNumber? · es) := by
  rw [hexNumber?, List.foldlM_append]
  rfl

/-- The digits that are written for a number are read as the number. -/
theorem hexNumber?_toDigits (n : Nat) : hexNumber? 0 ((Nat.toDigits 16 n).map Char.toUpper) = some n := by
  induction n using Nat.strongRecOn with
  | ind n ih =>
    by_cases small : n < 16
    · rw [Nat.toDigits_of_lt_base small]
      simp [hexNumber?, hexValue?_toUpper_digitChar small]
    · have step := Nat.toDigits_of_base_le (b := 16) (by decide) (Nat.le_of_not_lt small)
      have last : n % 16 < 16 := Nat.mod_lt _ (by decide)
      rw [step, List.map_append, hexNumber?_append, ih (n / 16) (by omega)]
      simp only [hexNumber?, List.map_cons, List.map_nil, List.foldlM_cons, List.foldlM_nil, Option.bind_some,
        hexValue?_toUpper_digitChar last, Option.map_some]
      simp
      omega

/-- A code is read back from its digits, zeros in front included. -/
theorem hexNumber?_capitalHex (places n : Nat) : hexNumber? 0 (capitalHex places n) = some n := by
  have zeros (k : Nat) : hexNumber? 0 (List.replicate k '0') = some 0 := by
    induction k with
    | zero => rfl
    | succ k ih => exact ih
  rw [capitalHex, hexNumber?_append, zeros]
  exact hexNumber?_toDigits n

/-- A number that fits takes exactly as many places as there are. -/
theorem length_capitalHex {places n : Nat} (positive : 0 < places) (fits : n < 16 ^ places) :
    (capitalHex places n).length = places := by
  have few := (Nat.length_toDigits_le_iff (by decide : 1 < 16) positive).mpr fits
  rw [capitalHex, List.length_append, List.length_replicate, List.length_map]
  omega

namespace Scan

/-- The digits of an escape are read as the character with their number. -/
theorem quoted?_digits {ds : List Char} {value code : Nat} {e : Char} (some : ds ≠ [])
    (number : hexNumber? value ds = .some code) (char : charOf? code = .some e) (rest : List Char) (p : Place)
    (text : List Char) (gap : Gap) :
    quoted? true (ds ++ rest) p text gap (.digits ds.length value) =
      quoted? true rest (p.over ds) (e :: text) gap .char := by
  induction ds generalizing value p with
  | nil => exact absurd rfl some
  | cons d ds ih =>
    rw [hexNumber?, List.foldlM_cons] at number
    obtain ⟨digit, is, number⟩ := Option.bind_eq_some_iff.mp number
    obtain ⟨v, read, rfl⟩ := Option.map_eq_some_iff.mp is
    cases ds with
    | nil =>
      obtain rfl : value * 16 + v = code := Option.some.inj number
      simp [quoted?, read, char]
    | cons d' ds =>
      have later := ih (List.cons_ne_nil d' ds) number (p.after d)
      simpa [quoted?, read] using later

/-- Where a marker between documents stands the column is zero. -/
theorem atDocumentMarker_of_column {p : Place} (inside : 0 < p.column) (rest : List Char) :
    Cursor.atDocumentMarker rest p = false := by
  have apart : (p.column == 0) = false := by simp; omega
  simp [Cursor.atDocumentMarker, Cursor.atMarker, apart]

/-- The backslash of an escape. -/
theorem quoted?_backslash (rest : List Char) {p : Place} (inside : 0 < p.column) (text : List Char) (gap : Gap) :
    quoted? true ('\\' :: rest) p text gap .char =
      quoted? true rest (p.after '\\') (gap.shown ++ text) Gap.empty .escape := by
  have white : isWhite '\\' = false := rfl
  simp [quoted?, white, atDocumentMarker_of_column inside]

/-- A character that is written as it is and leaves the line as it is. -/
def IsInk (c : Char) : Prop := isPrintable c = true ∧ isBreak c = false

instance (c : Char) : Decidable (IsInk c) := inferInstanceAs (Decidable (_ ∧ _))

theorem isInk_of_hexValue? {d : Char} {v : Nat} (read : hexValue? d = some v) : IsInk d := by
  have range : (48 ≤ d.toNat ∧ d.toNat ≤ 57) ∨ (97 ≤ d.toNat ∧ d.toNat ≤ 102) ∨
      (65 ≤ d.toNat ∧ d.toNat ≤ 70) := by
    unfold hexValue? at read
    split at read
    · exact .inl (Char.isDigit_iff_toNat.mp ‹_›)
    · split at read
      · exact .inr (.inl ‹_›)
      · split at read
        · exact .inr (.inr ‹_›)
        · cases read
  refine ⟨?_, ?_⟩
  · simp only [isPrintable, Bool.or_eq_true, Bool.and_eq_true, decide_eq_true_eq, beq_iff_eq]
    omega
  · have apart {e : Char} (far : 0x80 ≤ e.toNat ∨ e.toNat < 0x20) : (d == e) = false := by
      simp only [beq_eq_false_iff_ne, ne_eq]
      rintro rfl
      omega
    simp [isBreak, apart (show 0x80 ≤ '\n'.toNat ∨ '\n'.toNat < 0x20 by decide),
      apart (show 0x80 ≤ '\u2028'.toNat ∨ '\u2028'.toNat < 0x20 by decide),
      apart (show 0x80 ≤ '\u2029'.toNat ∨ '\u2029'.toNat < 0x20 by decide)]

/-- The digits of an escape are shown as they are. -/
theorem isInk_of_hexNumber? {ds : List Char} {value code : Nat} (number : hexNumber? value ds = some code) :
    ∀ d ∈ ds, IsInk d := by
  induction ds generalizing value with
  | nil => exact List.forall_mem_nil _
  | cons d ds ih =>
    rw [hexNumber?, List.foldlM_cons] at number
    obtain ⟨digit, is, number⟩ := Option.bind_eq_some_iff.mp number
    obtain ⟨v, read, -⟩ := Option.map_eq_some_iff.mp is
    exact List.forall_mem_cons.mpr ⟨isInk_of_hexValue? read, ih number⟩

/-- What stands behind the backslash in the escape of a character: it is read as the character, stands in one
line, and is not long for the bytes that the character has. -/
structure Escapes (c : Char) (tail : List Char) : Prop where
  read : ∀ (rest : List Char) (p : Place) (text : List Char) (gap : Gap),
    quoted? true (tail ++ rest) p text gap .escape = quoted? true rest (p.over tail) (c :: text) gap .char
  ink : ∀ d ∈ tail, IsInk d
  short : tail.length < 4 * c.utf8Size

/-- A letter that stands for a character. -/
theorem escapes_letter {letter c : Char} (read : escaped? letter = some c) (ink : IsInk letter) :
    Escapes c [letter] where
  read rest p text gap := by simp [quoted?, read, ink.2]
  ink := by simpa using ink
  short := by
    have size := c.utf8Size_pos
    rw [List.length_singleton]
    omega

/-- A letter with the digits of a code behind it. -/
theorem escapes_code {letter : Char} {places : Nat} (read : escaped? letter = none)
    (digits : escapeDigits? letter = some places) (ink : IsInk letter) (positive : 0 < places) {c : Char}
    (fits : c.toNat < 16 ^ places) (short : places + 1 < 4 * c.utf8Size) :
    Escapes c (letter :: capitalHex places c.toNat) where
  read rest p text gap := by
    have length := length_capitalHex positive fits
    have some : capitalHex places c.toNat ≠ [] := by
      refine List.ne_nil_of_length_pos ?_
      rw [length]
      exact positive
    have valid : c.toNat.isValidChar := c.valid
    have char : charOf? c.toNat = .some c := by rw [charOf?, if_pos valid, Char.ofNat_toNat]
    have later := quoted?_digits some (hexNumber?_capitalHex places c.toNat) char rest (p.after letter) text gap
    rw [length] at later
    simp [quoted?, read, digits, ink.2, later]
  ink := List.forall_mem_cons.mpr ⟨ink, isInk_of_hexNumber? (hexNumber?_capitalHex places _)⟩
  short := by
    rw [List.length_cons, length_capitalHex positive fits]
    exact short

/-- Every character that is escaped is read back from its escape. The cases are those of the table of escapes,
in the order in which a character is looked up there. -/
theorem escapes_tail {c : Char} {tail : List Char}
    (plain : ¬ (isPrintable c && !isBreak c && c != '"' && c != '\\') = true)
    (shown : escapeChar c = '\\' :: tail) : Escapes c tail := by
  have code {n : Nat} (same : c.toNat = n) : c = Char.ofNat n := (Char.ofNat_toNat c).symm.trans (same ▸ rfl)
  have below : c.toNat < 0x110000 := by
    have valid : c.toNat.isValidChar := c.valid
    rcases valid with low | ⟨-, high⟩
    · exact Nat.lt_trans low (by decide)
    · exact high
  have size : (c.toNat ≤ 0xFF ∨ 2 ≤ c.utf8Size) ∧ (c.toNat ≤ 0xFFFF ∨ 4 ≤ c.utf8Size) ∧ 1 ≤ c.utf8Size := by
    have one := c.utf8Size_eq_one_iff
    have four := c.utf8Size_eq_four_iff
    have pos := c.utf8Size_pos
    rw [UInt32.le_iff_toNat_le] at one
    rw [UInt32.lt_iff_toNat_lt] at four
    have value : c.val.toNat = c.toNat := rfl
    have low : UInt32.toNat 127 = 127 := rfl
    have high : UInt32.toNat 65535 = 65535 := rfl
    omega
  obtain rfl := (List.cons.inj ((if_neg plain).symm.trans shown)).2
  iterate 9
    refine iteInduction (motive := Escapes c) (fun same => ?_) fun _ => ?_
    · cases code same
      exact escapes_letter rfl (by decide)
  refine iteInduction (motive := Escapes c) (fun marked => ?_) fun _ => ?_
  · rcases marked with rfl | rfl <;> exact escapes_letter rfl (by decide)
  iterate 4
    refine iteInduction (motive := Escapes c) (fun same => ?_) fun _ => ?_
    · cases code same
      exact escapes_letter rfl (by decide)
  refine iteInduction (motive := Escapes c) (fun small => ?_) fun _ => ?_
  · exact escapes_code rfl rfl (by decide) (by decide) (by omega) (by omega)
  refine iteInduction (motive := Escapes c) (fun small => ?_) fun _ => ?_
  · exact escapes_code rfl rfl (by decide) (by decide) (by omega) (by omega)
  · exact escapes_code rfl rfl (by decide) (by decide) (by omega) (by omega)

/-- A character other than a space is read back from its escape. The cases are those of the escapes: itself,
a letter, or a letter with digits. -/
theorem quoted?_escapeChar {c : Char} (solid : c ≠ ' ') (rest : List Char) {p : Place} (inside : 0 < p.column)
    (text : List Char) (gap : Gap) :
    quoted? true (escapeChar c ++ rest) p text gap .char =
      quoted? true rest (p.over (escapeChar c)) (c :: (gap.shown ++ text)) Gap.empty .char := by
  by_cases plain : (isPrintable c && !isBreak c && c != '"' && c != '\\') = true
  · have shown : escapeChar c = [c] := if_pos plain
    simp only [Bool.and_eq_true, Bool.not_eq_true', bne_iff_ne, ne_eq] at plain
    obtain ⟨⟨⟨printable, line⟩, notQuote⟩, notSlash⟩ := plain
    have notTab : c ≠ '\t' := by
      rintro rfl
      exact absurd printable (by decide)
    have white : isWhite c = false := by simp [isWhite, isTabOrSpace, solid, notTab, line]
    rw [shown]
    simp [quoted?, white, atDocumentMarker_of_column inside, notQuote, notSlash]
  · obtain ⟨tail, shown⟩ : ∃ tail, escapeChar c = '\\' :: tail := ⟨_, if_neg plain⟩
    rw [shown, List.cons_append, Place.over_cons, quoted?_backslash _ inside]
    exact (escapes_tail plain shown).read rest _ _ _

/-- An escape stands in one line, and has at most four characters for each byte of its own. -/
theorem ink_escapeChar (c : Char) :
    (∀ d ∈ escapeChar c, IsInk d) ∧ (escapeChar c).length ≤ 4 * c.utf8Size := by
  by_cases plain : (isPrintable c && !isBreak c && c != '"' && c != '\\') = true
  · have shown : escapeChar c = [c] := if_pos plain
    have size := c.utf8Size_pos
    simp only [Bool.and_eq_true, Bool.not_eq_true'] at plain
    rw [shown]
    exact ⟨by simpa [IsInk] using plain.1.1, by rw [List.length_singleton]; omega⟩
  · obtain ⟨tail, shown⟩ : ∃ tail, escapeChar c = '\\' :: tail := ⟨_, if_neg plain⟩
    have escapes := escapes_tail plain shown
    rw [shown]
    exact ⟨List.forall_mem_cons.mpr ⟨by decide, escapes.ink⟩, escapes.short⟩

/-- Ink takes a place further in its line. -/
theorem inside_over {p : Place} (inside : 0 < p.column) {cs : List Char} (ink : ∀ c ∈ cs, IsInk c) :
    0 < (p.over cs).column := by
  rw [p.over_of_line fun c mem => (ink c mem).2]
  exact Nat.lt_of_lt_of_le inside (Nat.le_add_right _ _)

/-- A text is read back from its escapes. Spaces are kept aside until something follows them, be it the quote. -/
theorem quoted?_escapes (s rest : List Char) {p : Place} (inside : 0 < p.column) (text blanks : List Char) :
    quoted? true (s.flatMap escapeChar ++ '"' :: rest) p text ⟨blanks, none, [], false⟩ .char =
      some ⟨String.ofList (s.reverse ++ (blanks ++ text)).reverse, false,
        ⟨rest, p.over (s.flatMap escapeChar ++ ['"'])⟩⟩ := by
  induction s generalizing p text blanks with
  | nil =>
    have white : isWhite '"' = false := rfl
    simp [quoted?, white, atDocumentMarker_of_column inside, Gap.shown]
  | cons c s ih =>
    rw [List.flatMap_cons, List.append_assoc]
    by_cases space : c = ' '
    · subst space
      have escape : escapeChar ' ' = [' '] := by decide
      have white : isWhite ' ' = true := rfl
      have line : isBreak ' ' = false := rfl
      have further : 0 < (p.after ' ').column := by simp [Place.after, line]
      have later := ih further text (' ' :: blanks)
      simpa [escape, quoted?, white, Gap.add, line] using later
    · have later := ih (inside_over inside (ink_escapeChar c).1) (c :: (blanks ++ text)) []
      rw [quoted?_escapeChar space _ inside]
      simpa [Gap.shown, Gap.empty] using later

/-- **A text between double quotes is read back**, from behind the first quote. -/
theorem quoted?_doubleText (s rest : List Char) {p : Place} (inside : 0 < p.column) :
    quoted? true ((doubleText s).tail ++ rest) p [] Gap.empty .char =
      some ⟨String.ofList s, false, ⟨rest, p.over (doubleText s).tail⟩⟩ := by
  have read := quoted?_escapes s rest inside [] []
  simpa [doubleText, Gap.empty] using read

/-! ### Between single quotes -/

/-- The margin of a line does not count. -/
theorem quoted?_margin {gap : Gap} (broken : gap.broken = true) (double : Bool) (n : Nat) (rest : List Char)
    (p : Place) (text : List Char) :
    quoted? double (spaces n ++ rest) p text gap .char =
      quoted? double rest (p.over (spaces n)) text gap .char := by
  induction n generalizing p with
  | zero => rfl
  | succ n ih =>
    have white : isWhite ' ' = true := rfl
    have line : isBreak ' ' = false := rfl
    have same : gap.add ' ' = gap := by simp [Gap.add, line, broken]
    rw [spaces, List.replicate_succ, List.cons_append, quoted?, if_pos white, same]
    exact ih _

/-- A gap that holds its breaks as they are: the first one is no line feed. -/
structure Gap.Holds (gap : Gap) (broken : Bool) : Prop where
  kept : gap.broken = broken
  noFeed : broken = true → gap.first ≠ some '\n'

namespace Gap.Holds

variable {gap : Gap}

/-- After a break what is shown of a gap is its breaks: the blanks before the first one are dropped. -/
theorem shown_eq (holds : gap.Holds true) : gap.shown = gap.later ++ gap.first.toList := by
  unfold shown
  rw [if_pos holds.kept]
  split
  · rename_i first
    exact absurd first (holds.noFeed rfl)
  · rfl

/-- A break that is no line feed is kept as it is. At the end of a line there must be no blanks before it,
since they would be lost. -/
theorem add_break {c : Char} (breaks : isBreak c = true) (noFeed : c ≠ '\n') {broken : Bool}
    (holds : gap.Holds broken) (clear : broken = false → gap.blanks = []) :
    (gap.add c).Holds true ∧ (gap.add c).shown = c :: gap.shown := by
  cases broken with
  | true =>
    have added : gap.add c = { gap with later := c :: gap.later } := by simp [add, breaks, holds.kept]
    have again : (gap.add c).Holds true := by
      rw [added]
      exact ⟨holds.kept, holds.noFeed⟩
    exact ⟨again, by rw [again.shown_eq, holds.shown_eq, added, List.cons_append]⟩
  | false =>
    have added : gap.add c = ⟨[], some c, [], true⟩ := by simp [add, breaks, holds.kept]
    have again : (gap.add c).Holds true := by
      rw [added]
      exact ⟨rfl, fun _ => by simpa using noFeed⟩
    have blank : gap.shown = [] := by simp [shown, holds.kept, clear rfl]
    exact ⟨again, by rw [again.shown_eq, blank, added]; rfl⟩

end Gap.Holds

/-- A character between single quotes: a space is put aside, and any other one is read with what was. -/
theorem quoted?_singleChar {c : Char} (shown : isWhite c = false ∨ c = ' ') {broken : Bool} {gap : Gap}
    (holds : gap.Holds broken) (within : broken = true → c ≠ ' ') {p : Place} (inside : 0 < p.column)
    (text : List Char) :
    0 < (p.over (singleChar c)).column ∧ ∃ text' gap',
      (∀ rest, quoted? false (singleChar c ++ rest) p text gap .char =
        quoted? false rest (p.over (singleChar c)) text' gap' .char) ∧
      gap'.shown ++ text' = c :: (gap.shown ++ text) ∧ gap'.Holds false ∧ (gap'.blanks = [] ∨ c = ' ') := by
  rcases shown with ink | rfl
  · have line : isBreak c = false := (Bool.or_eq_false_iff.mp ink).2
    refine ⟨?_, c :: (gap.shown ++ text), Gap.empty, fun rest => ?_, rfl, ⟨rfl, by simp⟩, .inl rfl⟩
    · by_cases quote : c = '\''
      · subst quote
        simp [singleChar, Place.after, line]
      · simp [singleChar, quote, Place.after, line]
    · by_cases quote : c = '\''
      · subst quote
        simp [singleChar, quoted?, ink, atDocumentMarker_of_column inside]
      · simp [singleChar, quote, quoted?, ink, atDocumentMarker_of_column inside]
  · have white : isWhite ' ' = true := rfl
    have line : isBreak ' ' = false := rfl
    have open' : gap.broken = false := by
      rw [holds.kept]
      cases broken with
      | false => rfl
      | true => exact absurd rfl (within rfl)
    have added : gap.add ' ' = { gap with blanks := ' ' :: gap.blanks } := by simp [Gap.add, line, open']
    refine ⟨by simp [singleChar, Place.after, line], text, gap.add ' ', fun rest => ?_, ?_, ?_, .inr rfl⟩
    · simp [singleChar, quoted?, white]
    · simp [added, Gap.shown, open']
    · rw [added]
      exact ⟨open', by simp⟩

/-- In front of a character that is no break stands the margin of its line, if the line is new. -/
theorem quoted?_lineStart {indent : Nat} (positive : 0 < indent) {broken : Bool} {gap : Gap}
    (holds : gap.Holds broken) {p : Place} (inside : broken = false → 0 < p.column) (text : List Char) :
    0 < (p.over (if broken = true then spaces indent else [])).column ∧
      ∀ rest, quoted? false ((if broken = true then spaces indent else []) ++ rest) p text gap .char =
        quoted? false rest (p.over (if broken = true then spaces indent else [])) text gap .char := by
  cases broken with
  | false => exact ⟨inside rfl, fun _ => rfl⟩
  | true =>
    refine ⟨?_, fun rest => quoted?_margin holds.kept _ _ _ _ _⟩
    rw [if_pos rfl, Place.column_over_spaces]
    exact Nat.add_pos_right _ positive

/-- Lines between single quotes are read back. The induction is on the text; the gap holds what has been put
aside, the breaks as well as the spaces within a line. -/
theorem quoted?_lines {indent : Nat} (positive : 0 < indent) (rest : List Char) {s : List Char} {broken : Bool}
    {p : Place} {text : List Char} {gap : Gap} (noFeed : '\n' ∉ s) (carriable : Carriable s)
    (holds : gap.Holds broken) (fresh : broken = true → s.head? ≠ some ' ')
    (inside : broken = false → 0 < p.column)
    (clear : broken = false → gap.blanks = [] ∨ ∀ c, s.head? = some c → isBreak c = false) :
    ∃ text' gap',
      quoted? false (linesText indent singleChar broken s ++ rest) p text gap .char =
        quoted? false rest (p.over (linesText indent singleChar broken s)) text' gap' .char ∧
      gap'.shown ++ text' = s.reverse ++ (gap.shown ++ text) ∧ gap'.Holds (endsBroken broken s) ∧
      (endsBroken broken s = false → 0 < (p.over (linesText indent singleChar broken s)).column) := by
  induction s generalizing broken p text gap with
  | nil => exact ⟨text, gap, rfl, rfl, holds, inside⟩
  | cons c s ih =>
    have noFeed' : '\n' ∉ s := fun mem => noFeed (List.mem_cons_of_mem c mem)
    rw [linesText, endsBroken]
    cases breaks : isBreak c with
    | true =>
      have feed : c ≠ '\n' := fun same => noFeed (same ▸ List.mem_cons_self)
      have white : isWhite c = true := by simp [isWhite, breaks]
      have clear' (within : broken = false) : gap.blanks = [] := by
        rcases clear within with blank | line
        · exact blank
        · exact absurd (line c rfl) (by simp [breaks])
      obtain ⟨holds', shown⟩ := holds.add_break breaks feed clear'
      obtain ⟨text', gap', read, kept, held, column⟩ :=
        @ih true (p.after c) text _ noFeed' carriable.tail holds' (fun _ => carriable.head?_of_break breaks)
          (by simp) (by simp)
      refine ⟨text', gap', ?_, ?_, held, column⟩
      · rw [if_pos rfl, List.cons_append, quoted?, if_pos white, read]
        rfl
      · rw [kept, shown]
        simp
    | false =>
      obtain ⟨inside', start⟩ := quoted?_lineStart positive holds inside text
      have shown : isWhite c = false ∨ c = ' ' :=
        Decidable.or_iff_not_imp_right.mpr fun space => carriable.isWhite_eq_false space breaks
      obtain ⟨inside'', text₁, gap₁, first, kept₁, holds₁, clear₁⟩ :=
        quoted?_singleChar shown holds (fun new space => fresh new (congrArg some space)) inside' text
      obtain ⟨text', gap', read, kept, held, column⟩ :=
        @ih false _ text₁ gap₁ noFeed' carriable.tail holds₁ (by simp) (fun _ => inside'') fun _ =>
          clear₁.imp_right fun space _ next => (space ▸ carriable).isBreak_of_space next
      rw [if_neg Bool.false_ne_true, Place.over_append, Place.over_append]
      refine ⟨text', gap', ?_, ?_, held, column⟩
      · rw [List.append_assoc, List.append_assoc, start, first, read]
      · rw [kept, kept₁]
        simp

/-- **A text between single quotes is read back**, from behind the first quote, if no other quote follows. -/
theorem quoted?_singleText {indent : Nat} (positive : 0 < indent) {s : List Char} (noFeed : '\n' ∉ s)
    (carriable : Carriable s) {rest : List Char} (ends : rest.head? ≠ some '\'') {p : Place}
    (inside : 0 < p.column) :
    quoted? false ((singleText indent s).tail ++ rest) p [] Gap.empty .char =
      some ⟨String.ofList s, false, ⟨rest, p.over (singleText indent s).tail⟩⟩ := by
  obtain ⟨text, gap, read, kept, held, column⟩ :=
    @quoted?_lines indent positive ((if endsBroken false s = true then spaces indent else []) ++ '\'' :: rest)
      s false p [] Gap.empty noFeed carriable ⟨rfl, nofun⟩ nofun (fun _ => inside) fun _ => .inl rfl
  obtain ⟨inside', last⟩ := quoted?_lineStart positive held column text
  have white : isWhite '\'' = false := rfl
  have whole : gap.shown ++ text = s.reverse := by simpa [Gap.shown, Gap.empty] using kept
  have closes : quoted? false ('\'' :: rest)
      ((p.over (linesText indent singleChar false s)).over (if endsBroken false s = true then spaces indent else []))
      text gap .char =
      some ⟨String.ofList s, false, ⟨rest, p.over (singleText indent s).tail⟩⟩ := by
    have place : p.over (singleText indent s).tail = ((p.over (linesText indent singleChar false s)).over
        (if endsBroken false s = true then spaces indent else [])).after '\'' := by
      simp [singleText]
    rw [quoted?, white, atDocumentMarker_of_column inside', whole, place]
    cases rest with
    | nil => simp [quoted?]
    | cons c rest =>
      have other : c ≠ '\'' := fun same => ends (congrArg some same)
      simp [quoted?, other]
  rw [← closes, ← last, ← read]
  simp [singleText]

end Scan

end VirtLifecycle.Yaml
