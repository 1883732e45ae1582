/-
Module: VirtLifecycle.Proofs.Yaml.Unquoted
Purpose: Texts that are written without quotes and read: a word or several ones in a line, which stop where
  the line goes on with a colon or ends, and blocks of lines, which are found again behind their
  indentation, with what the marks of the block say about the breaks at its end.
Main exports: Yaml.Scan.Begins, Yaml.Scan.Bare, Yaml.Scan.Bare.plain?_eq, Yaml.Scan.block?_literalText
-/
import VirtLifecycle.Proofs.Yaml.Quoted

namespace VirtLifecycle.Yaml

namespace Scan

/-! ### Without quotes -/

/-- Where something begins that is no part of a scalar before it: neither a blank nor a break, and no comment. -/
def Begins (rest : List Char) : Prop :=
  ∀ d, rest.head? = some d → isWhite d = false ∧ d ≠ '#' ∧ d ≠ '\ufeff'

theorem isWhite_of_isGap {c : Char} (solid : isGap c = false) : isWhite c = false := by
  simp only [isGap, isLineEnd, Bool.or_eq_false_iff] at solid
  simp [isWhite, isTabOrSpace, solid]

/-- What is printed without needing escapes, and is neither a space nor a break, is no gap. -/
theorem isGap_eq_false {c : Char} (ink : IsInk c) (space : c ≠ ' ') : isGap c = false := by
  have apart {e : Char} (hidden : isPrintable e = false) : c ≠ e := by
    rintro rfl
    exact Bool.false_ne_true (hidden.symm.trans ink.1)
  have zero : c.toNat ≠ 0 := by
    intro zero
    have same : c = '\x00' := (Char.ofNat_toNat c).symm.trans (zero ▸ rfl)
    exact apart (by decide) same
  simp [isGap, isLineEnd, space, ink.2, zero, apart (show isPrintable '\t' = false by decide),
    apart (show isPrintable '\r' = false by decide), apart (show isPrintable '\u0085' = false by decide)]

/-- A text that is not at its end goes on with what it holds, whatever comes after it. -/
theorem isBlankEnd_of_gapNext {s : List Char} (on : gapNext s = false) (tail : List Char) :
    isBlankEnd (s ++ tail) = false := by
  cases s with
  | nil => cases on
  | cons d s => exact isWhite_of_isGap on

/-- A character in a text without quotes is read, with the spaces before it. Behind a colon the text goes on, and
no mark of a comment stands behind a space. -/
theorem plain?_ink {indent : Int} {c : Char} {s : List Char} (solid : isGap c = false) {p : Place}
    {text blanks : List Char} (colon : (c == ':' && gapNext s) = false) (comment : blanks ≠ [] → c ≠ '#')
    (further : 0 < p.column ∧ indent ≤ p.column) (tail : List Char) :
    plain? false indent (c :: s ++ tail) p text ⟨blanks, none, [], false⟩ =
      plain? false indent (s ++ tail) (p.after c) (c :: (blanks ++ text)) Gap.empty := by
  have ends : endsPlain false c (s ++ tail) = false := by
    cases at_ : c == ':' with
    | false => simp [endsPlain, at_]
    | true =>
      rw [at_, Bool.true_and] at colon
      simp [endsPlain, isBlankEnd_of_gapNext colon]
  have mark : (!blanks.isEmpty && c == '#') = false := by
    cases blanks with
    | nil => rfl
    | cons b blanks => simpa using comment (List.cons_ne_nil b blanks)
  have column : (decide ((p.column : Int) < indent)) = false := by
    rw [decide_eq_false_iff_not]
    omega
  have stray : isStrayColon false c (s ++ tail) = false := rfl
  rw [List.cons_append, plain?]
  simp only [isWhite_of_isGap solid, Bool.false_eq_true, if_false, column, Bool.and_false, Gap.isEmpty,
    Bool.not_false, Bool.and_true, mark, atDocumentMarker_of_column further.1, Bool.or_self, stray, ends]
  rfl

/-- The rest of a text without quotes is read: each word, and the spaces before it once it comes. The
induction is on the text; `previous` is the character before. -/
theorem plain?_words {indent : Int} (tail : List Char) {s : List Char} {previous : Char} {p : Place}
    {text blanks : List Char} (ink : ∀ c ∈ s, IsInk c) (free : innerIndicators previous s = false)
    (kept : blanks ≠ [] → previous = ' ') (further : 0 < p.column ∧ indent ≤ p.column) :
    ∃ text' blanks',
      plain? false indent (s ++ tail) p text ⟨blanks, none, [], false⟩ =
        plain? false indent tail (p.over s) text' ⟨blanks', none, [], false⟩ ∧
      blanks' ++ text' = s.reverse ++ (blanks ++ text) ∧
      (blanks' ≠ [] → (previous :: s).getLast? = some ' ') := by
  induction s generalizing previous p text blanks with
  | nil => exact ⟨text, blanks, rfl, rfl, fun some => congrArg Option.some (kept some)⟩
  | cons c s ih =>
    obtain ⟨first, ink'⟩ := List.forall_mem_cons.mp ink
    simp only [innerIndicators, Bool.or_eq_false_iff] at free
    obtain ⟨⟨colon, comment⟩, free'⟩ := free
    have further' : 0 < (p.after c).column ∧ indent ≤ (p.after c).column := by
      simp only [Place.after, first.2, Bool.false_eq_true, if_false]
      omega
    by_cases space : c = ' '
    · subst space
      obtain ⟨text', blanks', read, all, last⟩ :=
        @ih ' ' (p.after ' ') text (' ' :: blanks) ink' free' (fun _ => rfl) further'
      refine ⟨text', blanks', ?_, ?_, fun some => ?_⟩
      · have white : isWhite ' ' = true := rfl
        have line : isBreak ' ' = false := rfl
        simpa [plain?, white, Gap.add, line] using read
      · simpa using all
      · rw [List.getLast?_cons_cons]
        exact last some
    · obtain ⟨text', blanks', read, all, last⟩ :=
        @ih c (p.after c) (c :: (blanks ++ text)) [] ink' free' (fun some => absurd rfl some) further'
      refine ⟨text', blanks', ?_, ?_, fun some => ?_⟩
      · have apart (some : blanks ≠ []) : c ≠ '#' := by
          have gap : isGap previous = true := kept some ▸ rfl
          simpa [gap] using comment
        exact (plain?_ink (isGap_eq_false first space) colon apart further tail).trans read
      · simpa using all
      · rw [List.getLast?_cons_cons]
        exact last some

/-- A marker between documents is not what a text without quotes begins with, unless it is all of one. -/
theorem atMarker_of_take {mark c : Char} {s tail : List Char}
    (other : (c :: s).take 3 ≠ [mark, mark, mark]) (ends : tail.head? ≠ some mark) (p : Place) :
    Cursor.atMarker mark (c :: s ++ tail) p = false := by
  unfold Cursor.atMarker
  split
  · rename_i a b d rest same
    rw [Bool.and_eq_false_iff]
    refine .inr ?_
    by_contra marked
    simp only [Bool.not_eq_false, Bool.and_eq_true, beq_iff_eq] at marked
    obtain ⟨⟨⟨rfl, rfl⟩, rfl⟩, -⟩ := marked
    match s, other, same with
    | [], _, same =>
      obtain ⟨rfl, same⟩ := List.cons.inj same
      exact ends (congrArg List.head? same)
    | [b], _, same =>
      obtain ⟨rfl, same⟩ := List.cons.inj same
      obtain ⟨rfl, same⟩ := List.cons.inj same
      exact ends (congrArg List.head? same)
    | b :: d :: s, other, same =>
      obtain ⟨rfl, same⟩ := List.cons.inj same
      obtain ⟨rfl, same⟩ := List.cons.inj same
      obtain ⟨rfl, same⟩ := List.cons.inj same
      exact other rfl
  · exact Bool.and_false _

/-- A text that can stand without quotes: it begins and ends with something else than a space, stands in one
line, and nothing in it has a meaning there. -/
structure Bare (c : Char) (s : List Char) : Prop where
  ink : ∀ d ∈ c :: s, IsInk d
  space : c ≠ ' '
  trailing : (c :: s).getLast? ≠ some ' '
  dashes : (c :: s).take 3 ≠ ['-', '-', '-']
  dots : (c :: s).take 3 ≠ ['.', '.', '.']
  first : isFirstIndicator c = false
  marked : ((c == '?' || c == ':' || c == '-') && gapNext s) = false
  inner : innerIndicators c s = false

/-- What the features of a text allow, it can do without quotes. -/
theorem Bare.of_features {c : Char} {s : List Char} (allowed : (Features.ofText (c :: s)).allowsPlain = true) :
    Bare c s := by
  simp only [Features.allowsPlain, Features.ofText, Bool.not_eq_true', Bool.or_eq_false_iff,
    decide_eq_false_iff_not, List.head?_cons, Option.any_some] at allowed
  obtain ⟨⟨⟨⟨⟨⟨⟨⟨leading, -⟩, trailing⟩, -⟩, -⟩, -⟩, special⟩, breaks⟩,
    ⟨⟨⟨dashes, dots⟩, first⟩, marked⟩, inner⟩ := allowed
  refine ⟨fun d mem => ⟨?_, ?_⟩, ?_, fun last => ?_, dashes, dots, first, marked, inner⟩
  · simpa using List.any_eq_false.mp special d mem
  · have line := List.any_eq_false.mp breaks d mem
    simp only [isLineEnd, Bool.or_eq_true, not_or, Bool.not_eq_true] at line
    exact line.1.1
  · simpa [isSpaceChar] using leading
  · rw [last] at trailing
    cases trailing

namespace Bare

variable {c : Char} {s : List Char}

theorem isWhite_eq_false (bare : Bare c s) : isWhite c = false :=
  isWhite_of_isGap (isGap_eq_false (bare.ink c List.mem_cons_self) bare.space)

/-- The mark of an item, a key or a value is not what it begins with. -/
theorem isBlankEnd_eq_false (bare : Bare c s) (mark : c = '?' ∨ c = ':' ∨ c = '-') (tail : List Char) :
    isBlankEnd (s ++ tail) = false := by
  refine isBlankEnd_of_gapNext ?_ tail
  have marked := bare.marked
  rcases mark with rfl | rfl | rfl <;> simpa using marked

/-- No marker between documents stands where it begins. -/
theorem atDocumentMarker_eq_false (bare : Bare c s) {tail : List Char}
    (dash : tail.head? ≠ some '-') (dot : tail.head? ≠ some '.') (p : Place) :
    Cursor.atDocumentMarker (c :: s ++ tail) p = false := by
  rw [Cursor.atDocumentMarker, atMarker_of_take bare.dashes dash, atMarker_of_take bare.dots dot]
  rfl

/-- **A text without quotes is read** up to where something else follows. -/
theorem plain?_eq (bare : Bare c s) {indent : Int} {tail : List Char}
    (dash : tail.head? ≠ some '-') (dot : tail.head? ≠ some '.') {p : Place} (further : indent ≤ p.column + 1) :
    plain? false indent (c :: s ++ tail) p [] Gap.empty =
      plain? false indent tail (p.over (c :: s)) (c :: s).reverse Gap.empty := by
  have line : isBreak c = false := (bare.ink c List.mem_cons_self).2
  have after : 0 < (p.after c).column ∧ indent ≤ (p.after c).column := by
    simp only [Place.after, line, Bool.false_eq_true, if_false]
    omega
  obtain ⟨text, blanks, read, all, last⟩ :=
    @plain?_words indent tail s c (p.after c) [c] [] (fun d mem => bare.ink d (List.mem_cons_of_mem c mem))
      bare.inner (fun some => absurd rfl some) after
  obtain rfl : blanks = [] := by
    by_contra some
    exact bare.trailing (last some)
  have ends : endsPlain false c (s ++ tail) = false := by
    cases at_ : c == ':' with
    | false => simp [endsPlain, at_]
    | true => simp [endsPlain, bare.isBlankEnd_eq_false (.inr (.inl (beq_iff_eq.mp at_)))]
  have marker := bare.atDocumentMarker_eq_false dash dot p
  have stray : isStrayColon false c (s ++ tail) = false := rfl
  rw [List.cons_append] at marker ⊢
  rw [plain?]
  simp only [bare.isWhite_eq_false, Bool.false_eq_true, if_false, Gap.empty, Gap.isEmpty, List.isEmpty_nil,
    Bool.not_false, Bool.and_true, Bool.not_true, Bool.false_and, marker, Bool.or_self, stray, ends]
  refine read.trans ?_
  obtain rfl : text = s.reverse ++ [c] := all
  rw [List.reverse_cons]
  rfl

end Bare

/-- A text without quotes ends where its colon stands. -/
theorem plain?_colon {indent : Int} {rest : List Char} (blank : isBlankEnd rest = true) {p : Place}
    (inside : 0 < p.column) (text : List Char) :
    plain? false indent (':' :: rest) p text Gap.empty =
      some ⟨String.ofList text.reverse, false, ⟨':' :: rest, p⟩⟩ := by
  have white : isWhite ':' = false := rfl
  have stray : isStrayColon false ':' rest = false := rfl
  have ends : endsPlain false ':' rest = true := by simp [endsPlain, blank]
  rw [plain?]
  simp [white, Gap.empty, Gap.isEmpty, atDocumentMarker_of_column inside, stray, ends]

/-- A text without quotes ends at the end of its line, if the next line is not indented further. -/
theorem plain?_lineEnd {indent : Int} {column : Nat} {rest : List Char} (outside : rest ≠ [] → column < indent)
    (begins : Begins rest) (p : Place) (text : List Char) :
    plain? false indent ('\n' :: (spaces column ++ rest)) p text Gap.empty =
      some ⟨String.ofList text.reverse, true, ⟨rest, p.over ('\n' :: spaces column)⟩⟩ := by
  have margin (n : Nat) (q : Place) : plain? false indent (spaces n ++ rest) q text ⟨[], some '\n', [], true⟩ =
      plain? false indent rest (q.over (spaces n)) text ⟨[], some '\n', [], true⟩ := by
    induction n generalizing q with
    | zero => rfl
    | succ n ih =>
      have white : isWhite ' ' = true := rfl
      have line : isBreak ' ' = false := rfl
      have later := ih (q.after ' ')
      rw [spaces] at later ⊢
      rw [List.replicate_succ, List.cons_append, plain?]
      simpa [white, Gap.add, line] using later
  have first : isWhite '\n' = true := rfl
  have added : Gap.empty.add '\n' = ⟨[], some '\n', [], true⟩ := rfl
  have column' : ((p.after '\n').over (spaces column)).column = column := by
    rw [Place.column_over_spaces]
    exact Nat.zero_add column
  rw [plain?, if_pos first, added, margin]
  cases rest with
  | nil => rfl
  | cons d rest =>
    obtain ⟨white, -, -⟩ := begins d rfl
    have left : ((((p.after '\n').over (spaces column)).column : Nat) : Int) < indent :=
      column'.symm ▸ outside (List.cons_ne_nil d rest)
    rw [plain?]
    simp [white, Gap.isEmpty, left, Gap.empty]

/-! ### Blocks of lines -/

/-- What the mark of a block says about the breaks at its end. -/
def chomping (s : List Char) : Chomping :=
  match s.reverse with
  | [] => .strip
  | last :: before =>
    if !isBreak last then .strip
    else match before with
      | [] => .keep
      | c :: _ => if isBreak c then .keep else .clip

/-- What the mark of a block says about its indentation, if anything. -/
def toldIndent (s : List Char) : Nat :=
  if s.head?.any (fun c => c == ' ' || isBreak c) then Page.step else 0

/-- A text without a break at its end is stripped. -/
theorem chomping_of_ink (front : List Char) {last : Char} (ink : isBreak last = false) :
    chomping (front ++ [last]) = .strip := by
  simp [chomping, ink]

/-- The break of the last line is clipped. -/
theorem chomping_of_line {before : List Char} {c last : Char} (ink : isBreak c = false)
    (breaks : isBreak last = true) : chomping (before ++ [c] ++ [last]) = .clip := by
  simp [chomping, breaks, ink]

/-- The break of an empty line is kept, and with it those before it. -/
theorem chomping_of_empty {front : List Char} {last : Char} (breaks : isBreak last = true)
    (empty : ∀ c, front.getLast? = some c → isBreak c = true) : chomping (front ++ [last]) = .keep := by
  cases shape : front.reverse with
  | nil => simp [chomping, breaks, shape]
  | cons c before =>
    have broken : isBreak c = true := empty c (by rw [← List.head?_reverse, shape]; rfl)
    simp [chomping, breaks, shape, broken]

/-- The hints behind the mark of a block are read: what becomes of the breaks at its end, and how far it is
indented if its first line does not show it. -/
theorem blockHeader?_hints (s rest : List Char) :
    blockHeader? (Page.blockHints s ++ '\n' :: rest) = some (chomping s, toldIndent s, '\n' :: rest) := by
  have digits : Nat.toDigits 10 Page.step = ['2'] := by decide
  unfold Page.blockHints chomping toldIndent
  rw [digits]
  cases s.head?.any (fun c => c == ' ' || isBreak c) <;> cases s.reverse with
  | nil => rfl
  | cons last before =>
    cases before with
    | nil =>
      dsimp only
      cases isBreak last <;> rfl
    | cons c before =>
      dsimp only
      cases isBreak last <;> cases isBreak c <;> rfl

theorem skip_append (cs rest : List Char) (p : Place) :
    (⟨cs ++ rest, p⟩ : Cursor).skip cs.length = ⟨rest, p.over cs⟩ := by
  induction cs generalizing p with
  | nil => rfl
  | cons c cs ih => exact ih (p.after c)

theorem lineEnd?_lineFeed (rest : List Char) (p : Place) :
    lineEnd? ⟨'\n' :: rest, p⟩ = some ⟨rest, p.after '\n'⟩ := rfl

/-- The margin of a block is skipped, be it all of it or not. -/
theorem blockLines?_margin {indent n : Nat} {p : Place} (fits : p.column + n ≤ indent) (rest : List Char)
    (b : Block) :
    blockLines? false indent (spaces n ++ rest) p false b =
      blockLines? false indent rest (p.over (spaces n)) false b := by
  induction n generalizing p with
  | zero => rfl
  | succ n ih =>
    have line : isBreak ' ' = false := rfl
    have left : p.column < indent := by omega
    have later := @ih (p.after ' ') (by simp only [Place.after, line, Bool.false_eq_true, if_false]; omega)
    rw [spaces] at later ⊢
    rw [List.replicate_succ, List.cons_append, blockLines?]
    simpa [left] using later

/-- What a block holds so far, with the breaks at its end, the latest first. -/
def Block.held (b : Block) : List Char := b.empties ++ (b.lineEnd.toList ++ b.text)

/-- In a line there are no breaks to keep aside. -/
def Block.InLine (b : Block) : Prop := b.lineEnd = none ∧ b.empties = []

/-- The lines of a block are read. The induction is on the text. -/
theorem blockLines?_lines {indent : Nat} (rest : List Char) {s : List Char}
    {broken : Bool} {p : Place} {b : Block} (printable : ∀ c ∈ s, isPrintable c = true)
    (fresh : broken = true → p.column = 0) (inLine : broken = false → b.InLine) :
    ∃ b' : Block,
      blockLines? false indent (linesText indent (fun c => [c]) broken s ++ rest) p (!broken) b =
        blockLines? false indent rest (p.over (linesText indent (fun c => [c]) broken s))
          (!endsBroken broken s) b' ∧
      b'.held = s.reverse ++ b.held ∧
      (endsBroken broken s = true → (p.over (linesText indent (fun c => [c]) broken s)).column = 0) ∧
      (endsBroken broken s = false → b'.InLine) := by
  induction s generalizing broken p b with
  | nil => exact ⟨b, rfl, rfl, fresh, inLine⟩
  | cons c s ih =>
    obtain ⟨shown, printable'⟩ := List.forall_mem_cons.mp printable
    rw [linesText, endsBroken]
    cases breaks : isBreak c with
    | true =>
      have column : (p.after c).column = 0 := by simp [Place.after, breaks]
      rw [if_pos rfl]
      cases broken with
      | false =>
        obtain ⟨b', read, held, ends⟩ :=
          @ih true (p.after c) { b with lineEnd := some c } printable' (fun _ => column) (by simp)
        obtain ⟨lineEnd, empties⟩ := inLine rfl
        refine ⟨b', ?_, ?_, ends⟩
        · simpa [blockLines?, breaks] using read
        · simpa [Block.held, lineEnd, empties] using held
      | true =>
        obtain ⟨b', read, held, ends⟩ :=
          @ih true (p.after c) { b with empties := c :: b.empties } printable' (fun _ => column) (by simp)
        have space : c ≠ ' ' := by
          rintro rfl
          cases breaks
        have tab : c ≠ '\t' := by
          rintro rfl
          cases breaks
        refine ⟨b', ?_, ?_, ends⟩
        · simpa [blockLines?, breaks, space, tab] using read
        · simpa [Block.held] using held
    | false =>
      rw [if_neg Bool.false_ne_true]
      cases broken with
      | false =>
        obtain ⟨lineEnd, empties⟩ := inLine rfl
        obtain ⟨b', read, held, ends⟩ :=
          @ih false (p.after c) { b with text := c :: b.text } printable' (by simp) fun _ => ⟨lineEnd, empties⟩
        refine ⟨b', ?_, ?_, ends⟩
        · simpa [blockLines?, breaks] using read
        · simpa [Block.held, lineEnd, empties] using held
      | true =>
        have start := fresh rfl
        obtain ⟨b', read, held, ends⟩ :=
          @ih false ((p.over (spaces indent)).after c) (b.beginLine false c) printable' (by simp)
            fun _ => ⟨rfl, rfl⟩
        have column : (p.over (spaces indent)).column = indent := by
          rw [Place.column_over_spaces, start, Nat.zero_add]
        refine ⟨b', ?_, ?_, ?_⟩
        · rw [if_pos rfl, List.append_assoc, List.append_assoc, Bool.not_true,
            blockLines?_margin (by rw [start]; exact Nat.le_of_eq (Nat.zero_add _)), Place.over_append,
            Place.over_append]
          simpa [blockLines?, breaks, column] using read
        · simpa [Block.held, Block.beginLine] using held
        · simpa using ends

/-- A block ends where a line begins that is not indented as far. -/
theorem blockLines?_stop {indent column : Nat} (outside : column < indent) {rest : List Char}
    (begins : Begins rest) {p : Place} (start : p.column = 0) (b : Block) :
    blockLines? false indent (spaces column ++ rest) p false b =
      some (b, ⟨rest, p.over (spaces column)⟩) := by
  rw [blockLines?_margin (by omega)]
  cases rest with
  | nil => rfl
  | cons d rest =>
    obtain ⟨white, -, -⟩ := begins d rfl
    simp only [isWhite, isTabOrSpace, Bool.or_eq_false_iff] at white
    obtain ⟨⟨space, tab⟩, line⟩ := white
    have there : (p.over (spaces column)).column ≠ indent := by
      rw [Place.column_over_spaces, start, Nat.zero_add]
      exact Nat.ne_of_lt outside
    simp [blockLines?, space, tab, line, there]

/-- Lines are written one after the other; whether a margin is due is told by the end of the ones before. -/
theorem linesText_append (indent : Nat) (shown : Char → List Char) (broken : Bool) (s t : List Char) :
    linesText indent shown broken (s ++ t) =
      linesText indent shown broken s ++ linesText indent shown (endsBroken broken s) t := by
  induction s generalizing broken with
  | nil => rfl
  | cons c s ih =>
    rw [List.cons_append, linesText, linesText, endsBroken]
    cases breaks : isBreak c <;> simp [ih]

/-- Whether a text ends with a break is told by its last character. -/
theorem endsBroken_append (broken : Bool) (s : List Char) (c : Char) :
    endsBroken broken (s ++ [c]) = isBreak c := by
  induction s generalizing broken with
  | nil => rfl
  | cons d s ih => exact ih _

/-- The lines of a block and what ends the last one. -/
def blockText (indent : Nat) (s : List Char) : List Char :=
  linesText indent (fun c => [c]) true s ++ (if endsBroken true s then [] else ['\n'])

/-- A block is read as the text whose lines it has, up to the indentation of the line after it. -/
def ReadsAs (indent column : Nat) (rest : List Char) (p : Place) (s : List Char) : Prop :=
  ∃ b : Block,
    blockLines? false indent (blockText indent s ++ (spaces column ++ rest)) p false ⟨[], none, [], false⟩ =
      some (b, ⟨rest, p.over (blockText indent s ++ spaces column)⟩) ∧
    b.finish (chomping s) = String.ofList s

section Endings

variable {indent column : Nat} {rest front : List Char} {last : Char} {p : Place}

/-- A text without a break at its end gets one for its last line, which is stripped. -/
theorem readsAs_of_ink (outside : column < indent) (begins : Begins rest)
    (printable : ∀ c ∈ front ++ [last], isPrintable c = true) (start : p.column = 0)
    (ink : isBreak last = false) : ReadsAs indent column rest p (front ++ [last]) := by
  obtain ⟨b, read, held, -, inLine⟩ :=
    @blockLines?_lines indent (['\n'] ++ (spaces column ++ rest)) (front ++ [last]) true p ⟨[], none, [], false⟩
      printable (fun _ => start) nofun
  rw [endsBroken_append, ink] at read inLine
  obtain ⟨lineEnd, empties⟩ := inLine rfl
  have line : isBreak '\n' = true := rfl
  refine ⟨{ b with lineEnd := some '\n' }, ?_, ?_⟩
  · rw [blockText, endsBroken_append, ink, if_neg Bool.false_ne_true, List.append_assoc]
    refine read.trans ?_
    rw [List.singleton_append, Bool.not_false, blockLines?, if_pos line, blockLines?_stop outside begins rfl]
    simp
  · have text : b.text = (front ++ [last]).reverse := by simpa [Block.held, lineEnd, empties] using held
    rw [chomping_of_ink front ink, Block.finish, text, List.reverse_reverse]

/-- A break that ends the last line is the one that is kept of a block. -/
theorem readsAs_of_line {before : List Char} {c : Char} (outside : column < indent) (begins : Begins rest)
    (printable : ∀ c' ∈ before ++ [c] ++ [last], isPrintable c' = true) (start : p.column = 0)
    (ink : isBreak c = false) (breaks : isBreak last = true) :
    ReadsAs indent column rest p (before ++ [c] ++ [last]) := by
  obtain ⟨b, read, held, -, inLine⟩ :=
    @blockLines?_lines indent ([last] ++ (spaces column ++ rest)) (before ++ [c]) true p ⟨[], none, [], false⟩
      (fun c' mem => printable c' (List.mem_append_left _ mem)) (fun _ => start) nofun
  rw [endsBroken_append, ink] at read inLine
  obtain ⟨lineEnd, empties⟩ := inLine rfl
  have lines : linesText indent (fun c => [c]) true (before ++ [c] ++ [last]) =
      linesText indent (fun c => [c]) true (before ++ [c]) ++ [last] := by
    rw [linesText_append, linesText, if_pos breaks]
    rfl
  have fresh (q : Place) : (q.after last).column = 0 := by simp [Place.after, breaks]
  refine ⟨{ b with lineEnd := some last }, ?_, ?_⟩
  · rw [blockText, endsBroken_append, breaks, if_pos rfl, List.append_nil, lines, List.append_assoc]
    refine read.trans ?_
    rw [List.singleton_append, Bool.not_false, blockLines?, if_pos breaks,
      blockLines?_stop outside begins (fresh _)]
    simp
  · have text : b.text = (before ++ [c]).reverse := by simpa [Block.held, lineEnd, empties] using held
    have whole : last :: b.text = (before ++ [c] ++ [last]).reverse := by
      rw [text]
      simp
    rw [chomping_of_line ink breaks, Block.finish, Option.toList_some, List.singleton_append, whole,
      List.reverse_reverse]

/-- Breaks that end empty lines are all kept. -/
theorem readsAs_of_empty (outside : column < indent) (begins : Begins rest)
    (printable : ∀ c ∈ front ++ [last], isPrintable c = true) (start : p.column = 0)
    (breaks : isBreak last = true) (empty : ∀ c, front.getLast? = some c → isBreak c = true) :
    ReadsAs indent column rest p (front ++ [last]) := by
  obtain ⟨b, read, held, fresh, -⟩ :=
    @blockLines?_lines indent (spaces column ++ rest) (front ++ [last]) true p ⟨[], none, [], false⟩
      printable (fun _ => start) nofun
  rw [endsBroken_append, breaks] at read fresh
  refine ⟨b, ?_, ?_⟩
  · rw [blockText, endsBroken_append, breaks, if_pos rfl, List.append_nil]
    refine read.trans ?_
    rw [Bool.not_true, blockLines?_stop outside begins (fresh rfl), Place.over_append]
  · have all : b.empties ++ (b.lineEnd.toList ++ b.text) = (front ++ [last]).reverse := by
      simpa [Block.held] using held
    rw [chomping_of_empty breaks empty, Block.finish, all, List.reverse_reverse]

end Endings

/-- The lines of a block are read as its text. What is kept of the breaks at the end is told by the last two
characters: no break, the break of a line, or the break of an empty line. -/
theorem readsAs_blockText {indent column : Nat} (outside : column < indent) {rest s : List Char}
    (begins : Begins rest) (some : s ≠ []) (printable : ∀ c ∈ s, isPrintable c = true) {p : Place}
    (start : p.column = 0) : ReadsAs indent column rest p s := by
  obtain ⟨front, last, rfl⟩ : ∃ front last, s = front ++ [last] :=
    ⟨_, _, (List.dropLast_concat_getLast some).symm⟩
  cases breaks : isBreak last with
  | false => exact readsAs_of_ink outside begins printable start breaks
  | true =>
    by_cases empty : ∀ c, front.getLast? = .some c → isBreak c = true
    · exact readsAs_of_empty outside begins printable start breaks empty
    · simp only [not_forall, Bool.not_eq_true] at empty
      obtain ⟨c, ahead, ink⟩ := empty
      obtain ⟨before, rfl⟩ := List.getLast?_eq_some_iff.mp ahead
      exact readsAs_of_line outside begins printable start ink breaks

/-- The margin of the first line tells how far a block is indented. -/
theorem blockMargin?_spaces (n : Nat) (rest : List Char) (p : Place) (widest : Nat) (empties : List Char) :
    blockMargin? (spaces n ++ rest) p widest empties =
      blockMargin? rest (p.over (spaces n)) widest empties := by
  induction n generalizing p with
  | zero => rfl
  | succ n ih => exact ih (p.after ' ')

/-- A block whose first line begins with neither a blank nor a break is found at the indentation of that line. -/
theorem blockMargin?_blockText {indent : Nat} {d : Char} (s tail : List Char)
    (solid : d ≠ ' ' ∧ d ≠ '\t' ∧ isBreak d = false) {p : Place} (start : p.column = 0) :
    ∃ more, blockText indent (d :: s) = spaces indent ++ d :: more ∧
      blockMargin? (blockText indent (d :: s) ++ tail) p 0 [] =
        some (indent, [], ⟨d :: more ++ tail, p.over (spaces indent)⟩) := by
  obtain ⟨space, tab, line⟩ := solid
  obtain ⟨more, text⟩ : ∃ more, blockText indent (d :: s) = spaces indent ++ d :: more := by
    rw [blockText, linesText, if_neg (by simp [line]), if_pos rfl]
    exact ⟨_, by simp only [List.append_assoc, List.cons_append]; rfl⟩
  have widest : max 0 (p.over (spaces indent)).column = indent := by
    rw [Place.column_over_spaces, start, Nat.zero_max, Nat.zero_add]
  refine ⟨more, text, ?_⟩
  rw [text, List.append_assoc, blockMargin?_spaces, List.cons_append, blockMargin?]
  simp only [space, tab, line, widest, if_false, Bool.false_eq_true]

/-- **A block of lines is read back**, from behind its mark, if the next line is not indented as far. -/
theorem block?_literalText {within column : Nat} {parent : Int}
    (around : parent = within ∨ parent = -1 ∧ within = 0) (outside : column < within + Page.step)
    {rest s : List Char} (begins : Begins rest) (some : s ≠ []) (printable : ∀ c ∈ s, isPrintable c = true)
    (p : Place) :
    block? false parent
        ⟨Page.blockHints s ++ '\n' :: (blockText (within + Page.step) s ++ (spaces column ++ rest)), p⟩ =
      .some ⟨String.ofList s, false, ⟨rest, p.over (Page.blockHints s ++
        '\n' :: (blockText (within + Page.step) s ++ spaces column))⟩⟩ := by
  have header (rest : List Char) : ((Page.blockHints s ++ '\n' :: rest).length - ('\n' :: rest).length) =
      (Page.blockHints s).length := by
    rw [List.length_append, Nat.add_sub_cancel]
  have start : ((p.over (Page.blockHints s)).after '\n').column = 0 := rfl
  obtain ⟨b, read, finish⟩ := readsAs_blockText outside begins some printable start
  have place : p.over (Page.blockHints s ++ '\n' :: (blockText (within + Page.step) s ++ spaces column)) =
      ((p.over (Page.blockHints s)).after '\n').over (blockText (within + Page.step) s ++ spaces column) := by
    rw [Place.over_append, Place.over_cons]
  rw [place, block?]
  simp only [blockHeader?_hints, header, skip_append, lineEnd?_lineFeed, bind, Option.bind_some]
  by_cases told : s.head?.any (fun c => c == ' ' || isBreak c) = true
  · have indent : (if 0 ≤ parent then parent.toNat else 0) + toldIndent s = within + Page.step := by
      rw [toldIndent, if_pos told]
      split <;> omega
    have known : toldIndent s ≠ 0 := by
      rw [toldIndent, if_pos told]
      decide
    simp only [if_neg known, indent, Option.bind_some, read, finish]
  · obtain ⟨d, s', rfl⟩ := List.exists_cons_of_ne_nil some
    simp only [List.head?_cons, Option.any_some, Bool.or_eq_true, beq_iff_eq, not_or, Bool.not_eq_true] at told
    obtain ⟨space, line⟩ := told
    have tab : d ≠ '\t' := by
      rintro rfl
      exact absurd (printable '\t' List.mem_cons_self) (by decide)
    have unknown : toldIndent (d :: s') = 0 := by simp [toldIndent, space, line]
    obtain ⟨more, text, margin⟩ := @blockMargin?_blockText (within + Page.step) d s' (spaces column ++ rest)
      ⟨space, tab, line⟩ _ start
    have wide : max (within + Page.step) (max (parent + 1) 1).toNat = within + Page.step := by
      have step : Page.step = 2 := rfl
      omega
    rw [text, List.append_assoc, blockLines?_margin (by rw [start]; omega)] at read
    simp only [if_pos unknown, margin, Option.bind_some, wide]
    rw [List.cons_append] at read ⊢
    simp only [read, Option.bind_some, finish, text, List.append_assoc]

end Scan

end VirtLifecycle.Yaml
