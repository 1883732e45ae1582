/-
Module: VirtLifecycle.Proofs.Yaml.Texts
Purpose: Texts as they are written for values and keys, each as one token. A text is written in one of four
  ways, and each way is chosen for texts that it can carry; a key without a mark of its own is short enough
  to be found again at its colon.
Main exports: Yaml.Presentation.style, Yaml.Scan.leads_scalarLine, Yaml.Scan.leads_keyText
-/
import VirtLifecycle.Proofs.Yaml.Scanning

namespace VirtLifecycle.Yaml

/-- The way a scalar is written, as its token tells it. -/
def Presentation.style : Presentation → Style
  | plain => .plain
  | singleQuoted => .singleQuoted
  | doubleQuoted => .doubleQuoted
  | literal => .literal

/-- The token of a key. -/
def keyToken (key : String) : Token :=
  .scalar key (Presentation.choose (Page.isSimpleKey key) key.toList).style

namespace Scan

variable {p : Place} {rest tail s : List Char} {tokens : List Token} {indent : Int} {outer : List Int}
  {keyAllowed : Bool}

/-! ### What each way of writing is chosen for -/

/-- A text without special characters is printable. -/
theorem printable_of_special {f : Features} (same : f = Features.ofText s) (free : f.special = false) :
    ∀ c ∈ s, isPrintable c = true := by
  subst same
  simpa [Features.ofText] using free

/-- What is written without quotes can stand without them. -/
theorem bare_of_plain {simpleKey : Bool} (chosen : Presentation.choose simpleKey s = .plain) :
    ∃ c more, s = c :: more ∧ Bare c more := by
  obtain ⟨clear, allowed⟩ := Presentation.of_plain chosen
  cases s with
  | nil => cases clear
  | cons c more => exact ⟨c, more, rfl, .of_features allowed⟩

/-- What is written as a block of lines has something in it, and nothing that needs escapes. -/
theorem printable_of_literal {simpleKey : Bool} (chosen : Presentation.choose simpleKey s = .literal) :
    s ≠ [] ∧ ∀ c ∈ s, isPrintable c = true := by
  obtain ⟨-, feed, allowed⟩ := Presentation.of_literal chosen
  refine ⟨List.ne_nil_of_mem feed, ?_⟩
  simp only [Features.allowsBlock, Bool.not_eq_true', Bool.or_eq_false_iff] at allowed
  exact printable_of_special rfl allowed.2

/-! ### Texts as values -/

/-- A text ends its line with a line feed unless it is a block of lines. -/
theorem scalarLine_of_ne {simpleKey : Bool} {within : Nat}
    (other : Presentation.choose simpleKey s ≠ .literal) :
    scalarLine simpleKey within s = scalarText simpleKey within s ++ ['\n'] := by
  rw [scalarLine, lineEnd, if_neg fun both => other both.1]

/-- A block of lines is its mark, the hints and the lines, each in a line of its own. -/
theorem scalarLine_literal {simpleKey : Bool} {within : Nat}
    (chosen : Presentation.choose simpleKey s = .literal) :
    scalarLine simpleKey within s =
      '|' :: (Page.blockHints s ++ '\n' :: blockText (within + Page.step) s) := by
  simp [scalarLine, lineEnd, scalarText, chosen, literalText, blockText]

/-- A text that is written as a value is fetched as one token, with the end of its last line. -/
theorem leads_scalarLine {within : Nat} (s : List Char) (around : indent = within ∨ indent = -1 ∧ within = 0)
    (ends : Tail indent tail) (further : indent < p.column) :
    Leads ⟨⟨scalarLine false within s ++ tail, p⟩, tokens, [none], indent, outer, keyAllowed⟩
      ⟨⟨tail, p.over (scalarLine false within s)⟩,
        .scalar (String.ofList s) (Presentation.choose false s).style :: tokens, [none], indent, outer, true⟩ := by
  cases chosen : Presentation.choose false s with
  | plain =>
    obtain ⟨c, more, rfl, bare⟩ := bare_of_plain chosen
    rw [scalarLine_of_ne (by simp [chosen]), scalarText, chosen]
    simpa [Presentation.style] using leads_bare bare ends further
  | singleQuoted =>
    obtain ⟨noFeed, allowed⟩ := Presentation.of_singleQuoted chosen
    have read := @quoted?_singleText (within + Page.step) (Nat.succ_pos _) s noFeed (.of_features allowed)
      ('\n' :: tail) (by simp) (p.after '\'') (Nat.succ_pos _)
    rw [scalarLine_of_ne (by simp [chosen]), scalarText, chosen]
    simpa [singleText, Presentation.style] using
      @leads_quoted p tokens indent outer keyAllowed false '\'' _ s tail rfl read ends further
  | doubleQuoted =>
    have read := @quoted?_doubleText s ('\n' :: tail) (p.after '"') (Nat.succ_pos _)
    rw [scalarLine_of_ne (by simp [chosen]), scalarText, chosen]
    simpa [doubleText, Presentation.style] using
      @leads_quoted p tokens indent outer keyAllowed true '"' _ s tail rfl read ends further
  | literal =>
    obtain ⟨some, printable⟩ := printable_of_literal chosen
    rw [scalarLine_literal chosen]
    simpa [Presentation.style] using leads_literal around some printable ends further

/-- What is written for a text begins with something that is neither a blank nor a comment. -/
theorem exists_scalarText (simpleKey : Bool) (within : Nat) (s : List Char) :
    ∃ c more, scalarText simpleKey within s = c :: more ∧ isWhite c = false ∧ c ≠ '#' ∧ c ≠ '\ufeff' := by
  unfold scalarText
  cases chosen : Presentation.choose simpleKey s with
  | plain =>
    obtain ⟨c, more, rfl, bare⟩ := bare_of_plain chosen
    refine ⟨c, more, rfl, bare.isWhite_eq_false, ?_, ?_⟩
    · rintro rfl
      exact absurd bare.first (by decide)
    · rintro rfl
      exact absurd (bare.ink _ List.mem_cons_self) (by decide)
  | singleQuoted | doubleQuoted | literal => exact ⟨_, _, rfl, by decide⟩

/-- So a token begins there, and nothing is skipped. -/
theorem begins_scalarText (simpleKey : Bool) (within : Nat) (s rest : List Char) :
    Begins (scalarText simpleKey within s ++ rest) := by
  obtain ⟨c, more, text, solid⟩ := exists_scalarText simpleKey within s
  rw [text]
  rintro _ ⟨⟩
  exact solid

/-- Lines that end with a break lead to the beginning of a line. -/
theorem column_over_linesText {n : Nat} {shown : Char → List Char} {broken : Bool} {p : Place}
    (fresh : broken = true → p.column = 0) (ends : endsBroken broken s = true) :
    (p.over (linesText n shown broken s)).column = 0 := by
  induction s generalizing broken p with
  | nil => exact fresh ends
  | cons c s ih =>
    rw [linesText]
    rw [endsBroken] at ends
    cases breaks : isBreak c with
    | true =>
      rw [breaks] at ends
      exact ih (fun _ => by simp [Place.after, breaks]) ends
    | false =>
      rw [breaks] at ends
      rw [if_neg Bool.false_ne_true, Place.over_append]
      exact ih (by simp) ends

/-- What is written for a text with the end of its last line comes to the beginning of the next line. -/
theorem column_over_scalarLine (simpleKey : Bool) (within : Nat) (s : List Char) (p : Place) :
    (p.over (scalarLine simpleKey within s)).column = 0 := by
  by_cases chosen : Presentation.choose simpleKey s = .literal
  · rw [scalarLine_literal chosen, blockText]
    cases ends : endsBroken true s with
    | true => simpa using column_over_linesText (fun _ => rfl) ends
    | false => simp [Place.after, isBreak]
  · rw [scalarLine_of_ne chosen, Place.over_append]
    rfl

/-! ### Keys -/

/-- A text in one line is written character by character. -/
theorem linesText_of_line {n : Nat} {shown : Char → List Char} (line : ∀ c ∈ s, isBreak c = false) :
    linesText n shown false s = s.flatMap shown ∧ endsBroken false s = false := by
  induction s with
  | nil => exact ⟨rfl, rfl⟩
  | cons c s ih =>
    obtain ⟨first, line'⟩ := List.forall_mem_cons.mp line
    obtain ⟨text, ends⟩ := ih line'
    simp [linesText, endsBroken, first, text, ends]

/-- Characters that are written with few characters for each of their bytes make up a text that is. -/
theorem length_flatMap_le {shown : Char → List Char} {k : Nat} (few : ∀ c, (shown c).length ≤ k * c.utf8Size)
    (s : List Char) : (s.flatMap shown).length ≤ k * (String.ofList s).utf8ByteSize := by
  induction s with
  | nil => exact Nat.zero_le _
  | cons c s ih =>
    have size : (String.ofList (c :: s)).utf8ByteSize = c.utf8Size + (String.ofList s).utf8ByteSize := by simp
    have first := few c
    rw [List.flatMap_cons, List.length_append, size, Nat.mul_add]
    omega

theorem eq_of_mem_singleChar {c d : Char} (mem : d ∈ singleChar c) : d = c := by
  unfold singleChar at mem
  split at mem <;> simpa using mem

/-- Between single quotes a character is written with two at most. -/
theorem length_singleChar_le (c : Char) : (singleChar c).length ≤ 4 * c.utf8Size := by
  have := c.utf8Size_pos
  unfold singleChar
  split <;> simp <;> omega

/-- A text in one line that is short enough for its colon to be found. -/
structure IsShortLine (cs : List Char) : Prop where
  line : ∀ c ∈ cs, isBreak c = false
  near : cs.length ≤ State.keyLimit

/-- Between quotes there is room for four characters for each byte of a short key. -/
theorem isShortLine_quoted {key : String} (few : key.utf8ByteSize ≤ Page.keyLimit) {quote : Char}
    (line : isBreak quote = false) {shown : Char → List Char} (length : ∀ c, (shown c).length ≤ 4 * c.utf8Size)
    (lines : ∀ c ∈ key.toList, ∀ d ∈ shown c, isBreak d = false) :
    IsShortLine (quote :: (key.toList.flatMap shown ++ [quote])) where
  line := by
    rw [List.forall_mem_cons, List.forall_mem_append]
    refine ⟨line, fun d mem => ?_, List.forall_mem_singleton.mpr line⟩
    obtain ⟨c, from', mem⟩ := List.mem_flatMap.mp mem
    exact lines c from' d mem
  near := by
    have whole := length_flatMap_le length key.toList
    rw [String.ofList_toList] at whole
    have limit : State.keyLimit = 1024 := rfl
    have keyLimit : Page.keyLimit = 128 := rfl
    rw [List.length_cons, List.length_append, List.length_singleton]
    omega

/-- A short key stands in one line, and so near its colon that it is found there. -/
theorem isShortLine_of_isSimpleKey {key : String} (short : Page.isSimpleKey key = true) (own : Nat) :
    IsShortLine (scalarText true own key.toList) := by
  simp only [Page.isSimpleKey, Bool.and_eq_true, Bool.not_eq_true', decide_eq_true_eq] at short
  obtain ⟨breaks, few⟩ := short
  have line : ∀ c ∈ key.toList, isBreak c = false := by
    intro c mem
    have ends := List.any_eq_false.mp breaks c mem
    simp only [isLineEnd, Bool.or_eq_true, not_or, Bool.not_eq_true] at ends
    exact ends.1.1
  unfold scalarText
  cases chosen : Presentation.choose true key.toList with
  | plain =>
    have few (c : Char) : [c].length ≤ 1 * c.utf8Size := by simpa using Nat.succ_le_of_lt c.utf8Size_pos
    have whole := @length_flatMap_le (fun c => [c]) 1 few key.toList
    rw [List.flatMap_singleton', String.ofList_toList] at whole
    have within : Page.keyLimit ≤ State.keyLimit := by decide
    exact ⟨line, by dsimp only; omega⟩
  | singleQuoted =>
    obtain ⟨text, ends⟩ := @linesText_of_line key.toList (own + Page.step) singleChar line
    have whole : singleText (own + Page.step) key.toList = '\'' :: (key.toList.flatMap singleChar ++ ['\'']) := by
      rw [singleText, text, ends, if_neg Bool.false_ne_true, List.append_nil]
    dsimp only
    rw [whole]
    exact isShortLine_quoted few rfl length_singleChar_le fun c mem d shown =>
      eq_of_mem_singleChar shown ▸ line c mem
  | doubleQuoted =>
    exact isShortLine_quoted few rfl (fun c => (ink_escapeChar c).2) fun c _ d shown =>
      ((ink_escapeChar c).1 d shown).2
  | literal => exact absurd (Presentation.of_literal chosen).1 (by decide)

/-- A short key is fetched up to its colon. -/
theorem fetch?_shortKey {key : String} (short : Page.isSimpleKey key = true) (own : Nat)
    (blank : isBlankEnd rest = true) (shallow : indent ≤ p.column) :
    fetch? ⟨⟨scalarText true own key.toList ++ ':' :: rest, p⟩, tokens, [none], indent, outer, true⟩ =
      some ⟨⟨':' :: rest, p.over (scalarText true own key.toList)⟩, keyToken key :: tokens,
        [some ⟨indent == p.column, tokens.length, p⟩], indent, outer, false⟩ := by
  rw [keyToken, short]
  unfold scalarText
  cases chosen : Presentation.choose true key.toList with
  | plain =>
    obtain ⟨c, more, text, bare⟩ := bare_of_plain chosen
    have dash : (':' :: rest).head? ≠ some '-' := by simp
    have dot : (':' :: rest).head? ≠ some '.' := by simp
    have inside : 0 < (p.over (c :: more)).column := by
      rw [p.over_of_line fun d mem => (bare.ink d mem).2]
      exact Nat.lt_of_lt_of_le (Nat.succ_pos _) (Nat.le_add_left _ _)
    have read := (@Bare.plain?_eq c more bare (indent + 1) _ dash dot p (by omega)).trans
      (plain?_colon blank inside _)
    rw [List.reverse_reverse] at read
    have whole : String.ofList (c :: more) = key := by rw [← text, String.ofList_toList]
    rw [text, ← whole]
    exact fetch?_plain bare dash dot shallow read
  | singleQuoted =>
    obtain ⟨noFeed, allowed⟩ := Presentation.of_singleQuoted chosen
    have read := @quoted?_singleText (own + Page.step) (Nat.succ_pos _) key.toList noFeed (.of_features allowed)
      (':' :: rest) (by simp) (p.after '\'') (Nat.succ_pos _)
    rw [String.ofList_toList] at read
    exact @fetch?_quoted p _ tokens indent outer true false shallow key _ '\'' rfl read
  | doubleQuoted =>
    have read := @quoted?_doubleText key.toList (':' :: rest) (p.after '"') (Nat.succ_pos _)
    rw [String.ofList_toList] at read
    exact @fetch?_quoted p _ tokens indent outer true true shallow key _ '"' rfl read
  | literal => exact absurd (Presentation.of_literal chosen).1 (by decide)

/-- A short key is fetched with its colon. Its mark is put in before it once the colon has come. -/
theorem leads_shortKey {key : String} {opened : List Token} {outer' : List Int}
    (short : Page.isSimpleKey key = true) (opens : Opens .blockMappingStart p.column indent outer opened outer')
    (blank : isBlankEnd rest = true) :
    Leads ⟨⟨scalarText true p.column key.toList ++ ':' :: rest, p⟩, tokens, [none], indent, outer, true⟩
      ⟨⟨rest, p.over (scalarText true p.column key.toList ++ [':'])⟩,
        .value :: keyToken key :: .key :: (opened ++ tokens), [none], p.column, outer', false⟩ := by
  obtain ⟨line, near⟩ := isShortLine_of_isSimpleKey short p.column
  obtain ⟨c, more, text, -⟩ := exists_scalarText true p.column key.toList
  have place := p.over_of_line line
  have colon := @fetch?_value (p.over (scalarText true p.column key.toList)) rest tokens indent outer p opened outer'
    (keyToken key) (indent == p.column) opens blank (by rw [place]) (by rw [place]; dsimp only; omega)
    (by rw [place]; exact Nat.le_add_right _ _)
  refine .trans (.turn (fetch?_shortKey short p.column blank opens.le) nofun rfl ?_) (.turn colon nofun ?_ ?_)
  · rw [text]
    simp only [List.length_append, List.length_cons]
    omega
  · rw [Place.over_append]
    rfl
  · simp

/-- A key with a mark of its own is a text behind its mark, and has its colon in a line of its own. -/
theorem leads_longKey {key : String} {opened : List Token} {outer' : List Int}
    (opens : Opens .blockMappingStart p.column indent outer opened outer') (blank : isBlankEnd rest = true) :
    Leads ⟨⟨'?' :: ' ' :: (scalarLine false p.column key.toList ++ (spaces p.column ++ ':' :: rest)), p⟩, tokens,
        [none], indent, outer, true⟩
      ⟨⟨rest, p.over ('?' :: ' ' :: (scalarLine false p.column key.toList ++ spaces p.column ++ [':']))⟩,
        .value :: .scalar key (Presentation.choose false key.toList).style :: .key :: (opened ++ tokens), [none],
        p.column, outer', true⟩ := by
  have colon : Begins (':' :: rest) := by
    rintro _ ⟨⟩
    decide
  have ends : Tail p.column (spaces p.column ++ ':' :: rest) := .line (List.cons_ne_nil _ _) colon (Int.le_refl _)
  have further : (p.column : Int) < ((p.after '?').over [' ']).column := by
    show (p.column : Int) < ((p.column + 1 + 1 : Nat) : Int)
    omega
  have begins : Begins (scalarLine false p.column key.toList ++ (spaces p.column ++ ':' :: rest)) := by
    rw [scalarLine, List.append_assoc]
    exact begins_scalarText _ _ _ _
  have text := @leads_scalarLine ((p.after '?').over [' ']) (spaces p.column ++ ':' :: rest)
    (.key :: (opened ++ tokens)) p.column outer' true p.column key.toList (.inl rfl) ends further
  rw [String.ofList_toList] at text
  have line := column_over_scalarLine false p.column key.toList ((p.after '?').over [' '])
  have there : (((p.after '?').over [' ']).over (scalarLine false p.column key.toList ++
      spaces p.column)).column = p.column := by
    rw [Place.over_append, Place.column_over_spaces, line, Nat.zero_add]
  refine .trans (.turn (fetch?_longKey opens rfl) nofun (@fetch?_blanks _ _ _ _ _ _ _ [' '] (by simp) begins) ?_)
    (text.trans ?_)
  · exact Nat.lt_succ_of_lt (Nat.lt_succ_self _)
  · refine .trans (.of_same (fetch?_blanks blank_of_mem_spaces colon) (by simp)) ?_
    rw [← Place.over_append]
    refine .turn (fetch?_longValue there blank) nofun ?_ (by simp)
    simp only [Place.over_append, Place.over_cons, Place.over_nil]

/-- A key is fetched with its colon, be it short or marked. -/
theorem leads_keyText {key : String} {own : Nat} {opened : List Token} {outer' : List Int}
    (opens : Opens .blockMappingStart own indent outer opened outer') (there : p.column = own)
    (blank : isBlankEnd rest = true) :
    Leads ⟨⟨keyText own key ++ rest, p⟩, tokens, [none], indent, outer, true⟩
      ⟨⟨rest, p.over (keyText own key)⟩, .value :: keyToken key :: .key :: (opened ++ tokens), [none], own, outer',
        !Page.isSimpleKey key⟩ := by
  subst there
  unfold keyText
  cases short : Page.isSimpleKey key with
  | true => simpa using leads_shortKey short opens blank
  | false => simpa [keyToken, short] using @leads_longKey p rest tokens indent outer key opened outer' opens blank

end Scan

end VirtLifecycle.Yaml
