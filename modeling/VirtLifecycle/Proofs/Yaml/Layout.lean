/-
Module: VirtLifecycle.Proofs.Yaml.Layout
Purpose: The text that is written for a value, without a page to write it on. A page knows its column and
  whether the line is still free; what comes of a value depends only on the spot at which it begins: at
  the start of the page, behind the mark of an item or of a long key, or behind the colon of a short one.
  Each value ends its last line, so the text of a collection is that of its entries one after the other.
Main exports: Yaml.Spot, Yaml.scalarText, Yaml.valueText, Yaml.itemsText, Yaml.membersText, Yaml.Carriable,
  Yaml.print_eq
-/
import VirtLifecycle.Yaml.Printer

namespace VirtLifecycle.Yaml

/-! ### The text of scalars -/

def spaces (n : Nat) : List Char := List.replicate n ' '

/-- The lines of a text, each but the first one indented, with each character shown in some way. An empty
line has no indentation. `broken` says whether the text begins in a new line. -/
def linesText (indent : Nat) (shown : Char → List Char) : (broken : Bool) → List Char → List Char
  | _, [] => []
  | broken, c :: rest =>
    if isBreak c then c :: linesText indent shown true rest
    else (if broken then spaces indent else []) ++ shown c ++ linesText indent shown false rest

/-- How a character stands between single quotes. -/
def singleChar (c : Char) : List Char := if c == '\'' then [c, c] else [c]

/-- Whether a text ends with a break; `broken` is what counts for the empty text. -/
def endsBroken : (broken : Bool) → List Char → Bool
  | broken, [] => broken
  | _, c :: rest => endsBroken (isBreak c) rest

def singleText (indent : Nat) (s : List Char) : List Char :=
  '\'' :: (linesText indent singleChar false s ++ (if endsBroken false s then spaces indent else []) ++
    ['\''])

def doubleText (s : List Char) : List Char := '"' :: (s.flatMap escapeChar ++ ['"'])

def literalText (indent : Nat) (s : List Char) : List Char :=
  '|' :: (Page.blockHints s ++ '\n' :: linesText indent (fun c => [c]) true s)

/-- The text of a scalar in a collection that is indented by `within`. -/
def scalarText (simpleKey : Bool) (within : Nat) (s : List Char) : List Char :=
  match Presentation.choose simpleKey s with
  | .plain => s
  | .singleQuoted => singleText (within + Page.step) s
  | .doubleQuoted => doubleText s
  | .literal => literalText (within + Page.step) s

/-- What ends the last line of a scalar. A block whose text ends with a break has ended it already. -/
def lineEnd (simpleKey : Bool) (s : List Char) : List Char :=
  if Presentation.choose simpleKey s = .literal ∧ endsBroken true s = true then [] else ['\n']

/-- A scalar with the end of its line. -/
def scalarLine (simpleKey : Bool) (within : Nat) (s : List Char) : List Char :=
  scalarText simpleKey within s ++ lineEnd simpleKey s

/-! ### The text of values -/

/-- Where a value begins. -/
inductive Spot where
  /-- at the start of the page -/
  | top
  /-- behind the mark of an item or of a long key, in a collection that is indented by so much -/
  | mark (own : Nat)
  /-- behind the colon of a short key, in a mapping that is indented by so much -/
  | colon (own : Nat)
deriving DecidableEq, Repr

namespace Spot

/-- The indentation of the collection around the value. -/
def within : Spot → Nat
  | top => 0
  | mark own | colon own => own

/-- How far a list is indented that begins here. -/
def listIndent : Spot → Nat
  | top => 0
  | mark own => own + Page.step
  | colon own => own

/-- How far a mapping is indented that begins here. -/
def mapIndent : Spot → Nat
  | top => 0
  | mark own | colon own => own + Page.step

/-- What stands before a scalar, or before brackets. -/
def gap : Spot → List Char
  | top => []
  | mark _ | colon _ => [' ']

/-- What stands before the first entry of a collection. -/
def lead (column : Nat) : Spot → List Char
  | top => []
  | mark _ => [' ']
  | colon _ => '\n' :: spaces column

end Spot

/-- A key with its colon, at the column of its mapping. -/
def keyText (own : Nat) (key : String) : List Char :=
  if Page.isSimpleKey key then scalarText true own key.toList ++ [':']
  else '?' :: ' ' :: (scalarLine false own key.toList ++ spaces own ++ [':'])

/-- Where the value under a key begins. -/
def keySpot (own : Nat) (key : String) : Spot :=
  if Page.isSimpleKey key then .colon own else .mark own

/-- The text of a number, a truth value or null. -/
def wordText : Json → List Char
  | .null => "null".toList
  | .bool true => "true".toList
  | .bool false => "false".toList
  | .number n => Page.number n
  | _ => []

mutual

/-- The text of a value from its spot on, to the end of its last line. -/
def valueText (value : Json) (spot : Spot) : List Char :=
  match value with
  | .text s => spot.gap ++ scalarLine false spot.within s.toList
  | .array [] => spot.gap ++ ['[', ']', '\n']
  | .object [] => spot.gap ++ ['{', '}', '\n']
  | .array (item :: items) =>
    let own := spot.listIndent
    spot.lead own ++ ('-' :: valueText item (.mark own) ++ itemsText own items)
  | .object ((key, member) :: members) =>
    let own := spot.mapIndent
    spot.lead own ++ (keyText own key ++ valueText member (keySpot own key) ++ membersText own members)
  | .null => spot.gap ++ (wordText .null ++ ['\n'])
  | .bool b => spot.gap ++ (wordText (.bool b) ++ ['\n'])
  | .number n => spot.gap ++ (wordText (.number n) ++ ['\n'])

/-- The text of the later items of a list. -/
def itemsText (own : Nat) (items : List Json) : List Char :=
  match items with
  | [] => []
  | item :: items => spaces own ++ ('-' :: valueText item (.mark own) ++ itemsText own items)

/-- The text of the later members of a mapping. -/
def membersText (own : Nat) (members : List (String × Json)) : List Char :=
  match members with
  | [] => []
  | (key, member) :: members =>
    spaces own ++ (keyText own key ++ valueText member (keySpot own key) ++ membersText own members)

end

/-! ### How texts are written -/

namespace Presentation

variable {simpleKey : Bool} {s : List Char}

/-- Between single quotes there are no line feeds, and no spaces next to other line ends. -/
theorem of_singleQuoted (chosen : choose simpleKey s = singleQuoted) :
    '\n' ∉ s ∧ (Features.ofText s).allowsSingleQuotes = true := by
  unfold choose quotedFor at chosen
  grind

/-- In a block there are line feeds, and no spaces in front of a line end. -/
theorem of_literal (chosen : choose simpleKey s = literal) :
    simpleKey = false ∧ '\n' ∈ s ∧ (Features.ofText s).allowsBlock = true := by
  unfold choose quotedFor at chosen
  grind

/-- Without quotes a text is read as itself. -/
theorem of_plain (chosen : choose simpleKey s = plain) :
    isAmbiguous s = false ∧ (Features.ofText s).allowsPlain = true := by
  unfold choose quotedFor at chosen
  grind

end Presentation

/-! ### What single quotes can carry -/

/-- What single quotes can carry: no characters that need escapes, and no spaces next to line ends. -/
structure Carriable (s : List Char) : Prop where
  printable : ∀ c ∈ s, isPrintable c = true
  breakSpace : adjacent isLineEnd isSpaceChar s = false
  spaceBreak : adjacent isSpaceChar isLineEnd s = false

theorem adjacent_tail {f g : Char → Bool} {c : Char} {s : List Char} (apart : adjacent f g (c :: s) = false) :
    adjacent f g s = false := by
  cases s with
  | nil => rfl
  | cons d s => exact (Bool.or_eq_false_iff.mp apart).2

/-- Where two sorts of characters do not meet, one of the first sort has none of the second behind it. -/
theorem adjacent_head {f g : Char → Bool} {c : Char} {s : List Char} (apart : adjacent f g (c :: s) = false)
    (first : f c = true) {d : Char} (next : s.head? = some d) : g d = false := by
  obtain ⟨s, rfl⟩ := List.head?_eq_some_iff.mp next
  simpa [first] using (Bool.or_eq_false_iff.mp apart).1

namespace Carriable

variable {c : Char} {s : List Char}

/-- What the features of a text allow, single quotes can carry. -/
theorem of_features (allowed : (Features.ofText s).allowsSingleQuotes = true) : Carriable s := by
  simp only [Features.allowsSingleQuotes, Features.ofText, Bool.not_eq_true', Bool.or_eq_false_iff] at allowed
  obtain ⟨⟨breakSpace, spaceBreak⟩, special⟩ := allowed
  exact ⟨by simpa using special, breakSpace, spaceBreak⟩

theorem tail (carriable : Carriable (c :: s)) : Carriable s :=
  ⟨fun d mem => carriable.printable d (List.mem_cons_of_mem c mem), adjacent_tail carriable.breakSpace,
    adjacent_tail carriable.spaceBreak⟩

/-- No line of its own begins with a space. -/
theorem head?_of_break (carriable : Carriable (c :: s)) (breaks : isBreak c = true) : s.head? ≠ some ' ' :=
  fun next => absurd (adjacent_head carriable.breakSpace (by simp [isLineEnd, breaks]) next) (by decide)

/-- No space stands at the end of a line. -/
theorem isBreak_of_space (carriable : Carriable (' ' :: s)) {d : Char} (next : s.head? = some d) :
    isBreak d = false := by
  have apart := adjacent_head carriable.spaceBreak rfl next
  simp only [isLineEnd, Bool.or_eq_false_iff] at apart
  exact apart.1.1

/-- What is no space and no break is shown. -/
theorem isWhite_eq_false (carriable : Carriable (c :: s)) (space : c ≠ ' ') (line : isBreak c = false) :
    isWhite c = false := by
  have tab : c ≠ '\t' := by
    rintro rfl
    exact absurd (carriable.printable '\t' List.mem_cons_self) (by decide)
  simp [isWhite, isTabOrSpace, space, tab, line]

end Carriable

/-! ### What pages come to -/

namespace Page

/-- Characters are put down one after the other, and each takes a column. -/
theorem putAll_eq (p : Page) (cs : List Char) :
    p.putAll cs = { p with written := cs.reverse ++ p.written, column := p.column + cs.length } := by
  induction cs generalizing p with
  | nil => rfl
  | cons c cs ih =>
    rw [putAll, List.foldl_cons, ← putAll, ih]
    simp [put, Nat.add_assoc, Nat.add_comm 1]

/-- The page has come to the end of a line, with this written: in whatever line the next thing stands, the
page goes to its column there. -/
def Ends (p : Page) (written : List Char) : Prop :=
  ∀ column, p.indentTo column = ⟨spaces column ++ written, column, true, true⟩

/-- Within a line the next thing goes to a new one. -/
theorem ends_of_line {p : Page} (line : p.indented = false) : p.Ends ('\n' :: p.written) := by
  intro column
  simp [indentTo, line, endLine, putAll_eq, spaces]

/-- At the beginning of a line the next thing stands in it. -/
theorem ends_of_broken {p : Page} (indented : p.indented = true) (column : p.column = 0)
    (gap : p.gap = true) : p.Ends p.written := by
  intro column'
  simp [indentTo, indented, column, gap, putAll_eq, spaces]

/-- At the beginning of a line the page goes to a column with as many spaces. -/
theorem written_indentTo {p : Page} (indented : p.indented = true) (start : p.column = 0) {column : Nat}
    (further : p.gap = true ∨ 0 < column) : (p.indentTo column).written = spaces column ++ p.written := by
  have free : (0 == column && !p.gap) = false := by
    rcases further with gap | further
    · rw [gap, Bool.not_true, Bool.and_false]
    · rw [beq_false_of_ne (Nat.ne_of_lt further), Bool.false_and]
  simp only [indentTo, indented, start, Bool.not_true, Nat.not_lt_zero, decide_false, Bool.or_self, free,
    Bool.false_eq_true, if_false, putAll_eq, List.reverse_replicate, Nat.sub_zero]
  rfl

/-- The page stands within a line, right behind what is written. -/
structure InLine (p : Page) (written : List Char) : Prop where
  written : p.written = written
  gap : p.gap = false
  indented : p.indented = false

theorem InLine.ends {p : Page} {written : List Char} (h : p.InLine written) : p.Ends ('\n' :: written) := by
  rw [← h.written]
  exact ends_of_line h.indented

/-- What a page needs before a scalar. -/
def gapText (p : Page) : List Char := if p.gap then [] else [' ']

/-- A mark that needs a gap before it gets one, unless the page has one there. -/
theorem written_mark (p : Page) (c : Char) (isGap isIndentation : Bool) :
    (p.mark c true isGap isIndentation).written = c :: (p.gapText ++ p.written) := by
  cases gap : p.gap <;> simp [mark, gap, put, gapText]

/-- A text without quotes is put down as it is, behind a space if one is needed. -/
theorem inLine_plain (p : Page) (s : List Char) :
    (p.plain s).InLine (s.reverse ++ (p.gapText ++ p.written)) where
  written := by cases gap : p.gap <;> simp [plain, gap, putAll_eq, put, scalarEnd, gapText]
  gap := rfl
  indented := rfl

/-- A text between double quotes is put down escape by escape. -/
theorem inLine_doubleQuoted (p : Page) (s : List Char) :
    (p.doubleQuoted s).InLine ((doubleText s).reverse ++ (p.gapText ++ p.written)) where
  written := by
    have marked := p.written_mark '"' false false
    simp only [doubleQuoted, mark, scalarEnd, putAll_eq, put, Bool.false_and, Bool.false_eq_true, if_false]
    simp only [mark, put] at marked
    rw [marked]
    simp [doubleText]
  gap := rfl
  indented := rfl

/-- Lines between single quotes. There are no line feeds, and no line begins with a space of its own, so the
indentation is all that stands in front of it. -/
theorem written_singleQuotedChars {indent : Nat} (positive : 0 < indent) {broken : Bool} {s : List Char}
    (noFeed : '\n' ∉ s) (carriable : Carriable s)
    {p : Page} (fresh : broken = true → p.column = 0 ∧ p.indented = true ∧ s.head? ≠ some ' ') :
    (singleQuotedChars indent broken s p).written =
      (linesText indent singleChar broken s ++
        if endsBroken broken s then spaces indent else []).reverse ++ p.written := by
  induction s generalizing broken p with
  | nil =>
    cases broken with
    | false => rfl
    | true =>
      obtain ⟨column, indented, -⟩ := fresh rfl
      simp [singleQuotedChars, linesText, endsBroken, written_indentTo indented column (.inr positive), spaces]
  | cons c rest ih =>
    have noFeed' : '\n' ∉ rest := fun mem => noFeed (List.mem_cons_of_mem c mem)
    have feed : (c == '\n') = false := by
      simpa using fun same : c = '\n' => noFeed (same ▸ List.mem_cons_self)
    rw [singleQuotedChars, linesText, endsBroken]
    cases breaks : isBreak c with
    | true =>
      simp only [if_true, feed, Bool.and_false, Bool.false_eq_true, if_false]
      rw [ih noFeed' carriable.tail fun _ => ⟨rfl, rfl, carriable.head?_of_break breaks⟩]
      simp [endLine]
    | false =>
      have spaceless : (broken && c == ' ') = false := by
        cases broken with
        | false => rfl
        | true => simpa using (fresh rfl).2.2
      simp only [Bool.false_eq_true, if_false, spaceless]
      rw [@ih false noFeed' carriable.tail _ (by simp)]
      cases broken with
      | false =>
        by_cases quote : c = '\''
        · simp [quote, put, singleChar]
        · by_cases space : c = ' ' <;> simp [quote, space, put, singleChar]
      | true =>
        obtain ⟨column, indented, shown⟩ := fresh rfl
        have margin := written_indentTo indented column (.inr positive)
        have solid : c ≠ ' ' := fun same => shown (congrArg some same)
        by_cases quote : c = '\''
        · simp [quote, put, singleChar, margin, spaces]
        · simp [quote, solid, put, singleChar, margin, spaces]

/-- A text between single quotes is put down line by line. -/
theorem inLine_singleQuoted {simpleKey : Bool} {s : List Char} (p : Page) (within : Nat)
    (chosen : Presentation.choose simpleKey s = .singleQuoted) :
    (p.singleQuoted (within + step) s).InLine
      ((singleText (within + step) s).reverse ++ (p.gapText ++ p.written)) where
  written := by
    obtain ⟨noFeed, allowed⟩ := Presentation.of_singleQuoted chosen
    have chars := @written_singleQuotedChars (within + step) (Nat.succ_pos _) false s noFeed (.of_features allowed)
      (p.mark '\'' true false false) nofun
    rw [written_mark] at chars
    simp [singleQuoted, mark, scalarEnd, put, singleText] at chars ⊢
    rw [chars]
  gap := rfl
  indented := rfl

/-- The lines of a block, and where the page comes to with them. -/
theorem literalChars_eq {indent : Nat} {broken : Bool} {s : List Char} {p : Page} (gap : p.gap = true)
    (fresh : p.indented = broken ∧ (broken = true → p.column = 0)) :
    (literalChars indent broken s p).written =
        (linesText indent (fun c => [c]) broken s).reverse ++ p.written ∧
      (literalChars indent broken s p).gap = true ∧
      (literalChars indent broken s p).indented = endsBroken broken s ∧
      (endsBroken broken s = true → (literalChars indent broken s p).column = 0) := by
  induction s generalizing broken p with
  | nil => exact ⟨rfl, gap, fresh⟩
  | cons c rest ih =>
    rw [literalChars, linesText, endsBroken]
    cases breaks : isBreak c with
    | true =>
      have later := @ih true { p.endLine c with indented := true } gap ⟨rfl, fun _ => rfl⟩
      simpa [endLine] using later
    | false =>
      simp only [Bool.false_eq_true, if_false]
      cases broken with
      | false =>
        have later := @ih false { p.put c with indented := false } gap ⟨rfl, nofun⟩
        simpa [put] using later
      | true =>
        have later := @ih false { (p.indentTo indent).put c with indented := false } rfl ⟨rfl, nofun⟩
        obtain ⟨indented, column⟩ := fresh
        have start := @written_indentTo p indented (column rfl) indent (.inl gap)
        simpa [put, start, spaces] using later

/-- A block of lines ends its last line, with a break of its own if the text has none there. -/
theorem ends_literal (p : Page) (indent : Nat) (s : List Char) :
    (p.literal indent s).Ends ((if endsBroken true s then [] else ['\n']) ++
      ((literalText indent s).reverse ++ (p.gapText ++ p.written))) := by
  have hints (q : Page) (cs : List Char) :
      (cs.foldl (fun p c => p.mark c false false false) q).written = cs.reverse ++ q.written := by
    induction cs generalizing q with
    | nil => rfl
    | cons c cs ih =>
      rw [List.foldl_cons, ih]
      simp [mark, put]
  obtain ⟨written, gap, indented, column⟩ :=
    @literalChars_eq indent true s
      { ((blockHints s).foldl (fun p c => p.mark c false false false)
        (p.mark '|' true false false)).endLine '\n' with gap := true, indented := true }
      rfl ⟨rfl, fun _ => rfl⟩
  have whole : (p.literal indent s).written = (literalText indent s).reverse ++ (p.gapText ++ p.written) := by
    refine written.trans ?_
    simp [endLine, hints, written_mark, literalText]
  cases broken : endsBroken true s with
  | true =>
    have ends := ends_of_broken (indented.trans broken) (column broken) gap
    exact whole ▸ ends
  | false =>
    have ends := ends_of_line (indented.trans broken)
    exact whole ▸ ends

/-- A text is written as its presentation says, and the line is ended unless a block has ended it. -/
theorem ends_text (p : Page) (within : Nat) (simpleKey : Bool) (s : List Char) :
    (p.text within simpleKey s).Ends ((scalarLine simpleKey within s).reverse ++ (p.gapText ++ p.written)) := by
  unfold text scalarLine scalarText lineEnd
  cases chosen : Presentation.choose simpleKey s with
  | plain => simpa using (p.inLine_plain s).ends
  | doubleQuoted => simpa using (p.inLine_doubleQuoted s).ends
  | singleQuoted => simpa using (p.inLine_singleQuoted _ chosen).ends
  | literal =>
    have ends := p.ends_literal (within + step) s
    cases broken : endsBroken true s <;> simpa [broken] using ends

/-- A short key is written within the line. -/
theorem inLine_text (p : Page) (within : Nat) (s : List Char) :
    (p.text within true s).InLine ((scalarText true within s).reverse ++ (p.gapText ++ p.written)) := by
  unfold text scalarText
  cases chosen : Presentation.choose true s with
  | plain => exact p.inLine_plain s
  | doubleQuoted => exact p.inLine_doubleQuoted s
  | singleQuoted => exact p.inLine_singleQuoted _ chosen
  | literal => exact absurd (Presentation.of_literal chosen).1 (by decide)

end Page

/-! ### What is written for a value -/

/-- The page is at a spot. -/
inductive Page.Stands : Page → (indent : Option Nat) → (underKey : Bool) → Spot → Prop where
  | top (underKey : Bool) : Stands .blank none underKey .top
  | mark (written : List Char) (own : Nat) (underKey : Bool) :
    Stands ⟨written, own + 1, false, true⟩ (some own) underKey (.mark own)
  | colon {p : Page} {written : List Char} (inLine : p.InLine written) (own : Nat) :
    Stands p (some own) true (.colon own)

variable {p : Page} {indent : Option Nat} {underKey : Bool} {spot : Spot}

namespace Page

/-- Whether a space is needed before a scalar is told by the spot. -/
theorem Stands.gapText_eq (stands : p.Stands indent underKey spot) : p.gapText = spot.gap := by
  cases stands with
  | top => rfl
  | mark => rfl
  | colon inLine => simp [gapText, inLine.gap, Spot.gap]

theorem Stands.within_eq (stands : p.Stands indent underKey spot) : indent.getD 0 = spot.within := by
  cases stands <;> rfl

/-- A list or mapping begins behind its lead, at its own column. -/
theorem Stands.indentTo_eq (stands : p.Stands indent underKey spot) {own : Nat}
    (further : own = spot.listIndent ∨ own = spot.mapIndent) :
    p.indentTo own = ⟨(spot.lead own).reverse ++ p.written, own, true, true⟩ := by
  cases stands with
  | top =>
    obtain rfl : own = 0 := by rcases further with rfl | rfl <;> rfl
    rfl
  | mark written within =>
    obtain rfl : own = within + step := by rcases further with rfl | rfl <;> rfl
    simp [indentTo, Spot.lead, putAll_eq, step]
  | colon inLine within =>
    simp [indentTo, Spot.lead, inLine.indented, endLine, putAll_eq, spaces]

/-- Behind the mark of an item the item begins. -/
theorem stands_item {own : Nat} {written : List Char} (there : p.indentTo own = ⟨written, own, true, true⟩) :
    ((p.indentTo own).mark '-' true false true).Stands (some own) underKey (.mark own) ∧
      ((p.indentTo own).mark '-' true false true).written = '-' :: written := by
  rw [there]
  exact ⟨.mark _ own underKey, rfl⟩

/-- Behind a key its value begins. -/
theorem stands_key {own : Nat} {written : List Char} (there : p.indentTo own = ⟨written, own, true, true⟩)
    (key : String) :
    (p.key own key).Stands (some own) true (keySpot own key) ∧
      (p.key own key).written = (keyText own key).reverse ++ written := by
  unfold Page.key keySpot keyText
  rw [there]
  cases simple : isSimpleKey key with
  | true =>
    have inLine := inLine_text ⟨written, own, true, true⟩ own key.toList
    have marked : (mark (text ⟨written, own, true, true⟩ own true key.toList) ':' false false false).InLine
        (':' :: ((scalarText true own key.toList).reverse ++ written)) := by
      refine ⟨?_, rfl, ?_⟩
      · simp [mark, put, inLine.written, gapText]
      · simp [mark]
    exact ⟨.colon marked own, by simp [marked.written]⟩
  | false =>
    have ends := ends_text (mark ⟨written, own, true, true⟩ '?' true false true) own false key.toList
    simp only [Bool.false_eq_true, if_false]
    rw [ends own]
    refine ⟨.mark _ own true, ?_⟩
    simp [mark, put, gapText, spaces]

end Page

open Page

/-- A list begins at the column that its spot gives it. -/
theorem writeValue_array (stands : p.Stands indent underKey spot) (item : Json) (items : List Json) :
    writeValue (.array (item :: items)) indent underKey p =
      writeItems items spot.listIndent (writeValue item (some spot.listIndent) false
        ((p.indentTo spot.listIndent).mark '-' true false true)) := by
  cases stands with
  | top | mark => simp [writeValue, Spot.listIndent, blank]
  | colon inLine => simp [writeValue, Spot.listIndent, inLine.indented]

/-- A mapping begins at the column that its spot gives it. -/
theorem writeValue_object (stands : p.Stands indent underKey spot) (key : String) (member : Json)
    (members : List (String × Json)) :
    writeValue (.object ((key, member) :: members)) indent underKey p =
      writeMembers members spot.mapIndent (writeValue member (some spot.mapIndent) true
        (p.key spot.mapIndent key)) := by
  cases stands <;> simp [writeValue, Spot.mapIndent]

/-- A word ends its line. -/
theorem ends_word (stands : p.Stands indent underKey spot) (word : List Char) :
    (p.plain word).Ends ((spot.gap ++ (word ++ ['\n'])).reverse ++ p.written) := by
  have ends := (p.inLine_plain word).ends
  rw [stands.gapText_eq] at ends
  cases spot <;> simpa [Spot.gap] using ends

/-- So does a pair of brackets. -/
theorem ends_brackets (stands : p.Stands indent underKey spot) (left right : Char) :
    (p.brackets left right).Ends ((spot.gap ++ [left, right, '\n']).reverse ++ p.written) := by
  have ends := @ends_of_line (p.brackets left right) (by simp [brackets, mark])
  have written : (p.brackets left right).written = right :: left :: (p.gapText ++ p.written) := by
    cases gap : p.gap <;> simp [brackets, mark, put, gap, gapText]
  rw [written, stands.gapText_eq] at ends
  cases spot <;> simpa [Spot.gap] using ends

mutual

/-- What is written for a value is its text, to the end of its last line. The induction is on the value; a
collection leaves its last line to its last entry. -/
theorem ends_writeValue : (value : Json) → {p : Page} → {indent : Option Nat} → {underKey : Bool} →
    {spot : Spot} → p.Stands indent underKey spot →
    (writeValue value indent underKey p).Ends ((valueText value spot).reverse ++ p.written)
  | .null, _, _, _, _, stands => by
    rw [writeValue, valueText]
    exact ends_word stands _
  | .bool true, _, _, _, _, stands => by
    rw [writeValue, valueText]
    exact ends_word stands _
  | .bool false, _, _, _, _, stands => by
    rw [writeValue, valueText]
    exact ends_word stands _
  | .number n, _, _, _, _, stands => by
    rw [writeValue, valueText]
    exact ends_word stands _
  | .text s, p, _, _, spot, stands => by
    rw [writeValue, valueText, stands.within_eq]
    have ends := ends_text p spot.within false s.toList
    rw [stands.gapText_eq] at ends
    cases spot <;> simpa [Spot.gap] using ends
  | .array [], _, _, _, _, stands => by
    rw [writeValue, valueText]
    exact ends_brackets stands '[' ']'
  | .object [], _, _, _, _, stands => by
    rw [writeValue, valueText]
    exact ends_brackets stands '{' '}'
  | .array (item :: items), _, _, _, spot, stands => by
    rw [writeValue_array stands, valueText]
    obtain ⟨inside, written⟩ := stands_item (stands.indentTo_eq (.inl rfl))
    have first := ends_writeValue item inside
    rw [written] at first
    simpa using ends_writeItems items first
  | .object ((key, member) :: members), _, _, _, spot, stands => by
    rw [writeValue_object stands, valueText]
    obtain ⟨inside, written⟩ := stands_key (stands.indentTo_eq (.inr rfl)) key
    have first := ends_writeValue member inside
    rw [written] at first
    simpa using ends_writeMembers members first

theorem ends_writeItems : (items : List Json) → {own : Nat} → {p : Page} → {written : List Char} →
    p.Ends written → (writeItems items own p).Ends ((itemsText own items).reverse ++ written)
  | [], _, _, _, ends => by
    rw [writeItems, itemsText]
    exact ends
  | item :: items, own, _, _, ends => by
    rw [writeItems, itemsText]
    obtain ⟨inside, written⟩ := stands_item (ends own)
    have first := ends_writeValue item inside
    rw [written] at first
    simpa [spaces] using ends_writeItems items first

theorem ends_writeMembers : (members : List (String × Json)) → {own : Nat} → {p : Page} →
    {written : List Char} → p.Ends written →
    (writeMembers members own p).Ends ((membersText own members).reverse ++ written)
  | [], _, _, _, ends => by
    rw [writeMembers, membersText]
    exact ends
  | (key, member) :: members, own, _, _, ends => by
    rw [writeMembers, membersText]
    obtain ⟨inside, written⟩ := stands_key (ends own) key
    have first := ends_writeValue member inside
    rw [written] at first
    simpa [spaces] using ends_writeMembers members first

end

/-- **A value is printed as its text, from the start of the page.** -/
theorem print_eq (value : Json) : print value = String.ofList (valueText value .top) := by
  have ends := ends_writeValue value (.top false)
  rw [print, ends 0]
  simp [spaces, blank]

end VirtLifecycle.Yaml
