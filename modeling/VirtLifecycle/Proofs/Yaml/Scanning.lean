/-
Module: VirtLifecycle.Proofs.Yaml.Scanning
Purpose: Steps of a scanner in a text of blocks. What is to come matters only up to the blanks before it, keys
  that are too far away and blocks that end here, so states that differ in these fetch alike. One state
  leads to another if the tokens between the two are fetched in no more turns than characters are read.
Main exports: Yaml.Scan.Leads, Yaml.Scan.Tail, Yaml.Scan.fetch?_settled, Yaml.Scan.leads_bare,
  Yaml.Scan.leads_quoted, Yaml.Scan.leads_literal, Yaml.Scan.leads_brackets
-/
import VirtLifecycle.Proofs.Yaml.Unquoted
import VirtLifecycle.Yaml.Token.Stream

namespace VirtLifecycle.Yaml.Scan

variable {p : Place} {rest : List Char} {tokens : List Token} {key : Option KeyMark} {indent : Int}
  {outer : List Int} {keyAllowed : Bool}

/-! ### States that fetch alike -/

/-- Spaces and line feeds are skipped. After a line feed a key may begin. -/
theorem toNextToken_blanks {gap : List Char} (blank : ∀ c ∈ gap, c = ' ' ∨ c = '\n') (begins : Begins rest)
    (p : Place) (keyAllowed : Bool) :
    toNextToken false (gap ++ rest) p false keyAllowed =
      (⟨rest, p.over gap⟩, keyAllowed || gap.any isBreak) := by
  induction gap generalizing p keyAllowed with
  | nil =>
    rw [List.nil_append, List.any_nil, Bool.or_false]
    cases rest with
    | nil => rfl
    | cons d rest =>
      obtain ⟨white, comment, mark⟩ := begins d rfl
      simp only [isWhite, isTabOrSpace, Bool.or_eq_false_iff] at white
      obtain ⟨⟨space, tab⟩, line⟩ := white
      simp [toNextToken, space, tab, line, comment, mark]
  | cons c gap ih =>
    obtain ⟨first, blank'⟩ := List.forall_mem_cons.mp blank
    have feed : isBreak '\n' = true := rfl
    have line : isBreak ' ' = false := rfl
    rcases first with rfl | rfl
    · simpa [toNextToken, line] using ih blank' (p.after ' ') keyAllowed
    · simpa [toNextToken, feed] using ih blank' (p.after '\n') true

theorem toNextToken_of_begins (begins : Begins rest) (p : Place) (keyAllowed : Bool) :
    toNextToken false rest p false keyAllowed = (⟨rest, p⟩, keyAllowed) := by
  have skipped := @toNextToken_blanks rest [] (List.forall_mem_nil _) begins p keyAllowed
  simpa using skipped

/-- Blanks before the next token do not matter, but for the key that may begin after a line feed. -/
theorem fetch?_blanks {gap : List Char} (blank : ∀ c ∈ gap, c = ' ' ∨ c = '\n') (begins : Begins rest) :
    fetch? ⟨⟨gap ++ rest, p⟩, tokens, [key], indent, outer, keyAllowed⟩ =
      fetch? ⟨⟨rest, p.over gap⟩, tokens, [key], indent, outer, keyAllowed || gap.any isBreak⟩ := by
  have flow (at_ : Cursor) (allowed : Bool) :
      (⟨at_, tokens, [key], indent, outer, allowed⟩ : State).inFlow = false := rfl
  rw [fetch?, fetch?]
  simp only [flow, toNextToken_blanks blank begins, toNextToken_of_begins begins]

/-- A place in an earlier line, at which a key might have begun, does not matter. -/
theorem fetch?_stale {mark : KeyMark} (free : mark.required = false) (earlier : mark.place.line < p.line)
    (begins : Begins rest) :
    fetch? ⟨⟨rest, p⟩, tokens, [some mark], indent, outer, keyAllowed⟩ =
      fetch? ⟨⟨rest, p⟩, tokens, [none], indent, outer, keyAllowed⟩ := by
  have flow (keys : Option KeyMark) :
      (⟨⟨rest, p⟩, tokens, [keys], indent, outer, keyAllowed⟩ : State).inFlow = false := rfl
  rw [fetch?, fetch?]
  simp [flow, toNextToken_of_begins begins, State.dropStaleKeys?, earlier, free]

/-- A block that is indented further than what comes next has ended. At the end of the text all have. -/
theorem fetch?_pop {own : Nat} (ends : rest = [] ∨ p.column < own) (begins : Begins rest) :
    fetch? ⟨⟨rest, p⟩, tokens, [none], own, indent :: outer, keyAllowed⟩ =
      fetch? ⟨⟨rest, p⟩, .blockEnd :: tokens, [none], indent, outer, keyAllowed⟩ := by
  have flow (tokens : List Token) (indent : Int) (outer : List Int) :
      (⟨⟨rest, p⟩, tokens, [none], indent, outer, keyAllowed⟩ : State).inFlow = false := rfl
  have pop (column : Int) (left : column < own) :
      (⟨⟨rest, p⟩, tokens, [none], own, indent :: outer, keyAllowed⟩ : State).unroll column =
        (⟨⟨rest, p⟩, .blockEnd :: tokens, [none], indent, outer, keyAllowed⟩ : State).unroll column := by
    rw [State.unroll, State.unroll, flow, flow, if_neg Bool.false_ne_true, if_neg Bool.false_ne_true]
    exact if_pos left
  rw [fetch?, fetch?]
  simp only [flow, toNextToken_of_begins begins, State.dropStaleKeys?, List.mapM_cons, List.mapM_nil, bind, pure,
    Option.bind_some]
  cases rest with
  | nil => simp only [State.finish?, pop (-1) (by omega)]
  | cons d rest =>
    have left : p.column < own := ends.resolve_left (List.cons_ne_nil d rest)
    simp only [pop p.column (by omega)]

/-! ### From one state to another -/

/-- Fetching goes from one state to another, with a turn for a character at most. -/
def Leads (s s' : State) : Prop :=
  ∃ k, k + s'.at_.rest.length ≤ s.at_.rest.length ∧
    ∀ turns, fetchAll? (turns + k) s = fetchAll? turns s'

/-- States that fetch alike once fetch alike from then on. -/
theorem fetchAll?_congr {s s' : State} (same : fetch? s = fetch? s') (turns : Nat) :
    fetchAll? turns s = fetchAll? turns s' := by
  cases turns with
  | zero => rfl
  | succ turns => rw [fetchAll?, fetchAll?, same]

namespace Leads

variable {s s' s'' : State}

theorem refl (s : State) : Leads s s := ⟨0, Nat.le_of_eq (Nat.zero_add _), fun _ => rfl⟩

/-- States that lead on make a way together. -/
theorem trans (first : Leads s s') (second : Leads s' s'') : Leads s s'' := by
  obtain ⟨k, shorter, fetched⟩ := first
  obtain ⟨l, shorter', fetched'⟩ := second
  refine ⟨l + k, by omega, fun turns => ?_⟩
  rw [← Nat.add_assoc, fetched, fetched']

/-- States that fetch alike lead to each other, if nothing comes back. -/
theorem of_same (same : fetch? s = fetch? s') (shorter : s'.at_.rest.length ≤ s.at_.rest.length) : Leads s s' :=
  ⟨0, by omega, fetchAll?_congr same⟩

/-- A turn that fetches another token than the last one, and what fetches like the state after it. -/
theorem turn {after : State} (fetched : fetch? s = some after) (on : after.tokens.head? ≠ some .streamEnd)
    (same : fetch? after = fetch? s') (shorter : s'.at_.rest.length < s.at_.rest.length) : Leads s s' := by
  refine ⟨1, by omega, fun turns => ?_⟩
  rw [fetchAll?, fetched]
  simp only [bind, Option.bind_some]
  split
  · rename_i last
    exact absurd (congrArg List.head? last) on
  · exact fetchAll?_congr same turns

end Leads

/-! ### Single turns -/

/-- No block ends in a column that lies within all of them. -/
theorem unroll_of_le {s : State} {column : Int} (shallow : s.indent ≤ column) : s.unroll column = s := by
  have left : ¬ column < s.indent := Int.not_lt.mpr shallow
  unfold State.unroll
  split
  · rfl
  · cases s.outer <;> exact if_neg left

theorem atMarker_of_ne {mark c : Char} (other : c ≠ mark) (rest : List Char) (p : Place) :
    Cursor.atMarker mark (c :: rest) p = false := by
  unfold Cursor.atMarker
  split
  · rename_i same
    obtain ⟨rfl, -⟩ := List.cons.inj same
    simp [other]
  · exact Bool.and_false _

/-- The key that may have begun where a token begins. -/
def savedKey (indent : Int) (tokens : List Token) (p : Place) (keyAllowed : Bool) : Option KeyMark :=
  if keyAllowed then some ⟨indent == p.column, tokens.length, p⟩ else none

/-- Where no other key has begun, one may begin. -/
theorem saveKey?_eq (c : Cursor) (tokens : List Token) (indent : Int) (outer : List Int) (keyAllowed : Bool) :
    (⟨c, tokens, [none], indent, outer, keyAllowed⟩ : State).saveKey? =
      some ⟨c, tokens, [savedKey indent tokens c.place keyAllowed], indent, outer, keyAllowed⟩ := by
  cases keyAllowed <;> rfl

/-- With one key that may have begun there is no bracket around. -/
@[simp] theorem inFlow_eq_false (c : Cursor) (tokens : List Token) (key : Option KeyMark) (indent : Int)
    (outer : List Int) (keyAllowed : Bool) :
    (⟨c, tokens, [key], indent, outer, keyAllowed⟩ : State).inFlow = false := rfl

/-- Where a token begins on its own: nothing is skipped, the key is near, and no block ends. -/
structure Settled (d : Char) (rest : List Char) (p : Place) (key : Option KeyMark) (indent : Int) : Prop where
  begins : Begins (d :: rest)
  near : ∀ mark ∈ key, mark.place.line = p.line ∧ p.index ≤ mark.place.index + State.keyLimit
  shallow : indent ≤ p.column

/-- A character that is neither blank nor comment settles its place, if no key is waiting. -/
theorem Settled.of_mark {d : Char} (solid : isWhite d = false ∧ d ≠ '#' ∧ d ≠ '\ufeff') (rest : List Char)
    (shallow : indent ≤ p.column) : Settled d rest p none indent where
  begins := by
    rintro _ ⟨⟩
    exact solid
  near := nofun
  shallow := shallow

/-- A key that is near is kept. -/
theorem Settled.dropStaleKeys?_eq {d : Char} (settled : Settled d rest p key indent) :
    (⟨⟨d :: rest, p⟩, tokens, [key], indent, outer, keyAllowed⟩ : State).dropStaleKeys? =
      some ⟨⟨d :: rest, p⟩, tokens, [key], indent, outer, keyAllowed⟩ := by
  cases key with
  | none => rfl
  | some mark =>
    obtain ⟨line, index⟩ := settled.near mark rfl
    have here : ¬ (mark.place.line < p.line ∨ mark.place.index + State.keyLimit < p.index) := by omega
    simp [State.dropStaleKeys?, here]

/-- Where a token begins on its own it is fetched at once. -/
theorem fetch?_settled {d : Char} (settled : Settled d rest p key indent) :
    fetch? ⟨⟨d :: rest, p⟩, tokens, [key], indent, outer, keyAllowed⟩ =
      State.fetchAt? ⟨⟨d :: rest, p⟩, tokens, [key], indent, outer, keyAllowed⟩ d rest := by
  rw [fetch?]
  simp only [inFlow_eq_false, toNextToken_of_begins settled.begins, settled.dropStaleKeys?_eq, bind, Option.bind_some,
    @unroll_of_le ⟨_, _, _, _, _, _⟩ _ settled.shallow]

/-- A quote begins a text that is quoted. -/
theorem fetch?_quoted {double : Bool} (shallow : indent ≤ p.column) {text : String} {after : Cursor}
    {mark : Char} (quote : mark = if double then '"' else '\'')
    (read : Scan.quoted? double rest (p.after mark) [] Gap.empty .char = some ⟨text, false, after⟩) :
    fetch? ⟨⟨mark :: rest, p⟩, tokens, [none], indent, outer, keyAllowed⟩ =
      some ⟨after, .scalar text (if double then .doubleQuoted else .singleQuoted) :: tokens,
        [savedKey indent tokens p keyAllowed], indent, outer, false⟩ := by
  have settled : Settled mark rest p none indent := by
    subst quote
    exact .of_mark (by cases double <;> decide) rest shallow
  rw [fetch?_settled settled, State.fetchAt?]
  cases double with
  | false =>
    obtain rfl : mark = '\'' := quote
    have dash := atMarker_of_ne (show '\'' ≠ '-' by decide) rest p
    have dot := atMarker_of_ne (show '\'' ≠ '.' by decide) rest p
    simp [dash, dot, State.quoted?, saveKey?_eq, Cursor.next, read, State.allowKey, State.moveTo, State.emit]
  | true =>
    obtain rfl : mark = '"' := quote
    have dash := atMarker_of_ne (show '"' ≠ '-' by decide) rest p
    have dot := atMarker_of_ne (show '"' ≠ '.' by decide) rest p
    simp [dash, dot, State.quoted?, saveKey?_eq, Cursor.next, read, State.allowKey, State.moveTo, State.emit]

/-- The mark of a block of lines begins a text. -/
theorem fetch?_literal (shallow : indent ≤ p.column) {text : String} {after : Cursor}
    (read : Scan.block? false indent ⟨rest, p.after '|'⟩ = some ⟨text, false, after⟩) :
    fetch? ⟨⟨'|' :: rest, p⟩, tokens, [none], indent, outer, keyAllowed⟩ =
      some ⟨after, .scalar text .literal :: tokens, [none], indent, outer, true⟩ := by
  have settled : Settled '|' rest p none indent := .of_mark (by decide) rest shallow
  have dash := atMarker_of_ne (show '|' ≠ '-' by decide) rest p
  have dot := atMarker_of_ne (show '|' ≠ '.' by decide) rest p
  rw [fetch?_settled settled, State.fetchAt?]
  simp [dash, dot, State.block?, State.removeKey?, Cursor.next, read, State.allowKey, State.moveTo, State.emit]

/-- A text without quotes begins with its first word. -/
theorem fetch?_plain {c : Char} {s tail : List Char} (bare : Bare c s) (dash : tail.head? ≠ some '-')
    (dot : tail.head? ≠ some '.') (shallow : indent ≤ p.column) {read : Read}
    (found : Scan.plain? false (indent + 1) (c :: s ++ tail) p [] Gap.empty = some read) :
    fetch? ⟨⟨c :: s ++ tail, p⟩, tokens, [none], indent, outer, keyAllowed⟩ =
      some ⟨read.after, .scalar read.text .plain :: tokens, [savedKey indent tokens p keyAllowed], indent, outer,
        read.broken⟩ := by
  have first := bare.first
  simp only [isFirstIndicator, List.mem_cons, List.not_mem_nil, or_false, not_or, decide_eq_false_iff_not] at first
  have bom : c ≠ '\ufeff' := by
    rintro rfl
    exact absurd (bare.ink _ List.mem_cons_self) (by decide)
  have settled : Settled c (s ++ tail) p none indent :=
    .of_mark ⟨bare.isWhite_eq_false, first.1, bom⟩ _ shallow
  have markers := bare.atDocumentMarker_eq_false dash dot p
  simp only [Cursor.atDocumentMarker, Bool.or_eq_false_iff] at markers
  have mark (m : Char) (one : m = '?' ∨ m = ':' ∨ m = '-') : ¬ (c = m ∧ isBlankEnd (s ++ tail) = true) := by
    rintro ⟨rfl, blank⟩
    exact Bool.false_ne_true ((bare.isBlankEnd_eq_false one tail).symm.trans blank)
  have begins : beginsPlain false c (s ++ tail) = true := by
    by_cases marked : c = '?' ∨ c = ':' ∨ c = '-'
    · have on := bare.isBlankEnd_eq_false marked tail
      cases next : s ++ tail with
      | nil =>
        rw [next] at on
        cases on
      | cons d rest =>
        rw [next] at on
        have blank : isTabOrSpace d = false := (Bool.or_eq_false_iff.mp on).1
        rcases marked with rfl | rfl | rfl <;> simp [beginsPlain, on, blank]
    · simp only [not_or] at marked
      simp [beginsPlain, marked, first, bare.isWhite_eq_false]
  rw [List.cons_append] at markers found ⊢
  rw [fetch?_settled settled, State.fetchAt?]
  simp [markers, first, mark, begins, State.plain?, saveKey?_eq, found, State.allowKey, State.moveTo, State.emit]

/-- A block that begins with an entry in a column, or goes on with one. -/
inductive Opens (t : Token) (own : Nat) : (indent : Int) → (outer : List Int) → (opened : List Token) →
    (outer' : List Int) → Prop where
  | first {indent : Int} (outer : List Int) (further : indent < own) : Opens t own indent outer [t] (indent :: outer)
  | later (outer : List Int) : Opens t own own outer [] outer

/-- A token is put in before the ones that have come since. -/
theorem emitAt_append (c : Cursor) (front tokens : List Token) (t : Token) :
    (⟨c, front ++ tokens, [key], indent, outer, keyAllowed⟩ : State).emitAt tokens.length t =
      ⟨c, front ++ t :: tokens, [key], indent, outer, keyAllowed⟩ := by
  simp [State.emitAt]

namespace Opens

variable {t : Token} {own : Nat} {opened : List Token} {outer' : List Int}

/-- A block that opens or goes on lies within the one around it. -/
theorem le (opens : Opens t own indent outer opened outer') : indent ≤ own := by
  cases opens with
  | first _ further => omega
  | later => exact Int.le_refl _

/-- The mark of the block, if it opens, is put in before its first entry. -/
theorem roll_eq (opens : Opens t own indent outer opened outer') (c : Cursor) (tokens : List Token) :
    (⟨c, tokens, [key], indent, outer, keyAllowed⟩ : State).roll own none t =
      ⟨c, opened ++ tokens, [key], own, outer', keyAllowed⟩ := by
  cases opens with
  | first _ further =>
    have deeper : ¬ (own : Int) ≤ indent := Int.not_le.mpr further
    simp [State.roll, State.inFlow, State.emit, deeper]
  | later => simp [State.roll, State.inFlow]

/-- The block begins where its first key did. -/
theorem rollAt_eq (opens : Opens t own indent outer opened outer') (c : Cursor) (front tokens : List Token) :
    (⟨c, front ++ tokens, [key], indent, outer, keyAllowed⟩ : State).roll own (some tokens.length) t =
      ⟨c, front ++ (opened ++ tokens), [key], own, outer', keyAllowed⟩ := by
  cases opens with
  | first _ further =>
    have deeper : ¬ (own : Int) ≤ indent := Int.not_le.mpr further
    simp [State.roll, State.inFlow, emitAt_append, deeper]
  | later => simp [State.roll, State.inFlow]

end Opens

/-- The mark of an item. -/
theorem fetch?_item {opened : List Token} {outer' : List Int}
    (opens : Opens .blockSequenceStart p.column indent outer opened outer') (blank : isBlankEnd rest = true)
    (free : Cursor.atMarker '-' ('-' :: rest) p = false) :
    fetch? ⟨⟨'-' :: rest, p⟩, tokens, [none], indent, outer, true⟩ =
      some ⟨⟨rest, p.after '-'⟩, .blockEntry :: (opened ++ tokens), [none], p.column, outer', true⟩ := by
  have settled : Settled '-' rest p none indent := .of_mark (by decide) rest opens.le
  have dot := atMarker_of_ne (show '-' ≠ '.' by decide) rest p
  rw [fetch?_settled settled, State.fetchAt?]
  simp [free, dot, blank, State.blockEntry?, State.column, opens.roll_eq, State.removeKey?, State.emit, Cursor.next]

/-- The mark of a long key. -/
theorem fetch?_longKey {opened : List Token} {outer' : List Int}
    (opens : Opens .blockMappingStart p.column indent outer opened outer') (blank : isBlankEnd rest = true) :
    fetch? ⟨⟨'?' :: rest, p⟩, tokens, [none], indent, outer, true⟩ =
      some ⟨⟨rest, p.after '?'⟩, .key :: (opened ++ tokens), [none], p.column, outer', true⟩ := by
  have settled : Settled '?' rest p none indent := .of_mark (by decide) rest opens.le
  have dash := atMarker_of_ne (show '?' ≠ '-' by decide) rest p
  have dot := atMarker_of_ne (show '?' ≠ '.' by decide) rest p
  rw [fetch?_settled settled, State.fetchAt?]
  simp [dash, dot, blank, State.key?, State.inFlow, State.column, opens.roll_eq, State.removeKey?, State.emit,
    Cursor.next]

/-- The colon after a long key. -/
theorem fetch?_longValue {own : Nat} (there : p.column = own) (blank : isBlankEnd rest = true) :
    fetch? ⟨⟨':' :: rest, p⟩, tokens, [none], own, outer, true⟩ =
      some ⟨⟨rest, p.after ':'⟩, .value :: tokens, [none], own, outer, true⟩ := by
  subst there
  have settled : Settled ':' rest p none p.column := .of_mark (by decide) rest (Int.le_refl _)
  have dash := atMarker_of_ne (show ':' ≠ '-' by decide) rest p
  have dot := atMarker_of_ne (show ':' ≠ '.' by decide) rest p
  rw [fetch?_settled settled, State.fetchAt?]
  simp [dash, dot, blank, State.value?, State.roll, State.inFlow, State.column, State.emit, Cursor.next]

/-- The colon after a key in the same line. The mark of the key is put in where the key began. -/
theorem fetch?_value {own : Place} {opened : List Token} {outer' : List Int} {scalar : Token} {required : Bool}
    (opens : Opens .blockMappingStart own.column indent outer opened outer') (blank : isBlankEnd rest = true)
    (line : own.line = p.line) (near : p.index ≤ own.index + State.keyLimit) (behind : own.column ≤ p.column) :
    fetch? ⟨⟨':' :: rest, p⟩, scalar :: tokens, [some ⟨required, tokens.length, own⟩], indent, outer, false⟩ =
      some ⟨⟨rest, p.after ':'⟩, .value :: scalar :: .key :: (opened ++ tokens), [none], own.column, outer',
        false⟩ := by
  have shallow : indent ≤ p.column := Int.le_trans opens.le (Int.ofNat_le.mpr behind)
  have settled : Settled ':' rest p (some ⟨required, tokens.length, own⟩) indent := by
    refine ⟨?_, ?_, shallow⟩
    · rintro _ ⟨⟩
      decide
    · rintro _ ⟨⟩
      exact ⟨line, near⟩
  have dash := atMarker_of_ne (show ':' ≠ '-' by decide) rest p
  have dot := atMarker_of_ne (show ':' ≠ '.' by decide) rest p
  rw [fetch?_settled settled, State.fetchAt?]
  have marked : (⟨⟨':' :: rest, p⟩, scalar :: tokens, [some ⟨required, tokens.length, own⟩], indent, outer,
      false⟩ : State).emitAt tokens.length .key = ⟨⟨':' :: rest, p⟩, scalar :: .key :: tokens,
        [some ⟨required, tokens.length, own⟩], indent, outer, false⟩ := emitAt_append _ [scalar] tokens .key
  have rolled : (⟨⟨':' :: rest, p⟩, scalar :: .key :: tokens, [some ⟨required, tokens.length, own⟩], indent, outer,
      false⟩ : State).roll own.column (some tokens.length) .blockMappingStart = ⟨⟨':' :: rest, p⟩,
        scalar :: .key :: (opened ++ tokens), [some ⟨required, tokens.length, own⟩], own.column, outer', false⟩ :=
    opens.rollAt_eq _ [scalar, .key] tokens
  simp [dash, dot, blank, State.value?, marked, rolled, State.emit, Cursor.next]

/-- The marks around an empty list or mapping, and their tokens. -/
inductive Brackets : (left right : Char) → (start stop : Token) → Prop where
  | list : Brackets '[' ']' .flowSequenceStart .flowSequenceEnd
  | mapping : Brackets '{' '}' .flowMappingStart .flowMappingEnd

/-- A bracket begins an empty collection. -/
theorem fetch?_left {left right : Char} {start stop : Token} (brackets : Brackets left right start stop)
    (shallow : indent ≤ p.column) :
    fetch? ⟨⟨left :: rest, p⟩, tokens, [none], indent, outer, keyAllowed⟩ =
      some ⟨⟨rest, p.after left⟩, start :: tokens, [none, savedKey indent tokens p keyAllowed], indent, outer,
        true⟩ := by
  have settled : Settled left rest p none indent := by
    cases brackets <;> exact .of_mark (by decide) rest shallow
  have dash : Cursor.atMarker '-' (left :: rest) p = false := by
    cases brackets <;> exact atMarker_of_ne (by decide) rest p
  have dot : Cursor.atMarker '.' (left :: rest) p = false := by
    cases brackets <;> exact atMarker_of_ne (by decide) rest p
  rw [fetch?_settled settled, State.fetchAt?]
  simp only [dash, dot]
  cases brackets <;> simp [State.flowStart?, saveKey?_eq, State.emit, Cursor.next]

/-- The other bracket ends it. -/
theorem fetch?_right {left right : Char} {start stop : Token} (brackets : Brackets left right start stop) :
    fetch? ⟨⟨right :: rest, p.after left⟩, start :: tokens, [none, savedKey indent tokens p keyAllowed], indent,
        outer, true⟩ =
      some ⟨⟨rest, (p.after left).after right⟩, stop :: start :: tokens, [savedKey indent tokens p keyAllowed],
        indent, outer, false⟩ := by
  have line : isBreak left = false := by cases brackets <;> rfl
  have dash : Cursor.atMarker '-' (right :: rest) (p.after left) = false := by
    cases brackets <;> exact atMarker_of_ne (by decide) rest _
  have dot : Cursor.atMarker '.' (right :: rest) (p.after left) = false := by
    cases brackets <;> exact atMarker_of_ne (by decide) rest _
  have next : toNextToken true (right :: rest) (p.after left) false true = (⟨right :: rest, p.after left⟩, true) := by
    cases brackets <;> rfl
  have flow (at_ : Cursor) (allowed : Bool) : (⟨at_, start :: tokens, [none, savedKey indent tokens p keyAllowed],
      indent, outer, allowed⟩ : State).inFlow = true := rfl
  have kept : (⟨⟨right :: rest, p.after left⟩, start :: tokens, [none, savedKey indent tokens p keyAllowed],
      indent, outer, true⟩ : State).dropStaleKeys? = some ⟨⟨right :: rest, p.after left⟩, start :: tokens,
        [none, savedKey indent tokens p keyAllowed], indent, outer, true⟩ := by
    cases keyAllowed with
    | false => rfl
    | true =>
      simp [State.dropStaleKeys?, savedKey, Place.after, line, State.keyLimit]
  have level (column : Int) : (⟨⟨right :: rest, p.after left⟩, start :: tokens,
      [none, savedKey indent tokens p keyAllowed], indent, outer, true⟩ : State).unroll column = ⟨⟨right :: rest,
        p.after left⟩, start :: tokens, [none, savedKey indent tokens p keyAllowed], indent, outer, true⟩ := by
    rw [State.unroll, flow, if_pos rfl]
  rw [fetch?]
  simp only [flow, next, kept, level, bind, Option.bind_some, State.fetchAt?, dash, dot]
  cases brackets <;> simp [State.flowEnd?, State.removeKey?, State.inFlow, State.emit, Cursor.next]

/-- The end of the text. -/
theorem fetch?_end :
    fetch? ⟨⟨[], p⟩, tokens, [none], -1, [], keyAllowed⟩ =
      some ⟨⟨[], p⟩, .streamEnd :: tokens, [none], -1, [], false⟩ := rfl

/-! ### Scalars in their lines -/

/-- What follows a value in a block that is indented by `level`: the end of the text, or a line that is indented
no further. -/
inductive Tail (level : Int) : List Char → Prop where
  | done : Tail level []
  | line {column : Nat} {rest : List Char} (some : rest ≠ []) (begins : Begins rest)
      (outside : (column : Int) ≤ level) : Tail level (spaces column ++ rest)

/-- What follows is a line with an indentation, or the end of the text. -/
theorem Tail.exists_spaces {level : Int} {tail : List Char} (ends : Tail level tail) :
    ∃ column rest, tail = spaces column ++ rest ∧ Begins rest ∧ (rest ≠ [] → (column : Int) ≤ level) ∧
      (column : Int) ≤ max level 0 := by
  cases ends with
  | done => exact ⟨0, [], rfl, nofun, fun some => absurd rfl some, by omega⟩
  | line some begins outside => exact ⟨_, _, rfl, begins, fun _ => outside, by omega⟩

theorem blank_of_mem_spaces {n : Nat} : ∀ c ∈ spaces n, c = ' ' ∨ c = '\n' :=
  fun _ mem => .inl (List.eq_of_mem_replicate mem)

/-- A key that may have begun before a value, behind the indentation of its block, need not be one. -/
theorem stale_of_savedKey {q : Place} (further : indent < p.column) (line : p.line < q.line) :
    ∀ mark ∈ savedKey indent tokens p keyAllowed, mark.required = false ∧ mark.place.line < q.line := by
  cases keyAllowed with
  | false => nofun
  | true =>
    rintro _ ⟨⟩
    exact ⟨beq_eq_false_iff_ne.mpr (Int.ne_of_lt further), line⟩

/-- After a value, be it within its line or at the beginning of the next one, what comes next is fetched as at the
beginning of the line. -/
theorem fetch?_lineEnd {gap : List Char} {saved : Option KeyMark} {q : Place} {column : Nat}
    (blank : ∀ c ∈ gap, c = ' ' ∨ c = '\n') (begins : Begins rest) (there : p.over gap = q.over (spaces column))
    (stale : ∀ mark ∈ saved, mark.required = false ∧ mark.place.line < (p.over gap).line)
    (allowed : (keyAllowed || gap.any isBreak) = true) :
    fetch? ⟨⟨gap ++ rest, p⟩, tokens, [saved], indent, outer, keyAllowed⟩ =
      fetch? ⟨⟨spaces column ++ rest, q⟩, tokens, [none], indent, outer, true⟩ := by
  rw [fetch?_blanks blank begins, fetch?_blanks blank_of_mem_spaces begins, allowed, Bool.true_or, ← there]
  cases saved with
  | none => rfl
  | some mark =>
    obtain ⟨free, earlier⟩ := stale mark rfl
    exact fetch?_stale free earlier begins

/-- A text without quotes is fetched with the end of its line. -/
theorem leads_bare {c : Char} {s tail : List Char} (bare : Bare c s) (ends : Tail indent tail)
    (further : indent < p.column) :
    Leads ⟨⟨c :: s ++ '\n' :: tail, p⟩, tokens, [none], indent, outer, keyAllowed⟩
      ⟨⟨tail, p.over (c :: s ++ ['\n'])⟩, .scalar (String.ofList (c :: s)) .plain :: tokens, [none], indent, outer,
        true⟩ := by
  obtain ⟨column, rest, rfl, begins, outside, -⟩ := ends.exists_spaces
  have dash : ('\n' :: (spaces column ++ rest)).head? ≠ some '-' := by simp
  have dot : ('\n' :: (spaces column ++ rest)).head? ≠ some '.' := by simp
  have stop (some : rest ≠ []) : (column : Int) < indent + 1 := Int.lt_add_one_of_le (outside some)
  have read := (@Bare.plain?_eq c s bare (indent + 1) _ dash dot p (by omega)).trans (plain?_lineEnd stop begins _ _)
  rw [List.reverse_reverse] at read
  refine .turn (fetch?_plain bare dash dot (by omega) read) nofun ?_ (by simp; omega)
  have line : p.line < ((p.over (c :: s)).over ('\n' :: spaces column)).line := by
    rw [← Place.over_append]
    exact p.line_lt_over ⟨'\n', by simp, rfl⟩
  refine @fetch?_lineEnd _ rest _ _ _ true [] _ _ column (List.forall_mem_nil _) begins ?_
    (stale_of_savedKey further line) rfl
  simp

/-- A text between quotes is fetched with the end of its line. -/
theorem leads_quoted {double : Bool} {mark : Char} {quoted s tail : List Char}
    (quote : mark = if double then '"' else '\'')
    (read : Scan.quoted? double (quoted ++ '\n' :: tail) (p.after mark) [] Gap.empty .char =
      some ⟨String.ofList s, false, ⟨'\n' :: tail, (p.after mark).over quoted⟩⟩)
    (ends : Tail indent tail) (further : indent < p.column) :
    Leads ⟨⟨mark :: (quoted ++ '\n' :: tail), p⟩, tokens, [none], indent, outer, keyAllowed⟩
      ⟨⟨tail, p.over (mark :: (quoted ++ ['\n']))⟩,
        .scalar (String.ofList s) (if double then .doubleQuoted else .singleQuoted) :: tokens, [none], indent, outer,
        true⟩ := by
  obtain ⟨column, rest, rfl, begins, -, -⟩ := ends.exists_spaces
  refine .turn (fetch?_quoted (by omega) quote read) nofun ?_ (by simp; omega)
  have line : p.line < (((p.after mark).over quoted).over ('\n' :: spaces column)).line := by
    rw [← Place.over_append, ← Place.over_cons]
    exact p.line_lt_over ⟨'\n', by simp, rfl⟩
  refine @fetch?_lineEnd _ rest _ _ _ false ('\n' :: spaces column) _ _ column ?_ begins ?_
    (stale_of_savedKey further line) rfl
  · exact List.forall_mem_cons.mpr ⟨.inr rfl, blank_of_mem_spaces⟩
  · simp

/-- A block of lines is fetched. -/
theorem leads_literal {within : Nat} {s tail : List Char} (around : indent = within ∨ indent = -1 ∧ within = 0)
    (some : s ≠ []) (printable : ∀ c ∈ s, isPrintable c = true) (ends : Tail indent tail)
    (further : indent < p.column) :
    Leads ⟨⟨'|' :: (Page.blockHints s ++ '\n' :: (blockText (within + Page.step) s ++ tail)), p⟩, tokens, [none],
        indent, outer, keyAllowed⟩
      ⟨⟨tail, p.over ('|' :: (Page.blockHints s ++ '\n' :: blockText (within + Page.step) s))⟩,
        .scalar (String.ofList s) .literal :: tokens, [none], indent, outer, true⟩ := by
  obtain ⟨column, rest, rfl, begins, -, near⟩ := ends.exists_spaces
  have step : Page.step = 2 := rfl
  have read := block?_literalText around (by omega : column < within + Page.step) begins some printable
    (p.after '|')
  refine .turn (fetch?_literal (by omega) read) nofun ?_ (by simp; omega)
  refine @fetch?_lineEnd _ rest _ _ _ true [] none _ column (List.forall_mem_nil _) begins ?_ nofun rfl
  simp

/-- A pair of brackets is fetched with the end of its line. -/
theorem leads_brackets {left right : Char} {start stop : Token} {tail : List Char}
    (brackets : Brackets left right start stop) (ends : Tail indent tail) (further : indent < p.column) :
    Leads ⟨⟨left :: right :: '\n' :: tail, p⟩, tokens, [none], indent, outer, keyAllowed⟩
      ⟨⟨tail, p.over [left, right, '\n']⟩, stop :: start :: tokens, [none], indent, outer, true⟩ := by
  obtain ⟨column, rest, rfl, begins, -, -⟩ := ends.exists_spaces
  have first : start ≠ .streamEnd := by cases brackets <;> nofun
  have last : stop ≠ .streamEnd := by cases brackets <;> nofun
  refine .trans (.turn (fetch?_left brackets (by omega)) (by simpa using first) rfl (by simp)) ?_
  have shorter : (spaces column ++ rest).length < (right :: '\n' :: (spaces column ++ rest)).length := by
    simp only [List.length_cons]
    omega
  refine .turn (fetch?_right brackets) (by simpa using last) ?_ shorter
  have line : p.line < (((p.after left).after right).over ('\n' :: spaces column)).line :=
    @Place.line_lt_over p (left :: right :: '\n' :: spaces column) ⟨'\n', by simp, rfl⟩
  refine @fetch?_lineEnd _ rest _ _ _ false ('\n' :: spaces column) _ _ column ?_ begins rfl
    (stale_of_savedKey further line) rfl
  exact List.forall_mem_cons.mpr ⟨.inr rfl, blank_of_mem_spaces⟩

end VirtLifecycle.Yaml.Scan
