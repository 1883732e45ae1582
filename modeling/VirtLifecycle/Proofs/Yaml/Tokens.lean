/-
Module: VirtLifecycle.Proofs.Yaml.Tokens
Purpose: The tokens of a value, and that they are what its text is cut into. A value leads from where it begins
  to the beginning of the line after it, with its tokens and no open blocks of its own; so values that are
  written one after the other are cut one after the other.
Main exports: Yaml.valueTokens, Yaml.Scan.IsCut, Yaml.Scan.leads_value, Yaml.stream?_print
-/
import VirtLifecycle.Proofs.Yaml.Printable

namespace VirtLifecycle.Yaml

mutual

/-- The tokens of a value. A list under a short key is `loose`: it has no marks of a block of its own. -/
def valueTokens (value : Json) (loose : Bool) : List Token :=
  match value with
  | .text s => [.scalar s (Presentation.choose false s.toList).style]
  | .array [] => [.flowSequenceStart, .flowSequenceEnd]
  | .object [] => [.flowMappingStart, .flowMappingEnd]
  | .array (item :: items) =>
    let entries := .blockEntry :: (valueTokens item false ++ itemsTokens items)
    if loose then entries else .blockSequenceStart :: (entries ++ [.blockEnd])
  | .object ((key, member) :: members) =>
    .blockMappingStart :: .key :: keyToken key :: .value ::
      (valueTokens member (Page.isSimpleKey key) ++ membersTokens members ++ [.blockEnd])
  | .null => [.scalar (String.ofList (wordText .null)) .plain]
  | .bool b => [.scalar (String.ofList (wordText (.bool b))) .plain]
  | .number n => [.scalar (String.ofList (wordText (.number n))) .plain]

/-- The tokens of the later items of a list. -/
def itemsTokens (items : List Json) : List Token :=
  match items with
  | [] => []
  | item :: items => .blockEntry :: (valueTokens item false ++ itemsTokens items)

/-- The tokens of the later members of a mapping. -/
def membersTokens (members : List (String × Json)) : List Token :=
  match members with
  | [] => []
  | (key, member) :: members =>
    .key :: keyToken key :: .value :: (valueTokens member (Page.isSimpleKey key) ++ membersTokens members)

end

namespace Spot

/-- The indentation of the block around the value, as it is counted in a text. -/
def level : Spot → Int
  | top => -1
  | mark own | colon own => own

/-- Whether a list that begins here is loose. -/
def isLoose : Spot → Bool
  | colon _ => true
  | top | mark _ => false

/-- A text is at a spot. A key may begin there, but for the line of a short key. -/
inductive At : Spot → Place → (keyAllowed : Bool) → Prop where
  | top {p : Place} (there : p.column = 0) : At top p true
  | mark {own : Nat} {p : Place} (there : p.column = own + 1) : At (mark own) p true
  | colon {own : Nat} {p : Place} (behind : own < p.column) (keyAllowed : Bool) : At (colon own) p keyAllowed

end Spot

namespace Scan

variable {p : Place} {rest tail : List Char} {tokens : List Token} {indent : Int} {outer : List Int}
  {keyAllowed : Bool} {spot : Spot}

/-! ### What stands before and behind values -/

/-- What stands before a scalar is skipped. -/
theorem leads_gap (there : spot.At p keyAllowed) (begins : Begins rest) :
    Leads ⟨⟨spot.gap ++ rest, p⟩, tokens, [none], indent, outer, keyAllowed⟩
        ⟨⟨rest, p.over spot.gap⟩, tokens, [none], indent, outer, keyAllowed⟩ ∧
      spot.level < (p.over spot.gap).column := by
  have blank : ∀ c ∈ spot.gap, c = ' ' ∨ c = '\n' := by cases spot <;> simp [Spot.gap]
  have line : spot.gap.any isBreak = false := by cases spot <;> rfl
  have skipped := @fetch?_blanks p rest tokens none indent outer keyAllowed spot.gap blank begins
  rw [line, Bool.or_false] at skipped
  refine ⟨.of_same skipped (by simp), ?_⟩
  have space : isBreak ' ' = false := rfl
  cases there with
  | top => simp [Spot.gap, Spot.level]; omega
  | mark there | colon behind => simp [Spot.gap, Spot.level, Place.after, space]; omega

/-- What stands before a collection leads to its column, where a key may begin. -/
theorem leads_lead (there : spot.At p keyAllowed) {own : Nat}
    (further : own = spot.listIndent ∨ own = spot.mapIndent) (begins : Begins rest) :
    Leads ⟨⟨spot.lead own ++ rest, p⟩, tokens, [none], indent, outer, keyAllowed⟩
        ⟨⟨rest, p.over (spot.lead own)⟩, tokens, [none], indent, outer, true⟩ ∧
      (p.over (spot.lead own)).column = own := by
  have blank : ∀ c ∈ spot.lead own, c = ' ' ∨ c = '\n' := by
    cases spot with
    | top | mark => simp [Spot.lead]
    | colon => exact List.forall_mem_cons.mpr ⟨.inr rfl, blank_of_mem_spaces⟩
  have skipped := @fetch?_blanks p rest tokens none indent outer keyAllowed (spot.lead own) blank begins
  have allowed : (keyAllowed || (spot.lead own).any isBreak) = true := by
    cases there with
    | top | mark => rfl
    | colon => exact Bool.or_true keyAllowed
  rw [allowed] at skipped
  refine ⟨.of_same skipped (by simp), ?_⟩
  have space : isBreak ' ' = false := rfl
  cases there with
  | top there =>
    rcases further with rfl | rfl <;> exact there
  | mark there =>
    rcases further with rfl | rfl <;>
      simp [Spot.lead, Spot.listIndent, Spot.mapIndent, Page.step, Place.after, space, there]
  | colon behind =>
    rw [Spot.lead, Place.over_cons, Place.column_over_spaces]
    exact Nat.zero_add own

/-- What is outside of a block is outside of the blocks within it. -/
theorem Tail.mono {level level' : Int} (le : level ≤ level') (ends : Tail level tail) : Tail level' tail := by
  cases ends with
  | done => exact .done
  | line some begins outside => exact .line some begins (Int.le_trans outside le)

/-- A key begins with something that is neither a blank nor a comment. -/
theorem begins_keyText (own : Nat) (key : String) (rest : List Char) : Begins (keyText own key ++ rest) := by
  unfold keyText
  split
  · rw [List.append_assoc]
    exact begins_scalarText _ _ _ _
  · rintro _ ⟨⟩
    decide

theorem begins_dash (rest : List Char) : Begins ('-' :: rest) := by
  rintro _ ⟨⟩
  decide

theorem keyText_ne_nil (own : Nat) (key : String) : keyText own key ≠ [] := by
  unfold keyText
  split
  · exact List.append_ne_nil_of_right_ne_nil _ (List.cons_ne_nil _ _)
  · exact List.cons_ne_nil _ _

/-- After an item come the later ones, in the column of their list. -/
theorem tail_itemsText {own : Nat} (items : List Json) (ends : Tail own tail) :
    Tail own (itemsText own items ++ tail) := by
  cases items with
  | nil => exact ends
  | cons item items =>
    rw [itemsText, List.append_assoc]
    exact .line (List.cons_ne_nil _ _) (begins_dash _) (Int.le_refl _)

/-- After a member come the later ones, in the column of their mapping. -/
theorem tail_membersText {own : Nat} (members : List (String × Json)) (ends : Tail own tail) :
    Tail own (membersText own members ++ tail) := by
  cases members with
  | nil => exact ends
  | cons member members =>
    rw [membersText, List.append_assoc, List.append_assoc, List.append_assoc]
    exact .line (List.append_ne_nil_of_left_ne_nil (keyText_ne_nil _ _) _) (begins_keyText _ _ _) (Int.le_refl _)

/-- Behind a mark or a colon a value begins with a blank or a break. -/
theorem isBlankEnd_valueText (value : Json) (inner : spot ≠ .top) (rest : List Char) :
    isBlankEnd (valueText value spot ++ rest) = true := by
  cases spot with
  | top => exact absurd rfl inner
  | mark | colon =>
    cases value with
    | null | bool | number | text => rw [valueText]; rfl
    | array items => cases items <;> rw [valueText] <;> rfl
    | object members => cases members <;> rw [valueText] <;> rfl

/-- The mark of an item is no marker between documents. -/
theorem atMarker_of_blank (blank : isBlankEnd rest = true) (p : Place) :
    Cursor.atMarker '-' ('-' :: rest) p = false := by
  cases rest with
  | nil => simp [Cursor.atMarker]
  | cons c rest =>
    have other : c ≠ '-' := by
      rintro rfl
      cases blank
    cases rest <;> simp [Cursor.atMarker, other]

/-- A block ends where a line begins that is not indented as far. -/
theorem leads_pop {own : Nat} (deeper : indent < own) (start : p.column = 0) (ends : Tail indent tail) :
    Leads ⟨⟨tail, p⟩, tokens, [none], own, indent :: outer, true⟩
      ⟨⟨tail, p⟩, .blockEnd :: tokens, [none], indent, outer, true⟩ := by
  obtain ⟨column, rest, rfl, begins, outside, -⟩ := ends.exists_spaces
  refine .of_same ?_ (Nat.le_refl _)
  rw [fetch?_blanks blank_of_mem_spaces begins, fetch?_blanks blank_of_mem_spaces begins]
  refine fetch?_pop ?_ begins
  rw [Place.column_over_spaces, start, Nat.zero_add]
  by_cases done : rest = []
  · exact .inl done
  · have := outside done
    exact .inr (by omega)

/-! ### Whole values -/

/-- A line feed leads to the beginning of a line, whatever stands before it. -/
theorem column_over_lineFeed (cs : List Char) (p : Place) : (p.over (cs ++ ['\n'])).column = 0 := by
  rw [Place.over_append]
  rfl

mutual

/-- What is written for a value comes to the beginning of the line after it. -/
theorem column_over_valueText : (value : Json) → (spot : Spot) → (p : Place) →
    (p.over (valueText value spot)).column = 0
  | .null, spot, p | .bool _, spot, p | .number _, spot, p => by
    rw [valueText, ← List.append_assoc]
    exact column_over_lineFeed _ p
  | .text s, spot, p => by
    rw [valueText, Place.over_append]
    exact column_over_scalarLine _ _ _ _
  | .array [], spot, p => by
    rw [valueText, Place.over_append]
    rfl
  | .object [], spot, p => by
    rw [valueText, Place.over_append]
    rfl
  | .array (item :: items), spot, p => by
    rw [valueText, Place.over_append, Place.over_append, Place.over_cons]
    exact column_over_itemsText items _ (column_over_valueText item _ _)
  | .object ((key, member) :: members), spot, p => by
    rw [valueText, Place.over_append, Place.over_append, Place.over_append]
    exact column_over_membersText members _ (column_over_valueText member _ _)

theorem column_over_itemsText {own : Nat} : (items : List Json) → (p : Place) → p.column = 0 →
    (p.over (itemsText own items)).column = 0
  | [], _, start => start
  | item :: items, p, _ => by
    rw [itemsText, Place.over_append, Place.over_append, Place.over_cons]
    exact column_over_itemsText items _ (column_over_valueText item _ _)

theorem column_over_membersText {own : Nat} : (members : List (String × Json)) → (p : Place) → p.column = 0 →
    (p.over (membersText own members)).column = 0
  | [], _, start => start
  | (key, member) :: members, p, _ => by
    rw [membersText, Place.over_append, Place.over_append, Place.over_append]
    exact column_over_membersText members _ (column_over_valueText member _ _)

end

/-- A word is fetched behind what stands before it, with the end of its line. -/
theorem leads_word (there : spot.At p keyAllowed) (ends : Tail spot.level tail) {word : List Char}
    (bare : ∃ c s, word = c :: s ∧ Bare c s) :
    Leads ⟨⟨spot.gap ++ (word ++ ['\n']) ++ tail, p⟩, tokens, [none], spot.level, outer, keyAllowed⟩
      ⟨⟨tail, p.over (spot.gap ++ (word ++ ['\n']))⟩, .scalar (String.ofList word) .plain :: tokens, [none],
        spot.level, outer, true⟩ := by
  obtain ⟨c, s, rfl, bare⟩ := bare
  have begins : Begins (c :: s ++ '\n' :: tail) := by
    rintro _ ⟨⟩
    refine ⟨bare.isWhite_eq_false, ?_, ?_⟩
    · rintro rfl
      exact absurd bare.first (by decide)
    · rintro rfl
      exact absurd (bare.ink _ List.mem_cons_self) (by decide)
  obtain ⟨skipped, further⟩ := @leads_gap p _ tokens spot.level outer keyAllowed spot there begins
  rw [Place.over_append, List.append_assoc, List.append_assoc]
  exact skipped.trans (leads_bare bare ends further)

/-- An empty collection is fetched behind what stands before it, with the end of its line. -/
theorem leads_empty (there : spot.At p keyAllowed) (ends : Tail spot.level tail) {left right : Char}
    {start stop : Token} (brackets : Brackets left right start stop) :
    Leads ⟨⟨spot.gap ++ [left, right, '\n'] ++ tail, p⟩, tokens, [none], spot.level, outer, keyAllowed⟩
      ⟨⟨tail, p.over (spot.gap ++ [left, right, '\n'])⟩, stop :: start :: tokens, [none], spot.level, outer,
        true⟩ := by
  have begins : Begins (left :: right :: '\n' :: tail) := by
    rintro _ ⟨⟩
    cases brackets <;> decide
  obtain ⟨skipped, further⟩ := @leads_gap p _ tokens spot.level outer keyAllowed spot there begins
  rw [Place.over_append, List.append_assoc]
  exact skipped.trans (leads_brackets brackets ends further)

/-- Where the value under a key begins. -/
theorem at_keySpot {own : Nat} {key : String} (there : p.column = own) :
    (keySpot own key).At (p.over (keyText own key)) (!Page.isSimpleKey key) := by
  unfold keySpot keyText
  cases short : Page.isSimpleKey key with
  | true =>
    obtain ⟨line, -⟩ := isShortLine_of_isSimpleKey short own
    refine .colon ?_ _
    rw [if_pos rfl, Place.over_append, p.over_of_line line, there]
    exact Nat.lt_succ_of_le (Nat.le_add_right _ _)
  | false =>
    refine .mark ?_
    have line := column_over_scalarLine false own key.toList (p.over ['?', ' '])
    have place : p.over ('?' :: ' ' :: (scalarLine false own key.toList ++ spaces own ++ [':'])) =
        (((p.over ['?', ' ']).over (scalarLine false own key.toList)).over (spaces own)).after ':' := by
      simp
    rw [if_neg Bool.false_ne_true, place]
    have column : (((p.over ['?', ' ']).over (scalarLine false own key.toList)).over (spaces own)).column = own := by
      rw [Place.column_over_spaces, line, Nat.zero_add]
    exact congrArg Nat.succ column

/-- How a list opens at a spot: a loose one does not, any other one opens a block of its own. -/
theorem opens_list (spot : Spot) (outer : List Int) :
    Opens .blockSequenceStart spot.listIndent spot.level outer (if spot.isLoose then [] else [.blockSequenceStart])
      (if spot.isLoose then outer else spot.level :: outer) := by
  cases spot with
  | top => exact .first outer (by decide)
  | mark own => exact .first outer (Int.ofNat_lt.mpr (Nat.lt_add_of_pos_right (by decide)))
  | colon own => exact .later outer

/-- A list that is not loose is indented further than the block around it. -/
theorem level_lt_listIndent (block : spot.isLoose = false) : spot.level < spot.listIndent := by
  cases spot with
  | top => decide
  | mark own => exact Int.ofNat_lt.mpr (Nat.lt_add_of_pos_right (by decide))
  | colon own => cases block

/-- A mapping always is. -/
theorem level_lt_mapIndent (spot : Spot) : spot.level < spot.mapIndent := by
  cases spot with
  | top => decide
  | mark own | colon own => exact Int.ofNat_lt.mpr (Nat.lt_add_of_pos_right (by decide))

/-- Texts are indented from the block around them, or from the margin of the page. -/
theorem within_level (spot : Spot) : spot.level = spot.within ∨ spot.level = -1 ∧ spot.within = 0 := by
  cases spot with
  | top => exact .inr ⟨rfl, rfl⟩
  | mark own | colon own => exact .inl rfl

/-- The mark of an item leads to the item. -/
theorem leads_dash {own : Nat} {opened : List Token} {outer' : List Int}
    (opens : Opens .blockSequenceStart own indent outer opened outer') (there : p.column = own) (item : Json)
    (rest : List Char) :
    Leads ⟨⟨'-' :: (valueText item (.mark own) ++ rest), p⟩, tokens, [none], indent, outer, true⟩
        ⟨⟨valueText item (.mark own) ++ rest, p.after '-'⟩, .blockEntry :: (opened ++ tokens), [none], own, outer',
          true⟩ ∧
      (Spot.mark own).At (p.after '-') true := by
  subst there
  have blank := @isBlankEnd_valueText (.mark p.column) item nofun rest
  exact ⟨.turn (fetch?_item opens blank (atMarker_of_blank blank p)) nofun rfl (by simp), .mark rfl⟩

theorem level_keySpot (own : Nat) (key : String) : (keySpot own key).level = own := by
  unfold keySpot
  split <;> rfl

/-- A list is loose under a short key only; behind the colon of a long one it is set off like an item. -/
theorem isLoose_keySpot (own : Nat) (key : String) : (keySpot own key).isLoose = Page.isSimpleKey key := by
  unfold keySpot
  cases Page.isSimpleKey key <;> rfl

/-- A key leads to its value. -/
theorem leads_member {own : Nat} {opened : List Token} {outer' : List Int}
    (opens : Opens .blockMappingStart own indent outer opened outer') (there : p.column = own) (key : String)
    (member : Json) (rest : List Char) :
    Leads ⟨⟨keyText own key ++ (valueText member (keySpot own key) ++ rest), p⟩, tokens, [none], indent, outer, true⟩
        ⟨⟨valueText member (keySpot own key) ++ rest, p.over (keyText own key)⟩,
          .value :: keyToken key :: .key :: (opened ++ tokens), [none], (keySpot own key).level, outer',
          !Page.isSimpleKey key⟩ ∧
      (keySpot own key).At (p.over (keyText own key)) (!Page.isSimpleKey key) := by
  have inner : keySpot own key ≠ .top := by
    unfold keySpot
    split <;> nofun
  rw [level_keySpot]
  exact ⟨leads_keyText opens there (isBlankEnd_valueText member inner rest), at_keySpot there⟩

/-- The indentation of a line leads to its column. -/
theorem leads_indent {own : Nat} (start : p.column = 0) (begins : Begins rest) :
    Leads ⟨⟨spaces own ++ rest, p⟩, tokens, [none], indent, outer, true⟩
        ⟨⟨rest, p.over (spaces own)⟩, tokens, [none], indent, outer, true⟩ ∧
      (p.over (spaces own)).column = own := by
  refine ⟨.of_same (fetch?_blanks blank_of_mem_spaces begins) (by simp), ?_⟩
  rw [Place.column_over_spaces, start, Nat.zero_add]

/-- A value is cut: from any spot it leads to the beginning of the line after it, with its tokens. -/
def IsCut (value : Json) : Prop :=
  ∀ {spot : Spot} {p : Place} {keyAllowed : Bool} {tail : List Char} {tokens : List Token} {outer : List Int},
    spot.At p keyAllowed → Tail spot.level tail →
    Leads ⟨⟨valueText value spot ++ tail, p⟩, tokens, [none], spot.level, outer, keyAllowed⟩
      ⟨⟨tail, p.over (valueText value spot)⟩, (valueTokens value spot.isLoose).reverse ++ tokens, [none], spot.level,
        outer, true⟩

/-- The later items of a list in a column are cut. -/
def AreCut (own : Nat) (items : List Json) : Prop :=
  ∀ {p : Place} {tail : List Char} {tokens : List Token} {outer : List Int}, p.column = 0 → Tail own tail →
    Leads ⟨⟨itemsText own items ++ tail, p⟩, tokens, [none], own, outer, true⟩
      ⟨⟨tail, p.over (itemsText own items)⟩, (itemsTokens items).reverse ++ tokens, [none], own, outer, true⟩

/-- The later members of a mapping in a column are cut. -/
def MembersAreCut (own : Nat) (members : List (String × Json)) : Prop :=
  ∀ {p : Place} {tail : List Char} {tokens : List Token} {outer : List Int}, p.column = 0 → Tail own tail →
    Leads ⟨⟨membersText own members ++ tail, p⟩, tokens, [none], own, outer, true⟩
      ⟨⟨tail, p.over (membersText own members)⟩, (membersTokens members).reverse ++ tokens, [none], own, outer, true⟩

section Entries

variable {own : Nat} {opened : List Token} {outer' : List Int}

/-- An item that opens a list or goes on with it leads through itself and the later ones. -/
theorem leads_entry {item : Json} {items : List Json} (first : IsCut item) (later : AreCut own items)
    (opens : Opens .blockSequenceStart own indent outer opened outer') (there : p.column = own)
    (ends : Tail own tail) :
    Leads ⟨⟨'-' :: (valueText item (.mark own) ++ (itemsText own items ++ tail)), p⟩, tokens, [none], indent, outer,
        true⟩
      ⟨⟨tail, ((p.after '-').over (valueText item (.mark own))).over (itemsText own items)⟩,
        (itemsTokens (item :: items)).reverse ++ (opened ++ tokens), [none], own, outer', true⟩ := by
  obtain ⟨dash, standing⟩ := @leads_dash p tokens indent outer own opened outer' opens there item
    (itemsText own items ++ tail)
  have start := column_over_valueText item (.mark own) (p.after '-')
  have whole := (dash.trans (first standing (tail_itemsText items ends))).trans (later start ends)
  rw [itemsTokens]
  simpa [Spot.isLoose] using whole

/-- A member that opens a mapping or goes on with it leads through itself and the later ones. -/
theorem leads_memberEntry {key : String} {member : Json} {members : List (String × Json)} (first : IsCut member)
    (later : MembersAreCut own members) (opens : Opens .blockMappingStart own indent outer opened outer')
    (there : p.column = own) (ends : Tail own tail) :
    Leads ⟨⟨keyText own key ++ (valueText member (keySpot own key) ++ (membersText own members ++ tail)), p⟩, tokens,
        [none], indent, outer, true⟩
      ⟨⟨tail, ((p.over (keyText own key)).over (valueText member (keySpot own key))).over (membersText own members)⟩,
        (membersTokens ((key, member) :: members)).reverse ++ (opened ++ tokens), [none], own, outer', true⟩ := by
  obtain ⟨named, standing⟩ := @leads_member p tokens indent outer own opened outer' opens there key member
    (membersText own members ++ tail)
  have inner : Tail (keySpot own key).level (membersText own members ++ tail) := by
    rw [level_keySpot]
    exact tail_membersText members ends
  have start := column_over_valueText member (keySpot own key) (p.over (keyText own key))
  have one := named.trans (first standing inner)
  rw [isLoose_keySpot, level_keySpot] at one
  have whole := one.trans (later start ends)
  rw [membersTokens]
  simpa using whole

end Entries

mutual

/-- A value leads to the beginning of the line after it. The induction is on the value; an entry of a collection
is followed by the later ones, and the last one by what follows the collection. -/
theorem leads_value : (value : Json) → Legible value → IsCut value
  | .null, _, _, _, _, _, _, _, there, ends => by
    rw [valueText, valueTokens]
    exact leads_word there ends ⟨'n', _, rfl, .of_features (by decide)⟩
  | .bool true, _, _, _, _, _, _, _, there, ends => by
    rw [valueText, valueTokens]
    exact leads_word there ends ⟨'t', _, rfl, .of_features (by decide)⟩
  | .bool false, _, _, _, _, _, _, _, there, ends => by
    rw [valueText, valueTokens]
    exact leads_word there ends ⟨'f', _, rfl, .of_features (by decide)⟩
  | .number n, legible, _, _, _, _, _, _, there, ends => by
    rw [valueText, valueTokens]
    exact leads_word there ends (ofScalar?_number legible).1
  | .text s, _, spot, p, keyAllowed, tail, tokens, outer, there, ends => by
    rw [valueText, valueTokens, Place.over_append, List.append_assoc]
    have begins : Begins (scalarLine false spot.within s.toList ++ tail) := by
      rw [scalarLine, List.append_assoc]
      exact begins_scalarText _ _ _ _
    obtain ⟨skipped, further⟩ := @leads_gap p _ tokens spot.level outer keyAllowed spot there begins
    have line := @leads_scalarLine (p.over spot.gap) tail tokens spot.level outer keyAllowed spot.within s.toList
      (within_level spot) ends further
    rw [String.ofList_toList] at line
    exact skipped.trans line
  | .array [], _, _, _, _, _, _, _, there, ends => by
    rw [valueText, valueTokens]
    exact leads_empty there ends .list
  | .object [], _, _, _, _, _, _, _, there, ends => by
    rw [valueText, valueTokens]
    exact leads_empty there ends .mapping
  | .array (item :: items), legible, spot, p, keyAllowed, tail, tokens, outer, there, ends => by
    have opens := opens_list spot outer
    obtain ⟨skipped, column⟩ := @leads_lead p
      ('-' :: (valueText item (.mark spot.listIndent) ++ (itemsText spot.listIndent items ++ tail))) tokens spot.level
      outer keyAllowed spot there _ (.inl rfl) (begins_dash _)
    have entries := @leads_entry _ tail tokens spot.level outer _ _ _ item items (leads_value item legible.1)
      (leads_items items legible.2) opens column (ends.mono opens.le)
    have whole := skipped.trans entries
    rw [itemsTokens] at whole
    rw [valueText, valueTokens]
    cases block : spot.isLoose with
    | true =>
      have level : (spot.listIndent : Int) = spot.level := by
        cases spot with
        | top | mark => cases block
        | colon => rfl
      rw [block, level] at whole
      simpa using whole
    | false =>
      have start := column_over_valueText item (.mark spot.listIndent)
        ((p.over (spot.lead spot.listIndent)).after '-')
      rw [block] at whole
      have closed := whole.trans
        (leads_pop (level_lt_listIndent block) (column_over_itemsText items _ start) ends)
      simpa using closed
  | .object ((key, member) :: members), legible, spot, p, keyAllowed, tail, tokens, outer, there, ends => by
    have deeper := level_lt_mapIndent spot
    obtain ⟨skipped, column⟩ := @leads_lead p
      (keyText spot.mapIndent key ++ (valueText member (keySpot spot.mapIndent key) ++
        (membersText spot.mapIndent members ++ tail))) tokens spot.level outer keyAllowed spot there _ (.inr rfl)
      (begins_keyText _ _ _)
    have entries := @leads_memberEntry _ tail tokens spot.level outer _ _ _ key member members
      (leads_value member legible.1) (leads_members members legible.2) (.first outer deeper) column
      (ends.mono (Int.le_of_lt deeper))
    have start := column_over_valueText member (keySpot spot.mapIndent key)
      ((p.over (spot.lead spot.mapIndent)).over (keyText spot.mapIndent key))
    have closed := (skipped.trans entries).trans
      (leads_pop deeper (column_over_membersText members _ start) ends)
    rw [membersTokens] at closed
    rw [valueText, valueTokens]
    simpa using closed

/-- The later items of a list lead to the beginning of the line after them, with their tokens. -/
theorem leads_items {own : Nat} : (items : List Json) → ItemsLegible items → AreCut own items
  | [], _, _, _, _, _, _, _ => .refl _
  | item :: items, legible, p, tail, tokens, outer, start, ends => by
    obtain ⟨skipped, column⟩ := @leads_indent p ('-' :: (valueText item (.mark own) ++ (itemsText own items ++ tail)))
      tokens own outer own start (begins_dash _)
    have entries := @leads_entry _ tail tokens own outer own _ _ item items (leads_value item legible.1)
      (leads_items items legible.2) (.later outer) column ends
    rw [itemsText]
    simpa using skipped.trans entries

/-- The later members of a mapping do, too. -/
theorem leads_members {own : Nat} : (members : List (String × Json)) → MembersLegible members →
    MembersAreCut own members
  | [], _, _, _, _, _, _, _ => .refl _
  | (key, member) :: members, legible, p, tail, tokens, outer, start, ends => by
    obtain ⟨skipped, column⟩ := @leads_indent p
      (keyText own key ++ (valueText member (keySpot own key) ++ (membersText own members ++ tail))) tokens own outer
      own start (begins_keyText _ _ _)
    have entries := @leads_memberEntry _ tail tokens own outer own _ _ key member members
      (leads_value member legible.1) (leads_members members legible.2) (.later outer) column ends
    rw [membersText]
    simpa using skipped.trans entries

end

end Scan

/-! ### The printed text -/

/-- **The printed text of a value is cut into the tokens of the value.** -/
theorem stream?_print {value : Json} (legible : Legible value) :
    Token.stream? (print value) = some (valueTokens value false ++ [.streamEnd]) := by
  have cut := ofText?_of_printable (printable_valueText value .top legible)
  obtain ⟨k, few, fetched⟩ := @Scan.leads_value value legible .top ⟨0, 0, 0⟩ true [] [] [] (.top rfl) .done
  rw [List.append_nil] at few fetched
  rw [Token.stream?, print_eq, cut]
  simp only [bind, Option.bind_some]
  have turns : (valueText value .top).length + 1 = (valueText value .top).length - k + 1 + k := by
    have fits : k ≤ (valueText value .top).length := by simpa using few
    omega
  rw [turns]
  refine (fetched _).trans ?_
  rw [Scan.fetchAll?, Spot.level, Scan.fetch?_end]
  simp [Spot.isLoose]

end VirtLifecycle.Yaml
