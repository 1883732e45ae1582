/-
Module: VirtLifecycle.Proofs.Yaml.Parsing
Purpose: Printed texts that are read. The tokens of a value are put together to the value as it is written,
  whatever tokens follow; there are no anchors and no tags in it, so each scalar stands for what was written,
  and the whole for the value.
Main exports: Yaml.valueTree, Yaml.node?_valueTokens, Yaml.ofTree?_valueTree, Yaml.read?_print
-/
import VirtLifecycle.Proofs.Json.RoundTrip
import VirtLifecycle.Proofs.Yaml.OfJson
import VirtLifecycle.Proofs.Yaml.Tokens

namespace VirtLifecycle.Yaml

/-! ### The value as it is written -/

/-- A scalar without anchor and tag. -/
def bareTree (text : String) (isPlain : Bool) : Tree := .scalar ⟨none, none⟩ text isPlain

/-- A key as it is written. -/
def keyTree (key : String) : Tree :=
  bareTree key ((Presentation.choose (Page.isSimpleKey key) key.toList).style == .plain)

mutual

/-- A value as it is written. -/
def valueTree : Json → Tree
  | .text s => bareTree s ((Presentation.choose false s.toList).style == .plain)
  | .array items => .list ⟨none, none⟩ (itemsTrees items)
  | .object members => .mapping ⟨none, none⟩ (membersTrees members)
  | .null => bareTree (String.ofList (wordText .null)) true
  | .bool b => bareTree (String.ofList (wordText (.bool b))) true
  | .number n => bareTree (String.ofList (wordText (.number n))) true

def itemsTrees : List Json → List Tree
  | [] => []
  | item :: items => valueTree item :: itemsTrees items

def membersTrees : List (String × Json) → List (Tree × Tree)
  | [] => []
  | (key, member) :: members => (keyTree key, valueTree member) :: membersTrees members

end

/-! ### Tokens that are put together -/

section Tokens

open Tree

variable (handles : Handles)

/-- What a value begins with: a scalar, the start of a collection or, for a loose list, its first item. -/
inductive Begin (loose : Bool) : Token → Prop where
  | scalar (text : String) (style : Style) : Begin loose (.scalar text style)
  | flowSequenceStart : Begin loose .flowSequenceStart
  | flowMappingStart : Begin loose .flowMappingStart
  | blockSequenceStart : Begin loose .blockSequenceStart
  | blockMappingStart : Begin loose .blockMappingStart
  | blockEntry (is : loose = true) : Begin loose .blockEntry

/-- A value has a token at least, and its first one is what values begin with. -/
theorem exists_valueTokens (value : Json) (loose : Bool) :
    ∃ t more, valueTokens value loose = t :: more ∧ Begin loose t := by
  cases value with
  | null | bool | number | text => exact ⟨_, _, rfl, .scalar _ _⟩
  | array items =>
    cases items with
    | nil => exact ⟨_, _, rfl, .flowSequenceStart⟩
    | cons item items =>
      rw [valueTokens]
      cases loose with
      | true => exact ⟨_, _, rfl, .blockEntry rfl⟩
      | false => exact ⟨_, _, rfl, .blockSequenceStart⟩
  | object members =>
    cases members with
    | nil => exact ⟨_, _, rfl, .flowMappingStart⟩
    | cons member members =>
      obtain ⟨key, member⟩ := member
      exact ⟨_, _, rfl, .blockMappingStart⟩

/-- Where a value may be left out, it is read if it is there. -/
theorem nodeOr?_valueTokens {fuel : Nat} {block indentless : Bool} {ends rest : List Token} (value : Json)
    (loose : Bool) (marks : ∀ t ∈ ends, ¬ Begin loose t) :
    nodeOr? handles (fuel + 1) block indentless ends (valueTokens value loose ++ rest) =
      node? handles fuel block indentless (valueTokens value loose ++ rest) := by
  obtain ⟨t, more, tokens, begins⟩ := exists_valueTokens value loose
  have other : nextIn (valueTokens value loose ++ rest) ends = false := by
    rw [tokens, List.cons_append, nextIn, decide_eq_false_iff_not]
    exact fun mem => marks t mem begins
  rw [nodeOr?, other, if_neg Bool.false_ne_true]

/-- Within a list an item or the end of the list is no value. -/
theorem not_begin_of_list : ∀ t ∈ [Token.blockEntry, .key, .value, .blockEnd], ¬ Begin false t := by
  intro t mem begins
  cases begins with
  | blockEntry is => cases is
  | scalar | flowSequenceStart | flowMappingStart | blockSequenceStart | blockMappingStart => simp at mem

/-- Within a mapping the mark of a key or a value or the end of the mapping is no value. -/
theorem not_begin_of_mapping (loose : Bool) : ∀ t ∈ [Token.key, .value, .blockEnd], ¬ Begin loose t := by
  intro t mem begins
  cases begins <;> simp at mem

/-- A scalar is read as it is written. -/
theorem node?_scalar {fuel : Nat} {block indentless : Bool} {rest : List Token} (text : String) (style : Style) :
    node? handles (fuel + 1) block indentless (.scalar text style :: rest) =
      some (bareTree text (style == .plain), rest) := by
  simp [node?, properties?, ofScalar, bareTree]

mutual

/-- The tokens of a value are put together to the value, and what follows is left. The fuel is enough by the
number of tokens. After a loose list no item may follow, which would be one more of its own. -/
theorem node?_valueTokens : (value : Json) → {loose indentless : Bool} → {fuel : Nat} → {rest : List Token} →
    3 * (valueTokens value loose).length + 2 ≤ fuel → (loose = true → indentless = true) →
    (loose = true → rest.head? ≠ some .blockEntry) →
    node? handles fuel true indentless (valueTokens value loose ++ rest) = some (valueTree value, rest)
  | .null, _, _, fuel + 1, _, _, _, _ | .bool _, _, _, fuel + 1, _, _, _, _ | .number _, _, _, fuel + 1, _, _, _, _
  | .text _, _, _, fuel + 1, _, _, _, _ => node?_scalar handles _ _
  | .array [], _, _, fuel + 2, _, _, _, _ => by
    simp [valueTokens, node?, properties?, flowItems?, valueTree, itemsTrees]
  | .object [], _, _, fuel + 2, _, _, _, _ => by
    simp [valueTokens, node?, properties?, flowEntries?, valueTree, membersTrees]
  | .array (item :: items), true, indentless, fuel + 1, rest, enough, loose, ends => by
    obtain rfl := loose rfl
    have fits : 3 * (itemsTokens (item :: items)).length + 1 ≤ fuel := by
      simp [valueTokens, itemsTokens] at enough ⊢
      omega
    have entries := @looseItems?_itemsTokens (item :: items) fuel rest fits (ends rfl)
    rw [itemsTokens, List.cons_append, List.append_assoc] at entries
    simp [valueTokens, node?, properties?, entries, valueTree]
  | .array (item :: items), false, indentless, fuel + 1, rest, enough, _, _ => by
    have fits : 3 * (itemsTokens (item :: items)).length + 1 ≤ fuel := by
      simp [valueTokens, itemsTokens] at enough ⊢
      omega
    have entries := @blockItems?_itemsTokens (item :: items) fuel rest fits
    rw [itemsTokens, List.cons_append, List.append_assoc] at entries
    simp [valueTokens, node?, properties?, entries, valueTree]
  | .object ((key, member) :: members), loose, indentless, fuel + 1, rest, enough, _, _ => by
    have fits : 3 * (membersTokens ((key, member) :: members)).length + 1 ≤ fuel := by
      simp [valueTokens, membersTokens] at enough ⊢
      omega
    have entries := @blockEntries?_membersTokens ((key, member) :: members) fuel rest fits
    rw [membersTokens, List.cons_append, List.cons_append, List.cons_append, List.append_assoc] at entries
    simp [valueTokens, node?, properties?, entries, valueTree]

/-- The items of a list with marks of its own are put together up to the mark of its end. -/
theorem blockItems?_itemsTokens : (items : List Json) → {fuel : Nat} → {rest : List Token} →
    3 * (itemsTokens items).length + 1 ≤ fuel →
    blockItems? handles fuel (itemsTokens items ++ .blockEnd :: rest) = some (itemsTrees items, rest)
  | [], fuel + 1, rest, _ => by simp [itemsTokens, blockItems?, itemsTrees]
  | item :: items, fuel + 2, rest, enough => by
    simp only [itemsTokens, List.length_cons, List.length_append] at enough
    have first := @node?_valueTokens item false false fuel (itemsTokens items ++ .blockEnd :: rest) (by omega) nofun
      nofun
    have later := @blockItems?_itemsTokens items (fuel + 1) rest (by omega)
    have marks : ∀ t ∈ [Token.blockEntry, .blockEnd], ¬ Begin false t := fun t mem =>
      not_begin_of_list t (by simp at mem ⊢; tauto)
    rw [itemsTokens, List.cons_append, List.append_assoc, blockItems?,
      nodeOr?_valueTokens handles item false marks, first]
    simp [later, itemsTrees]

/-- Those of a loose list are, up to where no item follows. -/
theorem looseItems?_itemsTokens : (items : List Json) → {fuel : Nat} → {rest : List Token} →
    3 * (itemsTokens items).length + 1 ≤ fuel → rest.head? ≠ some .blockEntry →
    looseItems? handles fuel (itemsTokens items ++ rest) = some (itemsTrees items, rest)
  | [], fuel + 1, rest, _, ends => by
    rw [itemsTokens, List.nil_append, looseItems?]
    · rfl
    · rintro more rfl
      exact ends rfl
  | item :: items, fuel + 2, rest, enough, ends => by
    simp only [itemsTokens, List.length_cons, List.length_append] at enough
    have first := @node?_valueTokens item false false fuel (itemsTokens items ++ rest) (by omega) nofun nofun
    have later := @looseItems?_itemsTokens items (fuel + 1) rest (by omega) ends
    rw [itemsTokens, List.cons_append, List.append_assoc, looseItems?,
      nodeOr?_valueTokens handles item false not_begin_of_list, first]
    simp [later, itemsTrees]

/-- The members of a mapping are put together, each key with its value. -/
theorem blockEntries?_membersTokens : (members : List (String × Json)) → {fuel : Nat} → {rest : List Token} →
    3 * (membersTokens members).length + 1 ≤ fuel →
    blockEntries? handles fuel (membersTokens members ++ .blockEnd :: rest) = some (membersTrees members, rest)
  | [], fuel + 1, rest, _ => by simp [membersTokens, blockEntries?, membersTrees]
  | (key, member) :: members, fuel + 3, rest, enough => by
    simp only [membersTokens, List.length_cons, List.length_append] at enough
    have ends : (membersTokens members ++ .blockEnd :: rest).head? ≠ some .blockEntry := by
      cases members with
      | nil => rw [membersTokens]; nofun
      | cons entry members => rw [membersTokens]; nofun
    have named := @node?_scalar handles fuel true true
      (.value :: (valueTokens member (Page.isSimpleKey key) ++ (membersTokens members ++ .blockEnd :: rest))) key
      (Presentation.choose (Page.isSimpleKey key) key.toList).style
    have first := @node?_valueTokens member (Page.isSimpleKey key) true (fuel + 1)
      (membersTokens members ++ .blockEnd :: rest) (by omega) (fun _ => rfl) (fun _ => ends)
    have later := @blockEntries?_membersTokens members (fuel + 2) rest (by omega)
    rw [membersTokens, List.cons_append, List.cons_append, List.cons_append, List.append_assoc, blockEntries?]
    dsimp only
    rw [keyToken, nodeOr?, nextIn]
    simp [named, nodeOr?_valueTokens handles member _ (not_begin_of_mapping _), first, later, membersTrees, keyTree]

end

end Tokens

/-! ### What the value stands for -/

mutual

/-- No object in the value has a key twice. -/
def KeysOnce : Json → Prop
  | .array items => ItemsKeysOnce items
  | .object members => (members.map Prod.fst).Nodup ∧ MembersKeysOnce members
  | _ => True

def ItemsKeysOnce : List Json → Prop
  | [] => True
  | item :: items => KeysOnce item ∧ ItemsKeysOnce items

def MembersKeysOnce : List (String × Json) → Prop
  | [] => True
  | (_, value) :: members => KeysOnce value ∧ MembersKeysOnce members

end

mutual

/-- The value as it is written, without names to be replaced. -/
def valueLinked : Json → Linked
  | .text s => .scalar none s ((Presentation.choose false s.toList).style == .plain)
  | .array items => .list none (itemsLinked items)
  | .object members => .mapping none (membersLinked members)
  | .null => .scalar none (String.ofList (wordText .null)) true
  | .bool b => .scalar none (String.ofList (wordText (.bool b))) true
  | .number n => .scalar none (String.ofList (wordText (.number n))) true

def itemsLinked : List Json → List Linked
  | [] => []
  | item :: items => valueLinked item :: itemsLinked items

def membersLinked : List (String × Json) → List (Linked × Linked)
  | [] => []
  | (key, member) :: members =>
    (.scalar none key ((Presentation.choose (Page.isSimpleKey key) key.toList).style == .plain),
      valueLinked member) :: membersLinked members

end

mutual

/-- No names of anchors stand in it. -/
theorem link?_valueTree (a : Anchors) : (value : Json) → link? a (valueTree value) = some (valueLinked value, a)
  | .null | .bool _ | .number _ | .text _ => rfl
  | .array items => by
    rw [valueTree, link?]
    simp [Anchors.enter, Anchors.settle, linkItems?_itemsTrees a items, valueLinked]
  | .object members => by
    rw [valueTree, link?]
    simp [Anchors.enter, Anchors.settle, linkEntries?_membersTrees a members, valueLinked]

theorem linkItems?_itemsTrees (a : Anchors) : (items : List Json) →
    linkItems? a (itemsTrees items) = some (itemsLinked items, a)
  | [] => rfl
  | item :: items => by
    rw [itemsTrees, linkItems?]
    simp [link?_valueTree a item, linkItems?_itemsTrees a items, itemsLinked]

theorem linkEntries?_membersTrees (a : Anchors) : (members : List (String × Json)) →
    linkEntries? a (membersTrees members) = some (membersLinked members, a)
  | [] => rfl
  | (key, member) :: members => by
    rw [membersTrees, linkEntries?]
    simp [keyTree, bareTree, link?, Anchors.enter, Anchors.settle, link?_valueTree a member,
      linkEntries?_membersTrees a members, membersLinked]

end

/-- A text that is written stands for itself: without quotes it would not have been taken for anything else. -/
theorem scalar?_text (simpleKey : Bool) (s : String) :
    scalar? none s ((Presentation.choose simpleKey s.toList).style == .plain) = some (.text s) := by
  cases chosen : Presentation.choose simpleKey s.toList with
  | plain =>
    have clear := (Presentation.of_plain chosen).1
    simp only [isAmbiguous, Bool.or_eq_false_iff, bne_eq_false_iff_eq, String.ofList_toList] at clear
    simp [scalar?, Presentation.style, clear.2, ofScalar?]
  | singleQuoted | doubleQuoted | literal => rfl

/-- A word that is written stands for its value. -/
theorem scalar?_word (word : List Char) :
    scalar? none (String.ofList word) true = ofScalar? (Scalar.ofPlain word) := by
  simp [scalar?]

/-- The words for null and the truth values stand for them. -/
theorem ofPlain_wordText :
    Scalar.ofPlain (wordText .null) = .null ∧ ∀ b, Scalar.ofPlain (wordText (.bool b)) = .bool b := by
  refine ⟨by decide, fun b => ?_⟩
  cases b <;> decide

/-- Where keys are different texts no two entries have one key. -/
theorem hasTwins_ofMembers {members : List (String × Json)} (once : (members.map Prod.fst).Nodup) :
    hasTwins (Node.ofMembers members) = false := by
  induction members with
  | nil => rfl
  | cons member members ih =>
    obtain ⟨key, value⟩ := member
    obtain ⟨apart, once⟩ := List.nodup_cons.mp once
    rw [Node.ofMembers, hasTwins, ih once, Bool.or_false, List.any_eq_false, Node.ofMembers_eq]
    intro entry mem
    obtain ⟨other, given, rfl⟩ := List.mem_map.mp mem
    have distinct : key ≠ other.1 := fun same => apart (List.mem_map.mpr ⟨other, given, same.symm⟩)
    simpa [Node.same] using distinct

/-- A scalar stands for itself at any depth. -/
theorem expand_scalar (anchors : Anchors) (limit depth : Nat) {text : String} {isPlain : Bool} {node : Node}
    (read : scalar? none text isPlain = some node) :
    expand anchors limit depth (.scalar none text isPlain) = pure node := by
  cases depth <;> simp [expand, resolve, read] <;> rfl

mutual

/-- What is written for a value stands for the value, if the depth that is left is enough. -/
theorem expand_valueLinked (anchors : Anchors) (limit : Nat) : (value : Json) → {depth : Nat} → Legible value →
    KeysOnce value → value.depth ≤ depth → expand anchors limit depth (valueLinked value) = pure (Node.ofJson value)
  | .null, depth, _, _, _ =>
    expand_scalar anchors limit depth ((scalar?_word _).trans (congrArg ofScalar? ofPlain_wordText.1))
  | .bool b, depth, _, _, _ =>
    expand_scalar anchors limit depth ((scalar?_word _).trans (congrArg ofScalar? (ofPlain_wordText.2 b)))
  | .number n, depth, legible, _, _ =>
    expand_scalar anchors limit depth ((scalar?_word _).trans (ofScalar?_number legible).2)
  | .text s, depth, _, _, _ => expand_scalar anchors limit depth (scalar?_text false s)
  | .array items, depth + 1, legible, once, shallow => by
    have inner := mapM_itemsLinked anchors limit items legible once (Nat.le_of_succ_le_succ shallow)
    rw [valueLinked, expand]
    simp only [resolve, pure_bind, inner]
    rfl
  | .object members, depth + 1, legible, once, shallow => by
    have inner := mapM_membersLinked anchors limit members legible once.2 (Nat.le_of_succ_le_succ shallow)
    rw [valueLinked, expand]
    simp only [resolve, pure_bind, inner, hasTwins_ofMembers once.1]
    rfl

/-- Each item of a list stands for itself, at a depth less. -/
theorem mapM_itemsLinked (anchors : Anchors) (limit : Nat) : (items : List Json) → {depth : Nat} →
    ItemsLegible items → ItemsKeysOnce items → Json.depthOfItems items ≤ depth →
    (itemsLinked items).mapM (expand anchors limit depth) = pure (Node.ofItems items)
  | [], _, _, _, _ => rfl
  | item :: items, depth, legible, once, shallow => by
    have shallow : max item.depth (Json.depthOfItems items) ≤ depth := shallow
    rw [itemsLinked, List.mapM_cons, expand_valueLinked anchors limit item legible.1 once.1 (by omega),
      mapM_itemsLinked anchors limit items legible.2 once.2 (by omega)]
    rfl

/-- Each member of a mapping does, its key being a text. -/
theorem mapM_membersLinked (anchors : Anchors) (limit : Nat) : (members : List (String × Json)) → {depth : Nat} →
    MembersLegible members → MembersKeysOnce members → Json.depthOfMembers members ≤ depth →
    (membersLinked members).mapM (fun (key, value) => do
      let key ← expand anchors limit depth key
      let value ← expand anchors limit depth value
      pure (key, value)) = pure (Node.ofMembers members)
  | [], _, _, _, _ => rfl
  | (key, member) :: members, depth, legible, once, shallow => by
    have shallow : max member.depth (Json.depthOfMembers members) ≤ depth := shallow
    have named := expand_scalar anchors limit depth (scalar?_text (Page.isSimpleKey key) key)
    have first := @expand_valueLinked anchors limit member depth legible.1 once.1 (by omega)
    rw [membersLinked, List.mapM_cons, mapM_membersLinked anchors limit members legible.2 once.2 (by omega)]
    simp only [named, first]
    rfl

end

/-- The tokens of a value and the end of the text make up a document of the value. -/
theorem ofTokens?_valueTokens (value : Json) :
    Tree.ofTokens? (valueTokens value false ++ [.streamEnd]) = some (some (valueTree value)) := by
  obtain ⟨t, more, tokens, begins⟩ := exists_valueTokens value false
  have read := @node?_valueTokens Tree.standardHandles value false false
    (4 * (valueTokens value false ++ [Token.streamEnd]).length + 8) [.streamEnd]
    (by rw [List.length_append]; omega) nofun nofun
  have some' : valueTokens value false ++ [.streamEnd] ≠ [.streamEnd] := by simp [tokens]
  have bare : Tree.beginsBare (valueTokens value false ++ [.streamEnd]) = true := by
    rw [tokens]
    cases begins <;> rfl
  rw [Tree.ofTokens?]
  simp only [if_neg some', bare, if_true, read]
  rfl

/-- What is written for a value stands for the value. -/
theorem ofTree?_valueTree {value : Json} (legible : Legible value) (once : KeysOnce value)
    (shallow : value.depth ≤ depthLimit) :
    Node.ofTree? (valueTree value) = some (Node.ofJson value) := by
  rw [Node.ofTree?, link?_valueTree]
  simp only [bind, Option.bind_some, expand_valueLinked _ _ value legible once shallow]
  rfl

/-- **What is printed is read again as what it was printed for**, if its numbers are legible, no object has a key
twice, and it is nested no deeper than documents may be. -/
theorem read?_print {value : Json} (legible : Legible value) (once : KeysOnce value)
    (shallow : value.depth ≤ depthLimit) :
    read? (print value) = some (Node.ofJson value) := by
  rw [read?, stream?_print legible]
  simp only [bind, Option.bind_some, ofTokens?_valueTokens, ofTree?_valueTree legible once shallow]

end VirtLifecycle.Yaml
