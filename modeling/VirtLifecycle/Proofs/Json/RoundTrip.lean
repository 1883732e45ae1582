/-
Module: VirtLifecycle.Proofs.Json.RoundTrip
Purpose: A value that is printed is read as itself, if its numbers travel and it is not nested too
  deeply. Each part of a value is followed through the reader with the rest of the text left open.
Main exports: Json.depth, Json.Travels, Json.read?_print
-/
import Mathlib.Tactic.FinCases
import Mathlib.Tactic.IntervalCases
import VirtLifecycle.Proofs.Json.Numerals

namespace VirtLifecycle.Json

open Reading

mutual

/-- The number of containers around the innermost value. -/
def depth : Json → Nat
  | array items => depthOfItems items + 1
  | object members => depthOfMembers members + 1
  | _ => 0

def depthOfItems : List Json → Nat
  | [] => 0
  | item :: items => max (depth item) (depthOfItems items)

def depthOfMembers : List (String × Json) → Nat
  | [] => 0
  | (_, value) :: members => max (depth value) (depthOfMembers members)

end

mutual

/-- Every number in the value travels. -/
def Travels : Json → Prop
  | number n => n.Travels
  | array items => ItemsTravel items
  | object members => MembersTravel members
  | _ => True

def ItemsTravel : List Json → Prop
  | [] => True
  | item :: items => Travels item ∧ ItemsTravel items

def MembersTravel : List (String × Json) → Prop
  | [] => True
  | (_, value) :: members => Travels value ∧ MembersTravel members

end

/-! ### Reading on -/

/-- The value of a text of which the reader has come so far, with these characters to come. -/
def finish (r : Reading) (rest : List Char) : Option Json :=
  (rest.foldlM step r).bind result?

theorem finish_cons {r next : Reading} {c : Char} {rest : List Char} (stepped : step r c = some next) :
    finish r (c :: rest) = finish next rest := by
  rw [finish, List.foldlM_cons, stepped]
  rfl

/-- A value may end before what is left: nothing, a comma or the end of a container. -/
def EndsValue (rest : List Char) : Prop :=
  ∀ c, rest.head? = some c → c = ',' ∨ c = ']' ∨ c = '}'

theorem endsValue_nil : EndsValue [] := nofun

/-- Where items are printed after a value it ends, be it with a comma or with the bracket. -/
theorem endsValue_printItems (items : List Json) (rest : List Char) :
    EndsValue (printItems items rest) := by
  cases items with
  | nil =>
    rintro _ ⟨⟩
    exact .inr (.inl rfl)
  | cons item items =>
    rintro _ ⟨⟩
    exact .inl rfl

/-- Where members are printed after a value it ends, be it with a comma or with the brace. -/
theorem endsValue_printMembers (members : List (String × Json)) (rest : List Char) :
    EndsValue (printMembers members rest) := by
  cases members with
  | nil =>
    rintro _ ⟨⟩
    exact .inr (.inr rfl)
  | cons entry members =>
    rintro _ ⟨⟩
    exact .inl rfl

/-! ### Texts -/

/-- One character within a text, which does not end there. -/
def scan (state : Span × Escape) (c : Char) : Option (Span × Escape) :=
  if endsAt state.2 c then none else inText? state.1 state.2 c

theorem inText?_of_scan {state next : Span × Escape} {c : Char} (scanned : scan state c = some next) :
    endsAt state.2 c = false ∧ inText? state.1 state.2 c = some next := by
  unfold scan at scanned
  split at scanned
  · cases scanned
  · rename_i inside
    exact ⟨Bool.eq_false_iff.mpr inside, scanned⟩

/-- Characters within a text are read one by one, whatever the text is for. -/
theorem finish_scan {around : List Frame} {e : Span × Escape → Expect}
    (steps : ∀ {state next c}, scan state c = some next →
      step ⟨around, e state⟩ c = some ⟨around, e next⟩)
    {cs : List Char} {state next : Span × Escape} (scanned : cs.foldlM scan state = some next)
    (rest : List Char) :
    finish ⟨around, e state⟩ (cs ++ rest) = finish ⟨around, e next⟩ rest := by
  induction cs generalizing state with
  | nil =>
    cases scanned
    rfl
  | cons c cs ih =>
    obtain ⟨later, first, scanned⟩ := Option.bind_eq_some_iff.mp scanned
    rw [List.cons_append, finish_cons (steps first)]
    exact ih scanned

theorem finish_text {around : List Frame} {cs : List Char} {state next : Span × Escape}
    (scanned : cs.foldlM scan state = some next) (rest : List Char) :
    finish ⟨around, .text state.1 state.2⟩ (cs ++ rest) =
      finish ⟨around, .text next.1 next.2⟩ rest := by
  refine finish_scan (e := fun state => .text state.1 state.2) (fun first => ?_) scanned rest
  obtain ⟨inside, read⟩ := inText?_of_scan first
  simp only [step, inside, Bool.false_eq_true, if_false, read, Option.map_some]

/-- A reading that stands in a key goes through what is scanned of it, in the same way. -/
theorem finish_keyText {around : List Frame} {before : List (String × Json)} {cs : List Char}
    {state next : Span × Escape} (scanned : cs.foldlM scan state = some next) (rest : List Char) :
    finish ⟨around, .keyText before state.1 state.2⟩ (cs ++ rest) =
      finish ⟨around, .keyText before next.1 next.2⟩ rest := by
  refine finish_scan (e := fun state => .keyText before state.1 state.2) (fun first => ?_) scanned rest
  obtain ⟨inside, read⟩ := inText?_of_scan first
  simp only [step, inside, Bool.false_eq_true, if_false, read, Option.map_some]

/-- A character that is escaped is read as itself. -/
theorem scan_escapeChar (span : Span) (c : Char) :
    (escapeChar c).foldlM scan (span, .none) = some (Span.push span c, .none) := by
  by_cases control : c.toNat < 0x20
  · have code : c = Char.ofNat c.toNat := (Char.ofNat_toNat c).symm
    generalize c.toNat = n at code control
    subst code
    interval_cases n <;> rfl
  · by_cases marked : c = '"' ∨ c = '\\'
    · rcases marked with rfl | rfl <;> rfl
    · have plain : escapeChar c = [c] := by
        have other : ∀ d : Char, d.toNat < 0x20 → c ≠ d := fun d low same => control (same ▸ low)
        rw [escapeChar, if_neg marked, if_neg (other '\n' (by decide)), if_neg (other '\r' (by decide)),
          if_neg (other '\t' (by decide)), if_neg (by omega), if_neg (by omega), if_neg (by omega),
          if_neg control]
      obtain ⟨notQuote, notSlash⟩ := not_or.mp marked
      have inside : endsAt .none c = false := by simp [endsAt, notQuote]
      have read : inText? span .none c = some (Span.push span c, .none) := by
        simp only [inText?, if_neg notSlash, if_neg control]
      rw [plain, List.foldlM_cons, scan, inside, if_neg Bool.false_ne_true, read]
      rfl

/-- The characters of a text are read as the text. -/
theorem scan_escaped (cs : List Char) (read : List Char) :
    (cs.flatMap escapeChar).foldlM scan (⟨read, true⟩, .none) =
      some (⟨cs.reverse ++ read, true⟩, .none) := by
  induction cs generalizing read with
  | nil => rfl
  | cons c cs ih =>
    rw [List.flatMap_cons, List.foldlM_append, scan_escapeChar]
    simp only [Option.bind_eq_bind, Option.bind_some, Span.push, ih, List.reverse_cons,
      List.append_assoc, List.cons_append, List.nil_append]

theorem printText_append (s : String) (rest : List Char) :
    printText s ++ rest = '"' :: (s.toList.flatMap escapeChar ++ '"' :: rest) := by
  rw [printText, List.cons_append, List.append_assoc, List.cons_append, List.nil_append]

theorem finish_printText (s : String) (around : List Frame) (rest : List Char) :
    finish ⟨around, .value⟩ (printText s ++ rest) = finish (deliver around (text s)) rest := by
  have opens : step ⟨around, .value⟩ '"' = some ⟨around, .text ⟨[], true⟩ .none⟩ := rfl
  have closes : step ⟨around, .text ⟨s.toList.reverse ++ [], true⟩ .none⟩ '"' =
      some (deliver around (text s)) := by
    simp [step, endsAt, Span.text?]
  rw [printText_append, finish_cons opens, finish_text (scan_escaped s.toList []), finish_cons closes]

/-- A key is read where the next key may stand. -/
theorem finish_printKey (key : String) (around : List Frame) (before : List (String × Json))
    (rest : List Char) :
    finish ⟨around, .keyText before ⟨[], true⟩ .none⟩
        (key.toList.flatMap escapeChar ++ ('"' :: ':' :: rest)) =
      finish ⟨.member before key :: around, .value⟩ rest := by
  have closes : step ⟨around, .keyText before ⟨key.toList.reverse ++ [], true⟩ .none⟩ '"' =
      some ⟨around, .colon before key⟩ := by
    simp [step, endsAt, Span.text?]
  have colon : step ⟨around, .colon before key⟩ ':' = some ⟨.member before key :: around, .value⟩ := rfl
  rw [finish_keyText (scan_escaped key.toList []), finish_cons closes, finish_cons colon]

/-! ### Numbers -/

theorem finish_numeral {cs : List Char} (all : ∀ c ∈ cs, isNumeralChar c = true) (around : List Frame)
    (read rest : List Char) :
    finish ⟨around, .numeral read⟩ (cs ++ rest) = finish ⟨around, .numeral (cs.reverse ++ read)⟩ rest := by
  induction cs generalizing read with
  | nil => rfl
  | cons c cs ih =>
    obtain ⟨first, others⟩ := List.forall_mem_cons.mp all
    have stepped : step ⟨around, .numeral read⟩ c = some ⟨around, .numeral (c :: read)⟩ := by
      simp only [step, first, if_true]
    rw [List.cons_append, finish_cons stepped, ih others, List.reverse_cons, List.append_assoc]
    rfl

/-- A numeral ends where a value may end. -/
theorem finish_numeral_end {read rest : List Char} {value : Json}
    (found : ofNumeral read.reverse = some value) (ends : EndsValue rest) (around : List Frame) :
    finish ⟨around, .numeral read⟩ rest = finish (deliver around value) rest := by
  cases rest with
  | nil =>
    cases around with
    | nil => exact found
    | cons frame outer =>
      -- Without the end of the outermost container there is no value.
      cases frame <;> cases outer <;> rfl
  | cons c rest =>
    have same : step ⟨around, .numeral read⟩ c = step (deliver around value) c := by
      rcases ends c rfl with rfl | rfl | rfl
      all_goals
        simp only [step, found]
        cases around with
        | nil => rfl
        | cons frame outer => cases frame <;> rfl
    rw [finish, List.foldlM_cons, same]
    rfl

/-- The characters that a numeral begins with. -/
theorem mem_of_first {c : Char} (first : c.isDigit = true ∨ c = '-') :
    c ∈ ['0', '1', '2', '3', '4', '5', '6', '7', '8', '9', '-'] := by
  rcases first with digit | rfl
  · obtain ⟨low, high⟩ := Char.isDigit_iff_toNat.mp digit
    have code : c = Char.ofNat c.toNat := (Char.ofNat_toNat c).symm
    have low : 48 ≤ c.toNat := low
    have high : c.toNat ≤ 57 := high
    generalize c.toNat = n at code low high
    subst code
    interval_cases n <;> decide
  · decide

theorem step_value_of_first {c : Char} (first : c.isDigit = true ∨ c = '-') (around : List Frame) :
    step ⟨around, .value⟩ c = some ⟨around, .numeral [c]⟩ := by
  have known := mem_of_first first
  fin_cases known <;> rfl

/-- A numeral is read as what it stands for. -/
theorem finish_of_ofNumeral {chars : List Char} {value : Json} (found : ofNumeral chars = some value)
    (around : List Frame) {rest : List Char} (ends : EndsValue rest) :
    finish ⟨around, .value⟩ (chars ++ rest) = finish (deliver around value) rest := by
  obtain ⟨c, cs, rfl, first, all⟩ := exists_cons_of_ofNumeral found
  rw [List.cons_append, finish_cons (step_value_of_first first around),
    finish_numeral (List.forall_mem_cons.mp all).2]
  exact finish_numeral_end (by simpa using found) ends around

/-! ### Values -/

/-- A printed value begins with a character that is no blank and ends no list. -/
theorem exists_first {value : Json} (travels : value.Travels) (rest : List Char) :
    ∃ c cs, printOnto value rest = c :: cs ∧ isSpace c = false ∧ c ≠ ']' := by
  cases value with
  | null => exact ⟨_, _, rfl, rfl, by decide⟩
  | bool b => cases b <;> exact ⟨_, _, rfl, rfl, by decide⟩
  | number n =>
    obtain ⟨c, cs, printed, first, _⟩ := exists_cons_of_ofNumeral (ofNumeral_print travels)
    refine ⟨c, cs ++ rest, by rw [printOnto, printed, List.cons_append], ?_⟩
    have known := mem_of_first first
    fin_cases known <;> decide
  | text s => exact ⟨_, _, rfl, rfl, by decide⟩
  | array items => cases items <;> exact ⟨_, _, rfl, rfl, by decide⟩
  | object members => cases members <;> exact ⟨_, _, rfl, rfl, by decide⟩

/-- The first item of a list is read like any other value. -/
theorem finish_firstItem {value : Json} (travels : value.Travels) (around : List Frame)
    (rest : List Char) :
    finish ⟨around, .firstItem⟩ (printOnto value rest) =
      finish ⟨.items [] :: around, .value⟩ (printOnto value rest) := by
  obtain ⟨c, cs, printed, notSpace, notEnd⟩ := exists_first travels rest
  have same : step ⟨around, .firstItem⟩ c = step ⟨.items [] :: around, .value⟩ c := by
    simp only [step, notSpace, Bool.false_eq_true, if_false, if_neg notEnd]
  rw [printed, finish, List.foldlM_cons, same]
  rfl

/-- A container that is not too deep is delivered to what is around it like any other value. -/
theorem close_eq {around : List Frame} (room : around.length < depthLimit) (value : Json) :
    close around value = deliver around value := by
  rw [close, if_neg (Nat.not_le.mpr room)]

mutual

/-- A printed value is read as the value. -/
theorem finish_printOnto : (value : Json) → (around : List Frame) → {rest : List Char} →
    value.Travels → value.depth + around.length ≤ depthLimit → EndsValue rest →
    finish ⟨around, .value⟩ (printOnto value rest) = finish (deliver around value) rest
  | null, _, _, _, _, _ => rfl
  | bool true, _, _, _, _, _ => rfl
  | bool false, _, _, _, _, _ => rfl
  | number n, around, _, travels, _, ends => finish_of_ofNumeral (ofNumeral_print travels) around ends
  | text s, around, rest, _, _, _ => finish_printText s around rest
  | array [], around, rest, _, room, _ => by
    have opens : step ⟨around, .value⟩ '[' = some ⟨around, .firstItem⟩ := rfl
    have closes : step ⟨around, .firstItem⟩ ']' = some (deliver around (array [])) := by
      rw [← close_eq (by simp only [depth, depthOfItems] at room; omega)]
      rfl
    rw [printOnto, finish_cons opens, finish_cons closes]
  | array (item :: items), around, rest, travels, room, ends => by
    have opens : step ⟨around, .value⟩ '[' = some ⟨around, .firstItem⟩ := rfl
    have roomOf : max item.depth (depthOfItems items) + 1 + around.length ≤ depthLimit := room
    rw [printOnto, finish_cons opens, finish_firstItem travels.1,
      finish_printOnto item (.items [] :: around) travels.1 (by rw [List.length_cons]; omega)
        (endsValue_printItems items rest)]
    exact finish_printItems items [item] around rest travels.2 (by omega)
  | object [], around, rest, _, room, _ => by
    have opens : step ⟨around, .value⟩ '{' = some ⟨around, .firstKey⟩ := rfl
    have closes : step ⟨around, .firstKey⟩ '}' = some (deliver around (object [])) := by
      rw [← close_eq (by simp only [depth, depthOfMembers] at room; omega)]
      rfl
    rw [printOnto, finish_cons opens, finish_cons closes]
  | object ((key, member) :: members), around, rest, travels, room, ends => by
    have opens : step ⟨around, .value⟩ '{' = some ⟨around, .firstKey⟩ := rfl
    have quote : step ⟨around, .firstKey⟩ '"' = some ⟨around, .keyText [] ⟨[], true⟩ .none⟩ := rfl
    have roomOf : max member.depth (depthOfMembers members) + 1 + around.length ≤ depthLimit := room
    rw [printOnto, finish_cons opens, printText_append, finish_cons quote, finish_printKey,
      finish_printOnto member (.member [] key :: around) travels.1 (by rw [List.length_cons]; omega)
        (endsValue_printMembers members rest)]
    exact finish_printMembers members [(key, member)] around rest travels.2 (by omega)

/-- Printed items are read one by one after those before them. The induction is on the items, along with
those of the values in them; the depth that is left pays for each container. -/
theorem finish_printItems : (items before : List Json) → (around : List Frame) → (rest : List Char) →
    ItemsTravel items → depthOfItems items + around.length < depthLimit →
    finish ⟨around, .itemEnd before⟩ (printItems items rest) =
      finish (deliver around (array (before.reverse ++ items))) rest
  | [], before, around, rest, _, room => by
    have closes : step ⟨around, .itemEnd before⟩ ']' =
        some (deliver around (array (before.reverse ++ []))) := by
      rw [List.append_nil, ← close_eq (by simpa [depthOfItems] using room)]
      rfl
    rw [printItems, finish_cons closes]
  | item :: items, before, around, rest, travels, room => by
    have comma : step ⟨around, .itemEnd before⟩ ',' = some ⟨.items before :: around, .value⟩ := rfl
    have roomOf : max item.depth (depthOfItems items) + around.length < depthLimit := room
    rw [printItems, finish_cons comma,
      finish_printOnto item (.items before :: around) travels.1
        (by rw [List.length_cons]; omega) (endsValue_printItems items rest)]
    have next := finish_printItems items (item :: before) around rest travels.2 (by omega)
    rw [List.reverse_cons, List.append_assoc] at next
    exact next

theorem finish_printMembers : (members before : List (String × Json)) → (around : List Frame) →
    (rest : List Char) → MembersTravel members →
    depthOfMembers members + around.length < depthLimit →
    finish ⟨around, .memberEnd before⟩ (printMembers members rest) =
      finish (deliver around (object (before.reverse ++ members))) rest
  | [], before, around, rest, _, room => by
    have closes : step ⟨around, .memberEnd before⟩ '}' =
        some (deliver around (object (before.reverse ++ []))) := by
      rw [List.append_nil, ← close_eq (by simpa [depthOfMembers] using room)]
      rfl
    rw [printMembers, finish_cons closes]
  | (key, member) :: members, before, around, rest, travels, room => by
    have comma : step ⟨around, .memberEnd before⟩ ',' = some ⟨around, .nextKey before⟩ := rfl
    have quote : step ⟨around, .nextKey before⟩ '"' =
        some ⟨around, .keyText before ⟨[], true⟩ .none⟩ := rfl
    have roomOf : max member.depth (depthOfMembers members) + around.length < depthLimit := room
    rw [printMembers, finish_cons comma, printText_append, finish_cons quote, finish_printKey,
      finish_printOnto member (.member before key :: around) travels.1
        (by rw [List.length_cons]; omega) (endsValue_printMembers members rest)]
    have next := finish_printMembers members ((key, member) :: before) around rest travels.2 (by omega)
    rw [List.reverse_cons, List.append_assoc] at next
    exact next

end

/-- A printed text is read as the value that was printed, if its numbers travel and it is nested no
deeper than texts may be. -/
theorem read?_print {value : Json} (travels : value.Travels) (shallow : value.depth ≤ depthLimit) :
    read? value.print = some value := by
  have whole := finish_printOnto value [] travels shallow endsValue_nil
  rw [read?, print, String.toList_ofList]
  exact whole

end VirtLifecycle.Json
