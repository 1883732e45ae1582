/-
Module: VirtLifecycle.Proofs.Cluster.Http
Purpose: Reads over a connection. The address of an object whose id has only label characters is a
  target, if it is not too long; an answer that holds an object is read as the object, in whole seconds,
  and a refusal as not found is read as none.
Main exports: ResourceId.IsLabelled, Request.ofCall_get, Response.Shows, Response.reply_of_shows
-/
import VirtLifecycle.Cluster.Http
import VirtLifecycle.Proofs.Json.RoundTrip
import VirtLifecycle.Proofs.Resource.Basic

namespace VirtLifecycle

/-! ### Bytes of texts -/

theorem toList_loop (bytes : ByteArray) (i : Nat) (read : List UInt8) :
    ByteArray.toList.loop bytes i read = read.reverse ++ bytes.data.toList.drop i := by
  induction i, read using ByteArray.toList.loop.induct bytes with
  | case1 i read more ih =>
    have inside : i < bytes.data.toList.length := by simpa using more
    rw [ByteArray.toList.loop, if_pos more, ih, List.reverse_cons, List.append_assoc,
      List.drop_eq_getElem_cons inside]
    simp [ByteArray.get!, more]
  | case2 i read done =>
    have nothing : bytes.data.toList.length ≤ i := by simpa using done
    rw [ByteArray.toList.loop, if_neg done, List.drop_of_length_le nothing, List.append_nil]

theorem flatMap_utf8EncodeChar {cs : List Char} (ascii : ∀ c ∈ cs, c.val ≤ 127) :
    cs.flatMap String.utf8EncodeChar = cs.map fun c => c.val.toUInt8 := by
  induction cs with
  | nil => rfl
  | cons c cs ih =>
    obtain ⟨first, others⟩ := List.forall_mem_cons.mp ascii
    rw [List.flatMap_cons, ih others,
      String.utf8EncodeChar_eq_singleton (Char.utf8Size_eq_one_iff.mpr first)]
    rfl

/-- The bytes of a text of ASCII characters are their codes. -/
theorem toList_toUTF8 {cs : List Char} (ascii : ∀ c ∈ cs, c.val ≤ 127) :
    (String.ofList cs).toUTF8.toList = cs.map fun c => c.val.toUInt8 := by
  rw [ByteArray.toList, toList_loop, List.reverse_nil, List.nil_append, List.drop_zero,
    ← flatMap_utf8EncodeChar ascii]
  exact List.toList_data_toByteArray

/-- The bytes of a text are the text again. -/
theorem fromUTF8?_toUTF8 (s : String) : String.fromUTF8? s.toUTF8 = some s :=
  dif_pos s.isValidUTF8

/-! ### Targets -/

/-- A letter, a digit or a hyphen, as in the labels of domain names. -/
def ResourceId.isLabelChar (c : Char) : Bool :=
  c.isAlphanum || c == '-'

/-- Namespace and name have only characters of labels, and there is a name. -/
structure ResourceId.IsLabelled (id : ResourceId) : Prop where
  named : id.name ≠ ""
  space : ∀ c ∈ id.space.toList, isLabelChar c = true
  name : ∀ c ∈ id.name.toList, isLabelChar c = true

namespace Request

/-- The characters of addresses. -/
def isAddressChar (c : Char) : Bool :=
  ResourceId.isLabelChar c || c == '/' || c == '.'

/-- The characters of addresses are below the code 128. -/
theorem toNat_lt_of_isAddressChar {c : Char} (address : isAddressChar c = true) : c.toNat < 128 := by
  have below {high : UInt32} (le : c.val ≤ high) (small : high.toNat < 128) : c.toNat < 128 :=
    Nat.lt_of_le_of_lt (UInt32.le_iff_toNat_le.mp le) small
  simp only [isAddressChar, ResourceId.isLabelChar, Char.isAlphanum, Bool.or_eq_true,
    beq_iff_eq] at address
  rcases address with (((alpha | digit) | rfl) | rfl) | rfl
  · rcases Bool.or_eq_true_iff.mp alpha with upper | lower
    · exact below (of_decide_eq_true upper).2 (by decide)
    · exact below (of_decide_eq_true (Bool.and_eq_true_iff.mp lower).2) (by decide)
  · exact below (of_decide_eq_true (Bool.and_eq_true_iff.mp digit).2) (by decide)
  all_goals decide

/-- What holds of the codes of the characters of addresses. -/
theorem of_isAddressChar {c : Char} (address : isAddressChar c = true) :
    c.val ≤ 127 ∧ isPathByte c.val.toUInt8 = true ∧ c ≠ '#' ∧ c ≠ '?' := by
  have all : ∀ n < 128, isAddressChar (Char.ofNat n) = true → (Char.ofNat n).val ≤ 127 ∧
      isPathByte (Char.ofNat n).val.toUInt8 = true ∧ Char.ofNat n ≠ '#' ∧ Char.ofNat n ≠ '?' := by
    decide +kernel
  have known := all c.toNat (toNat_lt_of_isAddressChar address)
  rw [Char.ofNat_toNat] at known
  exact known address

/-- A text with only characters of addresses is a target, if it is not too long. -/
theorem target?_of_address {address : String} (chars : ∀ c ∈ address.toList, isAddressChar c = true)
    (fits : address.utf8ByteSize ≤ targetLimit) : target? address = .ok address := by
  have noFragment : ∀ c ∈ address.toList, (c != '#') = true := fun c mem => by
    simp [(of_isAddressChar (chars c mem)).2.2.1]
  have noQuery : ∀ c ∈ address.toList, (c != '?') = true := fun c mem => by
    simp [(of_isAddressChar (chars c mem)).2.2.2]
  have shown := List.takeWhile_eq_self_iff.mpr noFragment
  have path := List.takeWhile_eq_self_iff.mpr noQuery
  have query := List.dropWhile_eq_nil_iff.mpr noQuery
  have sound : ((String.ofList address.toList).toUTF8.toList.all isPathByte) = true := by
    rw [toList_toUTF8 fun c mem => (of_isAddressChar (chars c mem)).1, List.all_map]
    exact List.all_eq_true.mpr fun c mem => (of_isAddressChar (chars c mem)).2.1
  rw [String.ofList_toList] at sound
  have noQueryBytes : ((String.ofList []).toUTF8.toList.all isQueryByte) = true := by
    rw [toList_toUTF8 (List.forall_mem_nil _)]
    rfl
  simp only [target?, shown, path, query, List.drop_nil, sound, noQueryBytes, Bool.and_self, if_true,
    if_neg (Nat.not_lt.mpr fits), String.ofList_toList]

/-- The address of an object. -/
def addressOf (kind : Kind) (id : ResourceId) : String :=
  kind.collectionPath id.space ++ "/" ++ id.name

theorem isAddressChar_addressOf (kind : Kind) {id : ResourceId} (labelled : id.IsLabelled) :
    ∀ c ∈ (addressOf kind id).toList, isAddressChar c = true := by
  have label : ∀ c, ResourceId.isLabelChar c = true → isAddressChar c = true := fun c is => by
    simp [isAddressChar, is]
  have group : ∀ c ∈ kind.group.toList, isAddressChar c = true :=
    List.all_eq_true.mp (by cases kind <;> decide)
  have version : ∀ c ∈ kind.version.toList, isAddressChar c = true :=
    List.all_eq_true.mp (by cases kind <;> decide)
  have plural : ∀ c ∈ kind.plural.toList, isAddressChar c = true :=
    List.all_eq_true.mp (by cases kind <;> decide)
  have root : ∀ c ∈ "/apis/".toList, isAddressChar c = true := List.all_eq_true.mp (by decide)
  have slash : ∀ c ∈ "/".toList, isAddressChar c = true := List.all_eq_true.mp (by decide)
  have spaces : ∀ c ∈ "/namespaces/".toList, isAddressChar c = true := List.all_eq_true.mp (by decide)
  simp only [addressOf, Kind.collectionPath, String.toList_append, List.forall_mem_append]
  exact ⟨⟨⟨⟨⟨⟨⟨⟨⟨root, group⟩, slash⟩, version⟩, spaces⟩, fun c mem => label c (labelled.space c mem)⟩,
    slash⟩, plural⟩, slash⟩, fun c mem => label c (labelled.name c mem)⟩

theorem objectAddress_of_named (kind : Kind) {id : ResourceId} (named : id.name ≠ "") :
    objectAddress kind id = .ok (addressOf kind id) := by
  rw [objectAddress, String.isEmpty_eq_false_iff.mpr named]
  rfl

/-- A read is a request for the address of the object. -/
theorem ofCall_get {kind : Kind} {id : ResourceId} (labelled : id.IsLabelled)
    (fits : (addressOf kind id).utf8ByteSize ≤ targetLimit) :
    ofCall (.get kind id) = .ok ⟨"GET", addressOf kind id, none, none, none⟩ := by
  have address := objectAddress_of_named kind labelled.named
  have target := target?_of_address (isAddressChar_addressOf kind labelled) fits
  simp only [ofCall, address, Except.mapError, bind, Except.bind, target]

/-- An address that is too long is no target. -/
theorem ofCall_get_of_long {kind : Kind} {id : ResourceId} (named : id.name ≠ "")
    (long : targetLimit < (addressOf kind id).utf8ByteSize) :
    ofCall (.get kind id) = .error (.unbuildable .tooLong) := by
  simp only [ofCall, objectAddress_of_named kind named, target?, if_pos long, Except.mapError, bind,
    Except.bind]

end Request

/-! ### Answers -/

namespace Response

variable {kind : Kind} {id : ResourceId}

/-- A body that explains that an object does not exist. -/
def ExplainsNotFound (body : ByteArray) : Prop :=
  ∃ text refusal, String.fromUTF8? body = some text ∧
    (Json.read? text).bind Refusal.decode? = some refusal ∧ refusal.reason = notFoundReason

/-- The answers by which a server shows an object or that there is none. -/
inductive Shows : Option (Resource kind) → Response → Prop where
  | object (object : Resource kind) : Shows (some object) (.answer 200 object.encode.print.toUTF8)
  | missing {body : ByteArray} (explains : ExplainsNotFound body) : Shows none (.answer 404 body)

/-- An object that has been read from some document and is written in a text that reads as what was
written. -/
structure Carries (object : Resource kind) : Prop where
  decoded : ∃ document : Json, Resource.decode? kind document = some object
  numbers : object.encode.Travels
  shallow : object.encode.depth ≤ Json.depthLimit

/-- What a server shows is read as it is, up to whole seconds in the metadata. -/
theorem reply_of_shows {found : Option (Resource kind)} {response : Response}
    (carries : ∀ object, found = some object → Carries object) (shows : Shows found response) :
    response.reply (.get kind id) = .ok (found.map Resource.wholeSeconds) := by
  cases shows with
  | object object =>
    obtain ⟨⟨document, decoded⟩, numbers, shallow⟩ := carries object rfl
    have text : Response.text (.answer 200 object.encode.print.toUTF8) = .ok object.encode.print := by
      rw [Response.text, fromUTF8?_toUTF8]
      rfl
    have read : Response.object kind object.encode.print = .ok object.wholeSeconds := by
      rw [Response.object, Json.read?_print numbers shallow, Option.bind_some,
        Resource.decode?_encode (Resource.full_of_decode? decoded)]
    simp only [Response.reply, text, Except.bind, read]
    rfl
  | missing explains =>
    obtain ⟨text, refusal, decoded, read, reason⟩ := explains
    rename_i body
    have refused : Response.text (.answer 404 body) = .error (.refused refusal) := by
      simp only [Response.text, decoded, Refusal.ofAnswer, read]
      rfl
    simp only [Response.reply, refused, Except.bind, if_pos reason]
    rfl

end Response

end VirtLifecycle
