/-
Module: VirtLifecycle.Proofs.Cluster.Addresses
Purpose: Which objects the requests for gets, updates and deletions are about. The path of such a request
  is the address of the object up to the first question mark or number sign, since a query or a fragment
  begins there. Ids without these marks are told apart by their paths. Ids with them are told apart only as
  far as their written forms are before the first mark.
Main exports: Call.IsFor, Request.path, Request.upToMark, Request.upToMark_addressOf_eq_iff,
  Request.paths_tell_ids, Request.paths_meet
-/
import VirtLifecycle.Proofs.Cluster.Http
import VirtLifecycle.Proofs.Except
import VirtLifecycle.Proofs.ResourceId

namespace VirtLifecycle

/-- The calls for an object that is named by its id. -/
inductive Call.IsFor (kind : Kind) (id : ResourceId) : Call → Prop where
  | get : IsFor kind id (.get kind id)
  | update (patch : Freeform) : IsFor kind id (.update kind id patch)
  | delete : IsFor kind id (.delete kind id)

namespace Request

/-- A character after which the path goes on: a question mark begins a query and a number sign a
fragment. -/
def isPathChar (c : Char) : Bool :=
  c != '?' && c != '#'

/-- What stands before the first question mark or number sign. -/
def upToMark (s : String) : String :=
  String.ofList (s.toList.takeWhile isPathChar)

/-- The path of what a request asks for. -/
def path (request : Request) : String :=
  upToMark request.target

/-! ### Texts up to a mark -/

theorem toList_upToMark (s : String) : (upToMark s).toList = s.toList.takeWhile isPathChar :=
  String.toList_ofList

theorem upToMark_eq_iff {s t : String} :
    upToMark s = upToMark t ↔ s.toList.takeWhile isPathChar = t.toList.takeWhile isPathChar := by
  rw [← toList_upToMark, ← toList_upToMark]
  exact String.toList_inj.symm

/-- Marks in front of a list end the path of all of it. -/
theorem takeWhile_append_of_marked {cs : List Char} (marked : ¬ ∀ c ∈ cs, isPathChar c = true)
    (rest : List Char) : (cs ++ rest).takeWhile isPathChar = cs.takeWhile isPathChar := by
  induction cs with
  | nil => exact absurd (List.forall_mem_nil _) marked
  | cons c cs ih =>
    rw [List.cons_append]
    by_cases shown : isPathChar c = true
    · rw [List.takeWhile_cons_of_pos shown, List.takeWhile_cons_of_pos shown, ih]
      intro all
      exact marked (List.forall_mem_cons.mpr ⟨shown, all⟩)
    · rw [List.takeWhile_cons_of_neg shown, List.takeWhile_cons_of_neg shown]

/-- A question mark at the end changes no path. -/
theorem upToMark_append_query (s : String) : upToMark (s ++ "?") = upToMark s := by
  rw [upToMark_eq_iff, String.toList_append]
  by_cases plain : ∀ c ∈ s.toList, isPathChar c = true
  · rw [List.takeWhile_append_of_pos plain, List.takeWhile_eq_self_iff.mpr plain]
    exact List.append_nil _
  · exact takeWhile_append_of_marked plain _

/-- A fragment is not part of a path. -/
theorem upToMark_of_target? {address target : String} (built : target? address = .ok target) :
    upToMark target = upToMark address := by
  simp only [target?] at built
  split at built
  · cases built
  · split at built
    · cases built
      rw [upToMark_eq_iff, String.toList_ofList, List.takeWhile_takeWhile]
      congr
      funext c
      rw [Bool.eq_iff_iff]
      simp [isPathChar]
    · cases built

/-- What follows a number sign is not part of a target. -/
theorem target?_fragment {address : String} (unmarked : '#' ∉ address.toList) (rest : String)
    (fits : (address ++ "#" ++ rest).utf8ByteSize ≤ targetLimit) :
    target? (address ++ "#" ++ rest) = target? address := by
  have shown : (address ++ "#" ++ rest).toList.takeWhile (· != '#') =
      address.toList.takeWhile (· != '#') := by
    have kept : ∀ c ∈ address.toList, (c != '#') = true := by
      intro c mem
      rw [bne_iff_ne]
      rintro rfl
      exact unmarked mem
    rw [String.toList_append, String.toList_append, List.append_assoc, List.takeWhile_append_of_pos kept,
      List.takeWhile_eq_self_iff.mpr kept]
    exact List.append_nil _
  have shorter : address.utf8ByteSize ≤ targetLimit := by
    rw [String.utf8ByteSize_append, String.utf8ByteSize_append] at fits
    omega
  simp only [target?, shown, if_neg (Nat.not_lt.mpr fits), if_neg (Nat.not_lt.mpr shorter)]

end Request

/-- Neither the namespace nor the name has a question mark or a number sign. -/
structure ResourceId.IsPlain (id : ResourceId) : Prop where
  space : ∀ c ∈ id.space.toList, Request.isPathChar c = true
  name : ∀ c ∈ id.name.toList, Request.isPathChar c = true

namespace Request

variable {kind : Kind} {id id' : ResourceId} {call call' : Call} {request request' : Request}

/-! ### Paths of requests -/

/-- What comes before the namespace in an address. -/
def front (kind : Kind) : List Char :=
  ("/apis/" ++ kind.group ++ "/" ++ kind.version ++ "/namespaces/").toList

/-- What comes between the slash after the namespace and the name. -/
def middle (kind : Kind) : List Char :=
  (kind.plural ++ "/").toList

theorem toList_addressOf (kind : Kind) (id : ResourceId) : (addressOf kind id).toList =
    front kind ++ (id.space.toList ++ '/' :: (middle kind ++ id.name.toList)) := by
  simp only [addressOf, Kind.collectionPath, front, middle, String.toList_append, List.append_assoc]
  rfl

theorem isPathChar_front (kind : Kind) : ∀ c ∈ front kind, isPathChar c = true :=
  List.all_eq_true.mp (by cases kind <;> decide)

theorem isPathChar_middle (kind : Kind) : ∀ c ∈ middle kind, isPathChar c = true :=
  List.all_eq_true.mp (by cases kind <;> decide)

theorem addressOf_of_objectAddress {address : String} (addressed : objectAddress kind id = .ok address) :
    address = addressOf kind id := by
  unfold objectAddress at addressed
  split at addressed
  · cases addressed
  · cases addressed
    rfl

/-- A request for an object asks for its address, perhaps with an empty query. -/
theorem target?_of_isFor (about : call.IsFor kind id) (built : ofCall call = .ok request) :
    target? (addressOf kind id) = .ok request.target ∨
      target? (addressOf kind id ++ "?") = .ok request.target := by
  cases about <;> (
    obtain ⟨address, addressed, later⟩ := (Except.bind_eq_ok_iff _ _ _).mp built
    obtain ⟨target, found, made⟩ := (Except.bind_eq_ok_iff _ _ _).mp later
    obtain rfl := addressOf_of_objectAddress ((Except.mapError_eq_ok_iff _ _ _).mp addressed)
    cases made)
  case get => exact .inl ((Except.mapError_eq_ok_iff _ _ _).mp found)
  case update => exact .inr ((Except.mapError_eq_ok_iff _ _ _).mp found)
  case delete => exact .inr ((Except.mapError_eq_ok_iff _ _ _).mp found)

/-- The path of a request for an object is its address up to a mark. -/
theorem path_of_isFor (about : call.IsFor kind id) (built : ofCall call = .ok request) :
    request.path = upToMark (addressOf kind id) := by
  rcases target?_of_isFor about built with target | target
  · exact upToMark_of_target? target
  · exact (upToMark_of_target? target).trans (upToMark_append_query _)

/-- The part up to a mark of a list that begins with a namespace and a slash. -/
theorem takeWhile_spaced (space rest : List Char) :
    (space ++ '/' :: rest).takeWhile isPathChar =
      if space.all isPathChar then space ++ '/' :: rest.takeWhile isPathChar
      else space.takeWhile isPathChar := by
  split
  · rename_i plain
    rw [List.takeWhile_append_of_pos (List.all_eq_true.mp plain)]
    rfl
  · rename_i marked
    exact takeWhile_append_of_marked (mt List.all_eq_true.mpr marked) _

/-- A namespace that is not cut off by a mark is followed by a slash, and one that is cut off is not. -/
theorem append_slash_ne_takeWhile {space : List Char} (unslashed : '/' ∉ space) (cs rest : List Char) :
    cs ++ '/' :: rest ≠ space.takeWhile isPathChar := by
  intro same
  have slash : '/' ∈ space.takeWhile isPathChar := by
    rw [← same]
    exact List.mem_append_right _ (List.mem_cons_self ..)
  exact unslashed ((List.takeWhile_sublist _).subset slash)

/-- Text without marks that is put in after both of two namespaces tells nothing apart. -/
theorem takeWhile_spaced_eq_iff {space space' mid : List Char} (unslashed : '/' ∉ space)
    (unslashed' : '/' ∉ space') (plain : ∀ c ∈ mid, isPathChar c = true) (rest rest' : List Char) :
    (space ++ '/' :: (mid ++ rest)).takeWhile isPathChar =
        (space' ++ '/' :: (mid ++ rest')).takeWhile isPathChar ↔
      (space ++ '/' :: rest).takeWhile isPathChar = (space' ++ '/' :: rest').takeWhile isPathChar := by
  simp only [takeWhile_spaced, List.takeWhile_append_of_pos plain]
  -- whether a mark cuts off what comes after the one namespace and the other
  split <;> split
  · rw [ResourceId.append_slash_inj unslashed unslashed', ResourceId.append_slash_inj unslashed unslashed',
      List.append_cancel_left_eq]
  · exact iff_of_false (append_slash_ne_takeWhile unslashed' _ _) (append_slash_ne_takeWhile unslashed' _ _)
  · exact iff_of_false (append_slash_ne_takeWhile unslashed _ _).symm
      (append_slash_ne_takeWhile unslashed _ _).symm
  · exact Iff.rfl

/-- Two objects of a kind have addresses that are the same up to a mark exactly if the written forms of
their ids are. -/
theorem upToMark_addressOf_eq_iff (kind : Kind) (unslashed : '/' ∉ id.space.toList)
    (unslashed' : '/' ∉ id'.space.toList) :
    upToMark (addressOf kind id) = upToMark (addressOf kind id') ↔ upToMark id.text = upToMark id'.text := by
  rw [upToMark_eq_iff, toList_addressOf, toList_addressOf,
    List.takeWhile_append_of_pos (isPathChar_front kind),
    List.takeWhile_append_of_pos (isPathChar_front kind), List.append_cancel_left_eq,
    takeWhile_spaced_eq_iff unslashed unslashed' (isPathChar_middle kind), upToMark_eq_iff,
    ResourceId.toList_text, ResourceId.toList_text]

theorem upToMark_text (plain : id.IsPlain) : upToMark id.text = id.text := by
  apply String.toList_injective
  rw [toList_upToMark, ResourceId.toList_text, takeWhile_spaced, if_pos (List.all_eq_true.mpr plain.space),
    List.takeWhile_eq_self_iff.mpr plain.name]

theorem upToMark_addressOf (plain : id.IsPlain) : upToMark (addressOf kind id) = addressOf kind id := by
  apply String.toList_injective
  rw [toList_upToMark, List.takeWhile_eq_self_iff, toList_addressOf]
  simp only [List.forall_mem_append, List.forall_mem_cons]
  exact ⟨isPathChar_front kind, plain.space, rfl, isPathChar_middle kind, plain.name⟩

/-- **The paths of requests tell ids apart up to a mark.** Take two ids that were read, and a get, an update
or a deletion for each, of one kind. The two paths are the same exactly if the written ids are the same up
to the first question mark or number sign in them. So ids that have no such mark are told apart, and the
path of each ends in its own namespace and name. -/
theorem paths_tell_ids {s s' : String} (read : ResourceId.ofText s = .ok id)
    (read' : ResourceId.ofText s' = .ok id') (about : call.IsFor kind id) (about' : call'.IsFor kind id')
    (built : ofCall call = .ok request) (built' : ofCall call' = .ok request') :
    (request.path = request'.path ↔ upToMark s = upToMark s') ∧
      (id.IsPlain → request.path = kind.collectionPath id.space ++ "/" ++ id.name) ∧
      (id.IsPlain → id'.IsPlain → id ≠ id' → request.path ≠ request'.path) := by
  obtain ⟨rfl, legible⟩ := ResourceId.ofText?_eq_some_iff.mp (ResourceId.ofText_eq_ok_iff.mp read)
  obtain ⟨rfl, legible'⟩ := ResourceId.ofText?_eq_some_iff.mp (ResourceId.ofText_eq_ok_iff.mp read')
  have same : request.path = request'.path ↔ upToMark id.text = upToMark id'.text := by
    rw [path_of_isFor about built, path_of_isFor about' built']
    exact upToMark_addressOf_eq_iff kind legible.space legible'.space
  refine ⟨same, fun plain => ?_, fun plain plain' distinct => ?_⟩
  · rw [path_of_isFor about built, upToMark_addressOf plain]
    rfl
  · rw [Ne, same, upToMark_text plain, upToMark_text plain']
    intro written
    exact distinct (ResourceId.eq_of_text_eq legible.space legible'.space written)

/-- The reads of two machines. -/
theorem paths_tell_ids_of_machines :
    let id : ResourceId := ⟨"n", "a"⟩
    let id' : ResourceId := ⟨"n", "a-b"⟩
    let machines := "/apis/kubevirt.io/v1/namespaces/n/virtualmachines"
    let read : Request := ⟨"GET", machines ++ "/a", none, none, none⟩
    let read' : Request := ⟨"GET", machines ++ "/a-b", none, none, none⟩
    ofCall (.get .virtualMachine id) = .ok read ∧ ofCall (.get .virtualMachine id') = .ok read' ∧
      read.path = machines ++ "/a" ∧ read.path ≠ read'.path := by
  intro id id' machines read read'
  have labelled : id.IsLabelled :=
    ⟨by decide, List.all_eq_true.mp (by decide), List.all_eq_true.mp (by decide)⟩
  have labelled' : id'.IsLabelled :=
    ⟨by decide, List.all_eq_true.mp (by decide), List.all_eq_true.mp (by decide)⟩
  have built : ofCall (.get .virtualMachine id) = .ok read := ofCall_get labelled (by decide)
  have built' : ofCall (.get .virtualMachine id') = .ok read' := ofCall_get labelled' (by decide)
  have parsed : ResourceId.ofText "n/a" = .ok id := rfl
  have parsed' : ResourceId.ofText "n/a-b" = .ok id' := rfl
  obtain ⟨-, path, apart⟩ := paths_tell_ids parsed parsed' .get .get built built'
  have plain : id.IsPlain := ⟨List.all_eq_true.mp (by decide), List.all_eq_true.mp (by decide)⟩
  have plain' : id'.IsPlain := ⟨List.all_eq_true.mp (by decide), List.all_eq_true.mp (by decide)⟩
  exact ⟨built, built', path plain, apart plain plain' (by decide)⟩

/-- A read under the id of another machine is the read of the one whose name ends before the mark. -/
theorem paths_meet :
    let id : ResourceId := ⟨"n", "a"⟩
    let id' : ResourceId := ⟨"n", "a#b"⟩
    let read : Request := ⟨"GET", "/apis/kubevirt.io/v1/namespaces/n/virtualmachines/a", none, none, none⟩
    ResourceId.ofText "n/a" = .ok id ∧ ResourceId.ofText "n/a#b" = .ok id' ∧ id ≠ id' ∧
      ofCall (.get .virtualMachine id) = .ok read ∧ ofCall (.get .virtualMachine id') = .ok read := by
  intro id id' read
  have labelled : id.IsLabelled :=
    ⟨by decide, List.all_eq_true.mp (by decide), List.all_eq_true.mp (by decide)⟩
  have fits : (addressOf .virtualMachine id').utf8ByteSize ≤ targetLimit := by decide
  have unmarked : '#' ∉ (addressOf .virtualMachine id).toList := by decide
  have target : target? (addressOf .virtualMachine id') = .ok (addressOf .virtualMachine id) := by
    calc
      target? (addressOf .virtualMachine id') = target? (addressOf .virtualMachine id) :=
        target?_fragment unmarked "b" fits
      _ = .ok (addressOf .virtualMachine id) :=
        target?_of_address (isAddressChar_addressOf _ labelled) (by decide)
  have built' : ofCall (.get .virtualMachine id') = .ok read := by
    simp only [ofCall, objectAddress_of_named .virtualMachine (by decide : id'.name ≠ ""), target,
      Except.mapError, bind, Except.bind]
    rfl
  exact ⟨rfl, rfl, by decide, ofCall_get labelled (by decide), built'⟩

end Request

end VirtLifecycle
