/-
Module: VirtLifecycle.Proofs.Manifest.Acceptance
Purpose: Which documents are manifests, and what is wrong with the others. The kind is looked at first, then
  the version, then everything else. A version is compared only if it is a text: any other value passes
  for one.
Main exports: Manifest.GivesText, Manifest.Judged, Manifest.ofNode_eq_iff, Manifest.told_by_kind_and_version
-/
import VirtLifecycle.Manifest

namespace VirtLifecycle

open Yaml (Node)

/-- A kind is found under its own name, letter by letter, and under no other. -/
theorem Kind.ofName?_eq_some_iff {name : String} {kind : Kind} :
    ofName? name = some kind ↔ kind.name = name := by
  constructor
  · intro found
    have same := List.find?_some found
    exact eq_of_beq same
  · rintro rfl
    exact ofName?_name kind

theorem Kind.ofName?_eq_none_iff {name : String} :
    ofName? name = none ↔ ∀ kind : Kind, kind.name ≠ name := by
  simp only [Option.eq_none_iff_forall_ne_some, ne_eq, ofName?_eq_some_iff]

namespace Manifest

variable {document : Node} {kind : Kind} {result : Except LifecycleError Manifest}

/-- The document gives a text under a key, perhaps with a tag. -/
def GivesText (document : Node) (key text : String) : Prop :=
  ∃ value, document.find? key = some value ∧ value.text? = some text

/-- The document gives no version, or that of the kind. -/
def HasVersionOf (document : Node) (kind : Kind) : Prop :=
  document.find? "apiVersion" = none ∨ GivesText document "apiVersion" kind.apiVersion

/-- The document gives no version, or gives a text for it. -/
def StatesVersion (document : Node) : Prop :=
  document.find? "apiVersion" = none ∨ ∃ version, GivesText document "apiVersion" version

/-- The document gives no text for a version other than that of the kind. -/
def PassesVersion (document : Node) (kind : Kind) : Prop :=
  ∀ version, GivesText document "apiVersion" version → version = kind.apiVersion

/-- What reading a document comes to. -/
inductive Judged (document : Node) : Except LifecycleError Manifest → Prop where
  | missingKind (nameless : ∀ name, ¬ GivesText document "kind" name) :
      Judged document (.error (.manifest .missingKind))
  | unsupportedKind {name : String} (given : GivesText document "kind" name)
      (other : ∀ kind : Kind, kind.name ≠ name) :
      Judged document (.error (.manifest (.unsupportedKind name)))
  | wrongVersion {kind : Kind} {version : String} (named : GivesText document "kind" kind.name)
      (given : GivesText document "apiVersion" version) (other : version ≠ kind.apiVersion) :
      Judged document (.error (.manifest (.wrongVersion kind version)))
  | undecodable {kind : Kind} (named : GivesText document "kind" kind.name)
      (passes : PassesVersion document kind) (fails : Resource.decode? kind document = none) :
      Judged document (.error .yaml)
  | accepted {kind : Kind} {object : Resource kind} (named : GivesText document "kind" kind.name)
      (passes : PassesVersion document kind) (read : Resource.decode? kind document = some object) :
      Judged document (.ok ⟨kind, object⟩)

/-! ### Texts under keys -/

theorem givesText_iff {key text : String} :
    GivesText document key text ↔ (document.find? key).bind Node.text? = some text :=
  Option.bind_eq_some_iff.symm

theorem not_givesText_iff {key : String} :
    (∀ text, ¬ GivesText document key text) ↔ (document.find? key).bind Node.text? = none := by
  simp only [givesText_iff, Option.eq_none_iff_forall_ne_some, ne_eq]

theorem GivesText.unique {key text other : String} (given : GivesText document key text)
    (given' : GivesText document key other) : text = other :=
  Option.some.inj ((givesText_iff.mp given).symm.trans (givesText_iff.mp given'))

/-- A version that is a text passes only if it is that of the kind. -/
theorem passesVersion_iff (stated : StatesVersion document) :
    PassesVersion document kind ↔ HasVersionOf document kind := by
  constructor
  · intro passes
    rcases stated with absent | ⟨version, given⟩
    · exact .inl absent
    · exact .inr (passes version given ▸ given)
  · rintro (absent | given) version given'
    · obtain ⟨value, found, -⟩ := given'
      cases absent.symm.trans found
    · exact given'.unique given

/-- Whatever is no text passes for a version. -/
theorem passesVersion_of_not_statesVersion (unstated : ¬ StatesVersion document) (kind : Kind) :
    PassesVersion document kind := fun version given =>
  absurd (.inr ⟨version, given⟩) unstated

/-! ### Judgements -/

/-- The kind that is named is the one that the document is read as. -/
theorem ofNode_of_named (named : GivesText document "kind" kind.name) :
    ofNode document = ofKind kind document := by
  rw [ofNode, givesText_iff.mp named]
  simp only [Kind.ofName?_name]

/-- If the version passes, all depends on the rest of the document. -/
theorem ofKind_of_passes (passes : PassesVersion document kind) :
    ofKind kind document =
      match Resource.decode? kind document with
      | some object => .ok ⟨kind, object⟩
      | none => .error .yaml := by
  unfold ofKind
  cases told : (document.find? "apiVersion").bind Node.text? with
  | none => rfl
  | some version => exact if_pos (passes version (givesText_iff.mpr told))

theorem judged_of_named (named : GivesText document "kind" kind.name) :
    Judged document (ofNode document) := by
  rw [ofNode_of_named named]
  by_cases passes : PassesVersion document kind
  · rw [ofKind_of_passes passes]
    cases read : Resource.decode? kind document with
    | none => exact .undecodable named passes read
    | some object => exact .accepted named passes read
  · obtain ⟨version, refused⟩ := Classical.not_forall.mp passes
    obtain ⟨given, other⟩ := Classical.not_imp.mp refused
    rw [ofKind, givesText_iff.mp given]
    simp only [if_neg other]
    exact .wrongVersion named given other

/-- Every document is judged as the rules say. The cases are those of the rules: what is given under the key
of the kind, and under that of the version. -/
theorem judged_ofNode (document : Node) : Judged document (ofNode document) := by
  cases told : (document.find? "kind").bind Node.text? with
  | none =>
    rw [ofNode, told]
    exact .missingKind (not_givesText_iff.mpr told)
  | some name =>
    have given : GivesText document "kind" name := givesText_iff.mpr told
    cases known : Kind.ofName? name with
    | none =>
      rw [ofNode, told]
      simp only [known]
      exact .unsupportedKind given (Kind.ofName?_eq_none_iff.mp known)
    | some kind => exact judged_of_named ((Kind.ofName?_eq_some_iff.mp known).symm ▸ given)

theorem Judged.ofNode_eq (judged : Judged document result) : ofNode document = result := by
  cases judged with
  | missingKind nameless => rw [ofNode, not_givesText_iff.mp nameless]
  | unsupportedKind given other =>
    rw [ofNode, givesText_iff.mp given]
    simp only [Kind.ofName?_eq_none_iff.mpr other]
  | @wrongVersion kind version named given other =>
    rw [ofNode_of_named named, ofKind, givesText_iff.mp given]
    exact if_neg other
  | @undecodable kind named passes fails =>
    rw [ofNode_of_named named, ofKind_of_passes passes, fails]
  | @accepted kind object named passes read =>
    rw [ofNode_of_named named, ofKind_of_passes passes, read]

/-- **Reading a document comes to what it is judged to be.** -/
theorem ofNode_eq_iff : ofNode document = result ↔ Judged document result := by
  constructor
  · rintro rfl
    exact judged_ofNode document
  · exact Judged.ofNode_eq

/-! ### Acceptance -/

/-- What a document of a named kind and a version that passes comes to. -/
theorem ofNode_eq_ok_iff {manifest : Manifest} :
    ofNode document = .ok manifest ↔ GivesText document "kind" manifest.kind.name ∧
      PassesVersion document manifest.kind ∧
      Resource.decode? manifest.kind document = some manifest.object := by
  rw [ofNode_eq_iff]
  constructor
  · rintro (_ | _ | _ | _ | ⟨named, passes, read⟩)
    exact ⟨named, passes, read⟩
  · rintro ⟨named, passes, read⟩
    exact .accepted named passes read

/-- A document of some kind whose version passes is refused for its contents just if they do not decode. -/
theorem ofNode_eq_yaml_iff :
    ofNode document = .error .yaml ↔ ∃ kind : Kind, GivesText document "kind" kind.name ∧
      PassesVersion document kind ∧ Resource.decode? kind document = none := by
  rw [ofNode_eq_iff]
  constructor
  · rintro (_ | _ | _ | ⟨named, passes, fails⟩ | _)
    exact ⟨_, named, passes, fails⟩
  · rintro ⟨kind, named, passes, fails⟩
    exact .undecodable named passes fails

/-- The kind or the version is at fault, whatever else there is in the document. -/
theorem ofNode_eq_fault_iff :
    (∃ fault, ofNode document = .error (.manifest fault)) ↔
      (∀ kind : Kind, ¬ GivesText document "kind" kind.name) ∨
        ∃ kind : Kind, GivesText document "kind" kind.name ∧ ¬ PassesVersion document kind := by
  simp only [ofNode_eq_iff]
  constructor
  · rintro ⟨fault, nameless | ⟨given, other⟩ | ⟨named, given, other⟩ | _ | _⟩
    · exact .inl fun kind => nameless kind.name
    · exact .inl fun kind named => other kind (named.unique given)
    · exact .inr ⟨_, named, fun passes => other (passes _ given)⟩
  · rintro (unnamed | ⟨kind, named, refused⟩)
    · by_cases nameless : ∀ name, ¬ GivesText document "kind" name
      · exact ⟨_, .missingKind nameless⟩
      · obtain ⟨name, given⟩ := Classical.not_forall_not.mp nameless
        exact ⟨_, .unsupportedKind given fun kind same => unnamed kind (same ▸ given)⟩
    · obtain ⟨version, other⟩ := Classical.not_forall.mp refused
      obtain ⟨given, other⟩ := Classical.not_imp.mp other
      exact ⟨_, .wrongVersion named given other⟩

/-- **A document is a manifest by its kind, its version and the rest, in this order.** If what it gives for
a version is a text, or it gives none: it is accepted exactly if it names one of the kinds, gives no other
version than that of the kind and is read as an object of that kind; it is faulty exactly if it names none
or gives another version, whatever the rest is; and it is undecodable otherwise. If what it gives for a
version is no text, the version does not matter. -/
theorem told_by_kind_and_version (document : Node) :
    (StatesVersion document →
      (∀ manifest, ofNode document = .ok manifest ↔
        GivesText document "kind" manifest.kind.name ∧ HasVersionOf document manifest.kind ∧
          Resource.decode? manifest.kind document = some manifest.object) ∧
      ((∃ fault, ofNode document = .error (.manifest fault)) ↔
        (∀ kind : Kind, ¬ GivesText document "kind" kind.name) ∨
          ∃ kind : Kind, GivesText document "kind" kind.name ∧ ¬ HasVersionOf document kind) ∧
      (ofNode document = .error .yaml ↔
        ∃ kind : Kind, GivesText document "kind" kind.name ∧ HasVersionOf document kind ∧
          Resource.decode? kind document = none)) ∧
    (¬ StatesVersion document → ∀ manifest, ofNode document = .ok manifest ↔
      GivesText document "kind" manifest.kind.name ∧
        Resource.decode? manifest.kind document = some manifest.object) ∧
    ∀ text, Yaml.read? text = some document → ofText text = ofNode document := by
  refine ⟨fun stated => ?_, fun unstated manifest => ?_, fun text read => ?_⟩
  · simp only [← passesVersion_iff stated]
    exact ⟨fun _ => ofNode_eq_ok_iff, ofNode_eq_fault_iff, ofNode_eq_yaml_iff⟩
  · have passes := passesVersion_of_not_statesVersion unstated manifest.kind
    rw [ofNode_eq_ok_iff]
    exact and_congr_right fun _ => and_iff_right passes
  · rw [ofText, read]

/-- A disk whose kind has a tag, once with the version of its kind, once with another one and once with a
list for a version; and an empty text. -/
theorem told_by_kind_and_version_of_disk :
    let document (version : Node) : Node := .mapping [
      (.text "apiVersion", version), (.text "kind", .tagged "!name" (.text "DataVolume")),
      (.text "metadata", .null), (.text "spec", .mapping [])]
    let disk : Resource .dataVolume := ⟨{}, {}, none⟩
    StatesVersion (document (.text "cdi.kubevirt.io/v1beta1")) ∧
      ofNode (document (.text "cdi.kubevirt.io/v1beta1")) = .ok ⟨.dataVolume, disk⟩ ∧
      StatesVersion (document (.text "cdi.kubevirt.io/v1")) ∧
      (∃ fault, ofNode (document (.text "cdi.kubevirt.io/v1")) = .error (.manifest fault)) ∧
      ¬ StatesVersion (document (.list [])) ∧
      ofNode (document (.list [])) = .ok ⟨.dataVolume, disk⟩ ∧
      Yaml.read? "" = some .null ∧ ofText "" = ofNode .null := by
  intro document disk
  have named (version : Node) : GivesText (document version) "kind" "DataVolume" := ⟨_, rfl, rfl⟩
  have given (version : String) : GivesText (document (.text version)) "apiVersion" version :=
    ⟨_, rfl, rfl⟩
  have unstated : ¬ StatesVersion (document (.list [])) := by
    rintro (absent | ⟨version, value, found, told⟩)
    · cases absent
    · cases found
      cases told
  have other : ¬ HasVersionOf (document (.text "cdi.kubevirt.io/v1")) .dataVolume := by
    rintro (absent | same)
    · cases absent
    · exact absurd ((given _).unique same) (by decide)
  obtain ⟨accepted, -⟩ := (told_by_kind_and_version (document (.text "cdi.kubevirt.io/v1beta1"))).1
    (.inr ⟨_, given _⟩)
  obtain ⟨-, faulty, -⟩ := (told_by_kind_and_version (document (.text "cdi.kubevirt.io/v1"))).1
    (.inr ⟨_, given _⟩)
  obtain ⟨-, unchecked, -⟩ := told_by_kind_and_version (document (.list []))
  obtain ⟨-, -, texts⟩ := told_by_kind_and_version .null
  refine ⟨.inr ⟨_, given _⟩, (accepted ⟨.dataVolume, disk⟩).mpr ⟨named _, .inr (given _), rfl⟩,
    .inr ⟨_, given _⟩, faulty.mpr (.inr ⟨.dataVolume, named _, other⟩), unstated,
    (unchecked unstated ⟨.dataVolume, disk⟩).mpr ⟨named _, rfl⟩, rfl, texts "" rfl⟩

/-- A machine is accepted with a number for a version, which is not the version of any kind. -/
theorem accepted_with_numbered_version :
    let document : Node := .mapping [
      (.text "apiVersion", .number (.int 1)), (.text "kind", .text "VirtualMachine"),
      (.text "metadata", .mapping [(.text "name", .text "x")]), (.text "spec", .mapping [])]
    document.find? "apiVersion" = some (.number (.int 1)) ∧
      (∀ kind, ¬ HasVersionOf document kind) ∧
      ofNode document = .ok ⟨.virtualMachine, ⟨{ name := some "x" }, {}, none⟩⟩ := by
  intro document
  refine ⟨rfl, fun kind has => ?_, rfl⟩
  rcases has with absent | ⟨value, found, told⟩
  · cases absent
  · cases found
    cases told

end Manifest

end VirtLifecycle
