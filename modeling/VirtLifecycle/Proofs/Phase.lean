/-
Module: VirtLifecycle.Proofs.Phase
Purpose: Phases and their spellings. Reading a text as a phase loses nothing: the phase is spelled as the
  text. A phase is read again from its spelling exactly if it is not an undocumented phase with the
  spelling of a documented one, and such phases are never read. So the phase that an object is in tells
  what it reports, but not whether it reports the empty text or nothing.
Main exports: FaithfulSpelling, faithfulSpelling_of_tables, InstancePhase.faithfulSpelling,
  DataVolumePhase.faithfulSpelling, phases_keep_their_spellings
-/
import VirtLifecycle.Proofs.Resource.Phase

namespace VirtLifecycle

/-- Texts are read as phases without loss, and only as phases that are read again from their spelling.
The documented phases have the given spellings, and `other` makes a phase of any text. -/
structure FaithfulSpelling {Phase : Type} (spellings : List String) (ofText : String → Phase)
    (text : Phase → String) (other : String → Phase) : Prop where
  lossless : ∀ s, text (ofText s) = s
  again_iff : ∀ phase, ofText (text phase) = phase ↔ ∀ s ∈ spellings, phase ≠ other s
  eq_other_iff : ∀ s t, ofText s = other t ↔ s = t ∧ t ∉ spellings

/-- Two tables, one from texts to phases and one back, are faithful if they invert each other on the
documented phases, and every text that is the spelling of none of these is kept. -/
theorem faithfulSpelling_of_tables {Phase : Type} {documented : List Phase} {ofText : String → Phase}
    {text : Phase → String} {other : String → Phase}
    (again : ∀ phase ∈ documented, ofText (text phase) = phase)
    (kept : ∀ s, s ∉ documented.map text → ofText s = other s)
    (spelled : ∀ t, text (other t) = t) (apart : ∀ t, other t ∉ documented)
    (cover : ∀ phase, phase ∈ documented ∨ ∃ t, phase = other t) :
    FaithfulSpelling (documented.map text) ofText text other where
  lossless s := by
    by_cases known : s ∈ documented.map text
    · obtain ⟨phase, mem, rfl⟩ := List.mem_map.mp known
      rw [again phase mem]
    · rw [kept s known, spelled]
  again_iff phase := by
    rcases cover phase with mem | ⟨t, rfl⟩
    · refine iff_of_true (again phase mem) ?_
      rintro t - rfl
      exact apart t mem
    · rw [spelled]
      constructor
      · rintro same s known equal
        obtain ⟨phase, mem, rfl⟩ := List.mem_map.mp known
        have t_eq : t = text phase := by
          rw [← spelled t, equal, spelled]
        rw [t_eq, again phase mem] at same
        exact apart _ (same ▸ mem)
      · exact fun new => kept t fun known => new t known rfl
  eq_other_iff s t := by
    constructor
    · intro read
      by_cases known : s ∈ documented.map text
      · obtain ⟨phase, mem, rfl⟩ := List.mem_map.mp known
        rw [again phase mem] at read
        exact absurd (read ▸ mem) (apart t)
      · have same : s = t := by
          rw [kept s known] at read
          rw [← spelled s, read, spelled]
        exact ⟨same, same ▸ known⟩
    · rintro ⟨rfl, new⟩
      exact kept s new

theorem FaithfulSpelling.ofText_inj {Phase : Type} {spellings : List String} {ofText : String → Phase}
    {text : Phase → String} {other : String → Phase} (h : FaithfulSpelling spellings ofText text other)
    {s t : String} : ofText s = ofText t ↔ s = t := by
  constructor
  · intro same
    rw [← h.lossless s, same, h.lossless]
  · rintro rfl
    rfl

/-- The two tables of a running machine's phases, of eight spellings each, invert each other. -/
theorem InstancePhase.faithfulSpelling :
    FaithfulSpelling Kind.virtualMachineInstance.documentedPhases ofText text other := by
  have again : ∀ phase ∈ documented, ofText (text phase) = phase := by decide
  refine faithfulSpelling_of_tables again (fun s => ofText_of_undocumented) (fun _ => rfl) ?_ ?_
  · exact fun _ => by simp [documented]
  · intro phase
    cases phase with
    | other s => exact .inr ⟨s, rfl⟩
    | _ => exact .inl (by decide)

/-- The two tables of a disk's phases, of fourteen spellings each, invert each other. -/
theorem DataVolumePhase.faithfulSpelling :
    FaithfulSpelling Kind.dataVolume.documentedPhases ofText text other := by
  have again : ∀ phase ∈ documented, ofText (text phase) = phase := by decide
  refine faithfulSpelling_of_tables again (fun s => ofText_of_undocumented) (fun _ => rfl) ?_ ?_
  · exact fun _ => by simp [documented]
  · intro phase
    cases phase with
    | other s => exact .inr ⟨s, rfl⟩
    | _ => exact .inl (by decide)

namespace Resource

/-- A machine that reports no phase is in the phase of one that reports the empty text. -/
theorem instancePhase_eq_ofText (r : Resource .virtualMachineInstance) :
    r.instancePhase = .ofText (r.rawPhase?.getD "") := by
  rw [instancePhase, rawPhase?]
  cases r.status.bind InstanceStatus.phase with
  | none => rfl
  | some phase => rfl

theorem dataVolumePhase_eq_ofText (r : Resource .dataVolume) :
    r.dataVolumePhase = .ofText (r.rawPhase?.getD "") := by
  rw [dataVolumePhase, rawPhase?]
  cases r.status.bind DataVolumeStatus.phase with
  | none => rfl
  | some phase => rfl

end Resource

/-- **Phases keep their spellings.** Running machines and disks spell every phase that is read from a text
as that text; a phase is read again from its spelling unless it is an undocumented one with a documented
spelling, and no text is read as one of those. Two objects are in one phase exactly if they report the same
one, where it is all the same whether the empty text is reported or nothing. -/
theorem phases_keep_their_spellings :
    FaithfulSpelling Kind.virtualMachineInstance.documentedPhases
        InstancePhase.ofText InstancePhase.text InstancePhase.other ∧
      FaithfulSpelling Kind.dataVolume.documentedPhases
        DataVolumePhase.ofText DataVolumePhase.text DataVolumePhase.other ∧
      (∀ r r' : Resource .virtualMachineInstance,
        r.instancePhase = r'.instancePhase ↔ r.rawPhase?.getD "" = r'.rawPhase?.getD "") ∧
      ∀ r r' : Resource .dataVolume,
        r.dataVolumePhase = r'.dataVolumePhase ↔ r.rawPhase?.getD "" = r'.rawPhase?.getD "" := by
  refine ⟨InstancePhase.faithfulSpelling, DataVolumePhase.faithfulSpelling, fun r r' => ?_, fun r r' => ?_⟩
  · rw [r.instancePhase_eq_ofText, r'.instancePhase_eq_ofText]
    exact InstancePhase.faithfulSpelling.ofText_inj
  · rw [r.dataVolumePhase_eq_ofText, r'.dataVolumePhase_eq_ofText]
    exact DataVolumePhase.faithfulSpelling.ofText_inj

end VirtLifecycle
