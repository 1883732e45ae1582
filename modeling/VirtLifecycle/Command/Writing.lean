/-
Module: VirtLifecycle.Command.Writing
Purpose: Writing to outputs. A device takes some of the bytes that it is offered, or it fails; a text is
  offered until all of it has been taken or the device fails. What has been taken stays taken, whatever
  comes after it.
Specification: [SPEC 6 External interfaces], the binary: the output that `print` and `line` write to,
  with `write_all` on it, and [SPEC 7 Error handling design], `Io`.
Main exports: Intake, Device, Device.limited, Device.write, Written, Writing, Writing.put, Writing.line
-/
import VirtLifecycle.Operation

namespace VirtLifecycle

/-- The bytes of a text. -/
def Text.bytes (s : String) : List UInt8 := s.toUTF8.data.toList

/-- What a device says to bytes: it takes the first one and so many more after it, or it fails. -/
inductive Intake where
  | takes (more : Nat)
  | fails (fault : FileFault)
deriving DecidableEq, Repr, Inhabited

/-- Something that bytes are written to: from its state and the bytes that it is offered, a first one and
others after it, it gives its answer and its next state. A device that takes nothing has failed. -/
abbrev Device (δ : Type) := δ → UInt8 → List UInt8 → Intake × δ

/-- An output that is being written: the bytes that have been taken, and the state of its device. -/
structure Written (δ : Type) where
  bytes : List UInt8
  state : δ
deriving Repr

namespace Device

/-- A device with room for so many bytes, or for all that come. -/
def limited : Device (Option Nat)
  | none, _, rest => (.takes rest.length, none)
  | some 0, _, _ => (.fails .storageFull, some 0)
  | some (room + 1), _, rest => (.takes (min room rest.length), some (room - rest.length))

/-- Offers bytes to a device until it has taken them all or fails. -/
def write {δ : Type} (device : Device δ) (written : Written δ) :
    List UInt8 → Except FileFault Unit × Written δ
  | [] => (.ok (), written)
  | first :: rest =>
    match device written.state first rest with
    | (.fails fault, state) => (.error fault, { written with state := state })
    | (.takes more, state) =>
      write device ⟨written.bytes ++ first :: rest.take more, state⟩ (rest.drop more)
termination_by bytes => bytes.length
decreasing_by
  rw [List.length_drop, List.length_cons]
  exact Nat.lt_succ_of_le (Nat.sub_le _ _)

end Device

/-- Something that is carried out while an output is written, from a given time on. It leaves the output
behind as far as it has been written, also if it fails. -/
def Writing (δ α : Type) : Type :=
  Written δ → Nat → ClusterPlan ((Except LifecycleError α × Written δ) × Nat)

namespace Writing

variable {δ α β : Type}

/-- Is done at once, and writes nothing. -/
def succeed (result : α) : Writing δ α := fun written now => .done ((.ok result, written), now)

/-- Goes on with the result of the first one, if it has one, and with the output that it leaves. -/
def andThen (first : Writing δ α) (next : α → Writing δ β) : Writing δ β := fun written now =>
  (first written now).bind fun ((result, written), now) =>
    match result with
    | .ok a => next a written now
    | .error e => .done ((.error e, written), now)

instance : Monad (Writing δ) where
  pure := succeed
  bind := andThen

/-- An operation, during which nothing is written. -/
def ofOperation (operation : Operation α) : Writing δ α := fun written now =>
  (operation now).map fun (result, now) => ((result, written), now)

instance : MonadLift Operation (Writing δ) where
  monadLift := ofOperation

/-- Writes a text. -/
def put (device : Device δ) (text : String) : Writing δ Unit := fun written now =>
  let (result, written) := device.write written (Text.bytes text)
  .done ((result.mapError .file, written), now)

/-- Writes a line. -/
def line (device : Device δ) (text : String) : Writing δ Unit := do
  put device text
  put device "\n"

end Writing

end VirtLifecycle
