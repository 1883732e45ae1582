/-
Module: VirtLifecycle.Proofs.Command.Writing
Purpose: What devices take of texts. A device that takes the next so many bytes and then fails may take them
  in pieces of any size: of texts that are written one after another it takes exactly the first bytes, and
  the writing succeeds exactly if there is room for all of them.
Main exports: Device.HasRoom, Device.Taken, Device.taken_write, Device.writeAll, Device.taken_writeAll,
  Device.hasRoom_limited, Writing.puts, Writing.put_bind_puts
-/
import VirtLifecycle.Command.Writing

namespace VirtLifecycle

theorem Text.bytes_append (s t : String) : bytes (s ++ t) = bytes s ++ bytes t := by
  simp only [bytes, String.toUTF8_eq_toByteArray, String.toByteArray_append, ByteArray.toList_data_append]

namespace Device

variable {δ : Type} {device : Device δ} {n : Nat} {state : δ} {before bytes : List UInt8}

/-- The device takes the next `n` bytes that it is offered, in pieces of any size, and then fails. -/
inductive HasRoom (device : Device δ) : Nat → δ → Prop where
  | intro {n : Nat} {state : δ}
      (fails_full : ∀ first rest fault next, device state first rest = (.fails fault, next) → n = 0)
      (takes_within : ∀ first rest more next, device state first rest = (.takes more, next) →
        more < n ∧ more ≤ rest.length)
      (less_after : ∀ first rest more next, device state first rest = (.takes more, next) →
        HasRoom device (n - (more + 1)) next) :
      HasRoom device n state

/-- A device with limited room takes as many bytes as that. -/
theorem hasRoom_limited (n : Nat) : limited.HasRoom n (some n) := by
  induction n using Nat.strongRecOn with
  | _ n ih =>
    cases n with
    | zero => exact .intro (fun _ _ _ _ _ => rfl) (fun _ _ _ _ => nofun) (fun _ _ _ _ => nofun)
    | succ room =>
      refine .intro (fun _ _ _ _ => nofun) ?_ ?_
      · rintro first rest more next ⟨⟩
        omega
      · rintro first rest more next ⟨⟩
        have left : room + 1 - (min room rest.length + 1) = room - rest.length := by omega
        rw [left]
        exact ih _ (by omega)

/-! ### Writing -/

theorem write_nil (device : Device δ) (written : Written δ) :
    device.write written [] = (.ok (), written) := by
  rw [write]

theorem write_of_fails {first : UInt8} {rest : List UInt8} {fault : FileFault} {next : δ}
    (answer : device state first rest = (.fails fault, next)) :
    device.write ⟨before, state⟩ (first :: rest) = (.error fault, ⟨before, next⟩) := by
  rw [write, answer]

theorem write_of_takes {first : UInt8} {rest : List UInt8} {more : Nat} {next : δ}
    (answer : device state first rest = (.takes more, next)) :
    device.write ⟨before, state⟩ (first :: rest) =
      device.write ⟨before ++ first :: rest.take more, next⟩ (rest.drop more) := by
  rw [write, answer]

/-- What writing comes to where there is room for `n` bytes: all are taken, or the first `n` of them and
there are more. -/
inductive Taken (device : Device δ) (n : Nat) (before bytes : List UInt8) :
    Except FileFault Unit × Written δ → Prop where
  | whole {next : δ} (fits : bytes.length ≤ n) (left : device.HasRoom (n - bytes.length) next) :
      Taken device n before bytes (.ok (), ⟨before ++ bytes, next⟩)
  | cut {fault : FileFault} {next : δ} (short : n < bytes.length) :
      Taken device n before bytes (.error fault, ⟨before ++ bytes.take n, next⟩)

theorem taken_nil (room : device.HasRoom n state) : device.Taken n before [] (.ok (), ⟨before, state⟩) := by
  have whole : device.Taken n before [] (.ok (), ⟨before ++ [], state⟩) := .whole (Nat.zero_le n) room
  rwa [List.append_nil] at whole

/-- Going on after some bytes have been taken. -/
theorem Taken.after {more : List UInt8} {left : Except FileFault Unit × Written δ}
    (within : bytes.length ≤ n) (h : device.Taken (n - bytes.length) (before ++ bytes) more left) :
    device.Taken n before (bytes ++ more) left := by
  cases h with
  | @whole next fits left =>
    have whole : (bytes ++ more).length = bytes.length + more.length := List.length_append
    rw [List.append_assoc]
    refine .whole (by omega) ?_
    rwa [whole, ← Nat.sub_sub]
  | @cut fault next short =>
    have whole : (bytes ++ more).length = bytes.length + more.length := List.length_append
    have taken : bytes ++ more.take (n - bytes.length) = (bytes ++ more).take n := by
      rw [List.take_append, List.take_of_length_le within]
    rw [List.append_assoc, taken]
    exact .cut (by omega)

/-- Of bytes that are written a device takes as many as it has room for. -/
theorem taken_write (room : device.HasRoom n state) (before bytes : List UInt8) :
    device.Taken n before bytes (device.write ⟨before, state⟩ bytes) := by
  induction room generalizing before bytes with
  | @intro n state fails_full takes_within less_after ih =>
    cases bytes with
    | nil =>
      rw [write_nil]
      exact taken_nil (.intro fails_full takes_within less_after)
    | cons first rest =>
      rcases answer : device state first rest with ⟨more | fault, next⟩
      · obtain ⟨within, offered⟩ := takes_within _ _ _ _ answer
        have taken : (first :: rest.take more).length = more + 1 := by
          rw [List.length_cons, List.length_take, Nat.min_eq_left offered]
        have later := ih _ _ _ _ answer (before ++ first :: rest.take more) (rest.drop more)
        rw [← taken] at later
        have whole := later.after (by omega)
        rwa [List.cons_append, List.take_append_drop, ← write_of_takes answer] at whole
      · obtain rfl := fails_full _ _ _ _ answer
        have cut : device.Taken 0 before (first :: rest) (.error fault, ⟨before ++ [], next⟩) :=
          .cut (Nat.succ_pos rest.length)
        rwa [List.append_nil, ← write_of_fails answer] at cut

/-- Writes texts one after another until the device fails. -/
def writeAll (device : Device δ) (written : Written δ) : List String → Except FileFault Unit × Written δ
  | [] => (.ok (), written)
  | text :: texts =>
    match device.write written (Text.bytes text) with
    | (.ok (), written) => writeAll device written texts
    | (.error fault, written) => (.error fault, written)

/-- Of texts that are written one after another a device takes as many bytes as it has room for. -/
theorem taken_writeAll (room : device.HasRoom n state) (before : List UInt8) (texts : List String) :
    device.Taken n before (texts.flatMap Text.bytes) (device.writeAll ⟨before, state⟩ texts) := by
  induction texts generalizing n before state with
  | nil => exact taken_nil room
  | cons text texts ih =>
    have first := taken_write room before (Text.bytes text)
    rw [writeAll, List.flatMap_cons]
    generalize device.write ⟨before, state⟩ (Text.bytes text) = left at first
    cases first with
    | whole fits left => exact (ih left _).after fits
    | cut short =>
      rw [← List.take_append_of_le_length (Nat.le_of_lt short)]
      refine .cut ?_
      rw [List.length_append]
      exact Nat.lt_add_right _ short

end Device

namespace Writing

variable {δ α β : Type} (device : Device δ)

/-- How it goes on after what came before it. -/
def resume (next : α → Writing δ β) :
    (Except LifecycleError α × Written δ) × Nat → ClusterPlan ((Except LifecycleError β × Written δ) × Nat)
  | ((.ok a, written), now) => next a written now
  | ((.error e, written), now) => .done ((.error e, written), now)

/-- One writing after another goes on from the output and the time that the first one leaves. -/
theorem bind_apply (first : Writing δ α) (next : α → Writing δ β) (written : Written δ) (now : Nat) :
    (first >>= next) written now = (first written now).bind (resume next) := by
  apply congrArg (first written now).bind
  funext ⟨⟨result, written⟩, now⟩
  cases result with
  | ok a => rfl
  | error e => rfl

theorem bind_assoc {γ : Type} (first : Writing δ α) (next : α → Writing δ β) (last : β → Writing δ γ) :
    (first >>= next) >>= last = first >>= fun a => next a >>= last := by
  funext written now
  rw [bind_apply, bind_apply, bind_apply, Plan.bind_assoc]
  congr 1
  funext ⟨⟨result, written⟩, now⟩
  cases result with
  | ok a => exact (bind_apply (next a) last written now).symm
  | error e => rfl

/-- Writes texts one after another. -/
def puts (texts : List String) : Writing δ Unit := fun written now =>
  let (result, written) := device.writeAll written texts
  .done ((result.mapError .file, written), now)

/-- A text is written, and others after it if the device has taken it. -/
theorem put_bind_puts (text : String) (texts : List String) :
    (put device text >>= fun _ => puts device texts) = puts device (text :: texts) := by
  funext written now
  rw [bind_apply, put, puts, Device.writeAll]
  rcases device.write written (Text.bytes text) with ⟨fault | ⟨⟩, written⟩
  · rfl
  · rfl

theorem put_eq_puts (text : String) : put device text = puts device [text] := by
  funext written now
  rw [put, puts, Device.writeAll]
  rcases device.write written (Text.bytes text) with ⟨fault | ⟨⟩, written⟩
  · rfl
  · rfl

/-- To write a line is to put the text and then its end, which are two offers to the device. -/
theorem line_eq_puts (text : String) : line device text = puts device [text, "\n"] := by
  rw [line, put_eq_puts device "\n"]
  exact put_bind_puts device text ["\n"]

/-- A line and texts after it are texts in a row, so what a command tells is one list of texts. -/
theorem line_bind_puts (text : String) (texts : List String) :
    (line device text >>= fun _ => puts device texts) = puts device (text :: "\n" :: texts) := by
  rw [line, bind_assoc, put_bind_puts, put_bind_puts]

end Writing

end VirtLifecycle
