/-
Module: VirtLifecycle.Wait.Error
Purpose: How waiting for a state can fail.
Specification: [SPEC 4.1 Condition Poller] and [SPEC 7 Error handling design]: `WaitError` with
  `Timeout`, `Probe`, `UnexpectedState` and `NotFound`.
Main exports: WaitError, WaitError.lastState, WaitError.isTimeout, WaitError.message?
-/
import VirtLifecycle.Text.Quoted
import VirtLifecycle.Time.Duration

namespace VirtLifecycle

/-- Why a wait gave up; `ε` is what a look at the resource can fail with. -/
inductive WaitError (ε : Type) where
  /-- no target state within the budget -/
  | timeout (budget : Duration) (target : List String) (lastState : Option String)
  /-- a look failed; it is not repeated -/
  | probe (cause : ε)
  /-- a state that is neither pending nor a target (`UnexpectedState`) -/
  | unexpected (state : String) (pending target : List String)
  /-- missing in more looks in a row than tolerated (`NotFound`) -/
  | missing (checks : UInt32)
deriving DecidableEq, Repr

namespace WaitError

variable {ε : Type}

/-- The last state that the error tells of (`last_state`). A failed look tells of none, whatever was seen
before it. -/
def lastState : WaitError ε → Option String
  | timeout _ _ lastState => lastState
  | unexpected state _ _ => some state
  | probe _ => none
  | missing _ => none

def isTimeout : WaitError ε → Bool
  | timeout _ _ _ => true
  | _ => false

/-- The text of the error, if its cause has one. -/
def message? (causeMessage? : ε → Option String) : WaitError ε → Option String
  | timeout budget target lastState =>
    some ("timeout while waiting for state to become " ++ Text.quoteList target ++ " (last state: '" ++
      lastState.getD "<none>" ++ "', timeout: " ++ budget.text ++ ")")
  | probe cause => (causeMessage? cause).map ("probe failed: " ++ ·)
  | unexpected state _ target =>
    some ("unexpected state '" ++ state ++ "', wanted target " ++ Text.quoteList target)
  | missing checks => some ("couldn't find resource (" ++ toString checks ++ " retries)")

end WaitError

end VirtLifecycle
