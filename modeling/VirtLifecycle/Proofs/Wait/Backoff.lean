/-
Module: VirtLifecycle.Proofs.Wait.Backoff
Purpose: Growing pauses under any requests. Whoever asks for the next pause or lets the pauses begin
  again, in whatever order, is given the capped Fibonacci multiple of the first pause that belongs to
  the number of pauses since they last began. The bound on sums is never felt: sums of any size give
  the same answers.
Main exports: Backoff.Request, Backoff.answers, Backoff.pausesSinceRestart, Backoff.exactAnswers,
  Backoff.pauses_are_capped_multiples
-/
import VirtLifecycle.Proofs.Wait.Pauses

namespace VirtLifecycle.Backoff

/-- What can be asked of growing pauses. -/
inductive Request where
  | next
  | restart
deriving DecidableEq, Repr

/-- The pause that a request is given, if it asks for one, and the state after it. -/
def answer (b : Backoff) : Request → Option Duration × Backoff
  | .next => (some b.next.1, b.next.2)
  | .restart => (none, b.restart)

/-- The answers to requests in order. -/
def answers : Backoff → List Request → List (Option Duration)
  | _, [] => []
  | b, request :: rest => (b.answer request).1 :: answers (b.answer request).2 rest

/-- The state after requests in order. -/
def afterRequests (b : Backoff) (requests : List Request) : Backoff :=
  requests.foldl (fun b request => (b.answer request).2) b

/-- How many of the requests ask for a pause after the last one that lets the pauses begin again. -/
def pausesSinceRestart (requests : List Request) : Nat :=
  (requests.reverse.takeWhile (· = .next)).length

theorem afterRequests_append_singleton (b : Backoff) (requests : List Request) (request : Request) :
    b.afterRequests (requests ++ [request]) = ((b.afterRequests requests).answer request).2 := by
  simp [afterRequests]

theorem pausesSinceRestart_append_next (requests : List Request) :
    pausesSinceRestart (requests ++ [.next]) = pausesSinceRestart requests + 1 := by
  simp [pausesSinceRestart]

theorem pausesSinceRestart_append_restart (requests : List Request) :
    pausesSinceRestart (requests ++ [.restart]) = 0 := by
  simp [pausesSinceRestart]

variable {least most : Duration} {requests : List Request} {i j : Nat}

/-- A request for a pause counts itself. -/
theorem pausesSinceRestart_take_succ (asked : requests[i]? = some .next) :
    pausesSinceRestart (requests.take (i + 1)) = pausesSinceRestart (requests.take i) + 1 := by
  rw [List.take_add_one, asked, Option.toList_some, pausesSinceRestart_append_next]

theorem pausesSinceRestart_le_of_no_restart (upTo : i ≤ j)
    (asked : ∀ m, i < m → m ≤ j → requests[m]? = some .next) :
    pausesSinceRestart (requests.take (i + 1)) ≤ pausesSinceRestart (requests.take (j + 1)) := by
  induction j, upTo using Nat.le_induction with
  | base => exact Nat.le_refl _
  | succ j upTo ih =>
    have before := ih fun m after low => asked m after (Nat.le_succ_of_le low)
    have last := asked (j + 1) (Nat.lt_succ_of_le upTo) (Nat.le_refl _)
    rw [pausesSinceRestart_take_succ last]
    exact Nat.le_succ_of_le before

/-! ### The answers in closed form -/

/-- Each request is answered from the state that those before it leave. -/
theorem getElem?_answers (b : Backoff) (requests : List Request) (i : Nat) :
    (b.answers requests)[i]? =
      requests[i]?.map fun request => ((b.afterRequests (requests.take i)).answer request).1 := by
  induction requests generalizing b i with
  | nil => rfl
  | cons first rest ih =>
    cases i with
    | zero => rfl
    | succ i => exact ih (b.answer first).2 i

/-- All that requests leave behind is the number of pauses since the last restart. -/
theorem afterRequests_start (least most : Duration) (requests : List Request) :
    (start least most).afterRequests requests = after least most (pausesSinceRestart requests) := by
  induction requests using List.reverseRecOn with
  | nil => rfl
  | append_singleton requests request ih =>
    rw [afterRequests_append_singleton, ih]
    cases request with
    | next =>
      rw [pausesSinceRestart_append_next]
      rfl
    | restart =>
      rw [pausesSinceRestart_append_restart]
      exact restart_after least most _

/-- A pause that is asked for is the one after as many pauses as were asked for since the restart. -/
theorem answers_of_next (asked : requests[i]? = some .next) :
    ((start least most).answers requests)[i]? =
      some (some (after least most (pausesSinceRestart (requests.take i))).current) := by
  rw [getElem?_answers, asked, afterRequests_start]
  rfl

/-- A pause that is asked for is the Fibonacci multiple of the least one, or the bound. -/
theorem nanos_of_answers {d : Duration} (asked : requests[i]? = some .next)
    (given : ((start least most).answers requests)[i]? = some (some d)) :
    d.nanos =
      min (Nat.fib (pausesSinceRestart (requests.take (i + 1))) * least.nanos) most.nanos := by
  rw [answers_of_next asked, Option.some_inj, Option.some_inj] at given
  rw [← given, pausesSinceRestart_take_succ asked]
  exact (nanos_after least most _).2

/-! ### Sums without a bound -/

/-- The answers in nanoseconds if sums could be of any size; `previous` and `current` are the two values
that are remembered. -/
def exactAnswers (least most previous current : Nat) : List Request → List (Option Nat)
  | [] => []
  | .next :: rest =>
    some current :: exactAnswers least most current (min (previous + current) most) rest
  | .restart :: rest => none :: exactAnswers least most 0 (min least most) rest

/-- The bound on sums is not felt, since a sum beyond it is cut off at a smaller one anyway. -/
theorem map_nanos_answers (b : Backoff) (requests : List Request) :
    (b.answers requests).map (Option.map Duration.nanos) =
      exactAnswers b.least.nanos b.most.nanos b.previous.nanos b.current.nanos requests := by
  induction requests generalizing b with
  | nil => rfl
  | cons first rest ih =>
    cases first with
    | next =>
      have sum : b.next.2.current.nanos =
          min (b.previous.nanos + b.current.nanos) b.most.nanos := by
        have capIsSpan := b.most.nanos_le
        rw [next, Duration.nanos_least, Duration.nanos_add]
        omega
      rw [answers, List.map_cons, ih, exactAnswers, ← sum]
      rfl
    | restart =>
      have first : b.restart.current.nanos = min b.least.nanos b.most.nanos :=
        Duration.nanos_least _ _
      rw [answers, List.map_cons, ih, exactAnswers, ← first]
      rfl

/-- **Growing pauses are capped Fibonacci multiples of the first one.** Whatever has been asked before,
the `k`-th pause since they last began is the `k`-th Fibonacci number times the first pause, cut off at
the bound; so it is neither above the bound nor below the smaller of the two, and pauses do not get
shorter unless they begin again. All answers are those that sums of any size give. -/
theorem pauses_are_capped_multiples (least most : Duration) (requests : List Request) :
    (∀ i : Nat, requests[i]? = some .next →
      ∃ d : Duration, ((start least most).answers requests)[i]? = some (some d) ∧
        d.nanos =
          min (Nat.fib (pausesSinceRestart (requests.take (i + 1))) * least.nanos) most.nanos ∧
        d.nanos ≤ most.nanos ∧ min least.nanos most.nanos ≤ d.nanos) ∧
      (∀ (i j : Nat) (d e : Duration), i ≤ j → (∀ m, i ≤ m → m ≤ j → requests[m]? = some .next) →
        ((start least most).answers requests)[i]? = some (some d) →
        ((start least most).answers requests)[j]? = some (some e) → d.nanos ≤ e.nanos) ∧
      ((start least most).answers requests).map (Option.map Duration.nanos) =
        exactAnswers least.nanos most.nanos 0 (min least.nanos most.nanos) requests := by
  refine ⟨?_, ?_, ?_⟩
  · intro i asked
    have given : ((start least most).answers requests)[i]? =
        some (some (after least most (pausesSinceRestart (requests.take i))).current) :=
      answers_of_next asked
    have closed := nanos_of_answers asked given
    have counted := pausesSinceRestart_take_succ asked
    have positive : 0 < Nat.fib (pausesSinceRestart (requests.take (i + 1))) := by
      rw [counted]
      exact Nat.fib_pos.mpr (Nat.succ_pos _)
    have multiple : least.nanos ≤
        Nat.fib (pausesSinceRestart (requests.take (i + 1))) * least.nanos :=
      Nat.le_mul_of_pos_left _ positive
    refine ⟨_, given, closed, ?_, ?_⟩
    · rw [closed]
      exact Nat.min_le_right _ _
    · rw [closed]
      exact min_le_min multiple (Nat.le_refl _)
  · intro i j d e upTo asked given later
    have fewer := pausesSinceRestart_le_of_no_restart upTo
      fun m after low => asked m (Nat.le_of_lt after) low
    rw [nanos_of_answers (asked i (Nat.le_refl i) upTo) given,
      nanos_of_answers (asked j upTo (Nat.le_refl j)) later]
    exact min_le_min (Nat.mul_le_mul_right _ (Nat.fib_mono fewer)) (Nat.le_refl _)
  · have first : (start least most).current.nanos = min least.nanos most.nanos :=
      Duration.nanos_least _ _
    rw [map_nanos_answers, first]
    rfl

/-- The longest pauses, whose sums stop at the longest span, and shorter ones that begin again. -/
theorem pauses_are_capped_multiples_of_longest :
    let requests : List Request := [.next, .next, .next, .restart, .next]
    requests[2]? = some .next ∧
      ((start .max .max).answers requests)[2]? = some (some .max) ∧
      ∃ first third, ((start (.ofSeconds 2) (.ofSeconds 3)).answers requests)[0]? = some (some first) ∧
        ((start (.ofSeconds 2) (.ofSeconds 3)).answers requests)[2]? = some (some third) ∧
        first.nanos ≤ third.nanos ∧ third.nanos = 3000000000 := by
  intro requests
  have asked : ∀ m ≤ 2, requests[m]? = some .next := by decide
  have third : requests[2]? = some .next := asked 2 (by decide)
  have count : pausesSinceRestart (requests.take 3) = 3 := rfl
  obtain ⟨longest, given, length, -⟩ := (pauses_are_capped_multiples .max .max requests).1 2 third
  obtain ⟨pauses, grow, -⟩ := pauses_are_capped_multiples (.ofSeconds 2) (.ofSeconds 3) requests
  obtain ⟨d, atFirst, -⟩ := pauses 0 (asked 0 (by decide))
  obtain ⟨e, atThird, length', -⟩ := pauses 2 third
  rw [count] at length length'
  have longestIsMax : longest = .max := Duration.ext length
  rw [longestIsMax] at given
  have cut : min (Nat.fib 3 * (Duration.ofSeconds 2).nanos) (Duration.ofSeconds 3).nanos = 3000000000 :=
    rfl
  exact ⟨third, given, d, e, atFirst, atThird,
    grow 0 2 d e (by decide) (fun m _ low => asked m low) atFirst atThird, length'.trans cut⟩

end VirtLifecycle.Backoff
