import Mathlib.Data.List.Forall2
import Showcase.Network.Remote

/-!
# Running remote computations

What a run of a composed computation is, in terms of the runs of its parts.
-/

namespace Showcase.Network

namespace Remote

variable {α β σ : Type}

@[simp] theorem run_done (answer : σ → Request → Reply × σ) (result : Fallible α) (state : σ) :
    (done result).run answer state = (result, state) := rfl

/-- A computation that goes on with a value goes on where the run to the value ended. -/
theorem run_andThen (answer : σ → Request → Reply × σ) (work : Remote α) (next : α → Remote β) (state : σ) :
    (work.andThen next).run answer state =
      match work.run answer state with
      | (.ok value, after) => (next value).run answer after
      | (.error failure, after) => (.error failure, after) := by
  induction work generalizing state with
  | done result => cases result <;> rfl
  | send request resume ih => exact ih _ _
  | together requests resume ih => exact ih _ _
  | wait gate rest ih => exact ih state

/-- An attempt never fails: the failure is its value. -/
theorem run_attempt (answer : σ → Request → Reply × σ) (work : Remote α) (state : σ) :
    work.attempt.run answer state = (.ok (work.run answer state).1, (work.run answer state).2) := by
  induction work generalizing state with
  | done result => rfl
  | send request resume ih => exact ih _ _
  | together requests resume ih => exact ih _ _
  | wait gate rest ih => exact ih state

/-- What follows an attempt sees the result of it. -/
theorem run_attempt_andThen (answer : σ → Request → Reply × σ) (work : Remote α) (next : Fallible α → Remote β)
    (state : σ) :
    (work.attempt.andThen next).run answer state =
      (next (work.run answer state).1).run answer (work.run answer state).2 := by
  rw [run_andThen, run_attempt]

end Remote

@[simp] theorem Fetch.run_ask {α σ : Type} (answer : σ → Request → Reply × σ) (request : Request)
    (read : Reply → Fallible α) (state : σ) :
    (Fetch.ask request read).toRemote.run answer state =
      (read (answer state request).1, (answer state request).2) := rfl

@[simp] theorem Fetch.run_ready {α σ : Type} (answer : σ → Request → Reply × σ) (result : Fallible α) (state : σ) :
    (Fetch.ready result).toRemote.run answer state = (result, state) := rfl

/-! ## Requests made together -/

namespace Remote

variable {σ : Type}

/-- A host that keeps account of the requests that it answers. -/
def noting (answer : σ → Request → Reply × σ) (state : σ × List Request) (request : Request) :
    Reply × (σ × List Request) :=
  ((answer state.1 request).1, (answer state.1 request).2, state.2 ++ [request])

theorem answerAll_noting (answer : σ → Request → Reply × σ) (state : σ) (noted requests : List Request) :
    answerAll (noting answer) (state, noted) requests =
      ((answerAll answer state requests).1, (answerAll answer state requests).2, noted ++ requests) := by
  induction requests generalizing state noted with
  | nil => simp [answerAll]
  | cons request requests ih => simp [answerAll, noting, ih]

end Remote

/-- What follows fetches that are made together sees what they come to. -/
theorem Fetch.run_all_andThen {α β σ : Type} (answer : σ → Request → Reply × σ) (fetches : List (Fetch α))
    (next : List (Fallible α) → Remote β) (state : σ) :
    ((Fetch.all fetches).andThen next).run answer state =
      (next (Fetch.results fetches (Remote.answerAll answer state (Fetch.requests fetches)).1)).run answer
        (Remote.answerAll answer state (Fetch.requests fetches)).2 := rfl

/-- Fetches that are made together come to what each of them comes to, if that does not depend on what else is asked. -/
theorem Fetch.results_of_each {α σ : Type} {answer : σ → Request → Reply × σ} {state : σ} {fetches : List (Fetch α)}
    {outcomes : List (Fallible α)}
    (h : List.Forall₂ (fun fetch outcome => ∀ asked : List Request,
      (fetch.toRemote.run answer (Remote.answerAll answer state asked).2).1 = outcome) fetches outcomes) :
    Fetch.results fetches (Remote.answerAll answer state (Fetch.requests fetches)).1 = outcomes := by
  induction fetches generalizing state outcomes with
  | nil =>
    cases h
    rfl
  | cons fetch fetches ih =>
    obtain ⟨outcome, outcomes, hfetch, hfetches, rfl⟩ := List.forall₂_cons_left_iff.mp h
    cases fetch with
    | ready result =>
      obtain rfl : result = outcome := hfetch []
      exact congrArg (result :: ·) (ih hfetches)
    | ask request read =>
      obtain rfl : read (answer state request).1 = outcome := hfetch []
      -- the later fetches are made in the state that the first request leaves
      exact congrArg (read (answer state request).1 :: ·)
        (ih (hfetches.imp fun _ _ hlater asked => hlater (request :: asked)))

/-! ## What may be sent -/

namespace Remote

variable {α β σ : Type} {allowed : Request → Prop}

/-- Every request that a computation may send is allowed, whatever the replies are. -/
def Sends (allowed : Request → Prop) : Remote α → Prop
  | done _ => True
  | send request resume => allowed request ∧ ∀ reply, (resume reply).Sends allowed
  | together requests resume => (∀ request ∈ requests, allowed request) ∧ ∀ replies, (resume replies).Sends allowed
  | wait _ rest => rest.Sends allowed

theorem Sends.andThen {work : Remote α} {next : α → Remote β} (hwork : work.Sends allowed)
    (hnext : ∀ value, (next value).Sends allowed) : (work.andThen next).Sends allowed := by
  induction work with
  | done result =>
    cases result with
    | ok value => exact hnext value
    | error failure => trivial
  | send request resume ih => exact ⟨hwork.1, fun reply => ih reply (hwork.2 reply)⟩
  | together requests resume ih => exact ⟨hwork.1, fun replies => ih replies (hwork.2 replies)⟩
  | wait gate rest ih => exact ih hwork

theorem Sends.attempt {work : Remote α} (hwork : work.Sends allowed) : work.attempt.Sends allowed := by
  induction work with
  | done result => trivial
  | send request resume ih => exact ⟨hwork.1, fun reply => ih reply (hwork.2 reply)⟩
  | together requests resume ih => exact ⟨hwork.1, fun replies => ih replies (hwork.2 replies)⟩
  | wait gate rest ih => exact ih hwork

/-- What a host notes in a run of a computation is allowed. -/
theorem Sends.noted {work : Remote α} (hwork : work.Sends allowed) (answer : σ → Request → Reply × σ) (state : σ)
    {noted : List Request} (hnoted : ∀ request ∈ noted, allowed request) :
    ∀ request ∈ (work.run (noting answer) (state, noted)).2.2, allowed request := by
  induction work generalizing state noted with
  | done result => exact hnoted
  | send request resume ih =>
    refine ih _ (hwork.2 _) _ fun other hother => ?_
    rcases List.mem_append.mp hother with hold | hnew
    · exact hnoted other hold
    · rw [List.mem_singleton.mp hnew]
      exact hwork.1
  | together requests resume ih =>
    have hall : ∀ request ∈ noted ++ requests, allowed request := List.forall_mem_append.mpr ⟨hnoted, hwork.1⟩
    rw [run, answerAll_noting]
    exact ih _ (hwork.2 _) _ hall
  | wait gate rest ih => exact ih hwork state hnoted

end Remote

namespace Fetch

variable {α : Type} {allowed : Request → Prop}

theorem sends_toRemote {fetch : Fetch α} (h : ∀ request ∈ requests [fetch], allowed request) :
    fetch.toRemote.Sends allowed := by
  cases fetch with
  | ready result => trivial
  | ask request read => exact ⟨h request (List.mem_singleton.mpr rfl), fun _ => trivial⟩

theorem mem_requests {fetches : List (Fetch α)} {request : Request} :
    request ∈ requests fetches ↔ ∃ fetch ∈ fetches, request ∈ requests [fetch] := by
  simp only [requests, List.mem_filterMap, List.mem_singleton, exists_eq_left]

theorem sends_all {fetches : List (Fetch α)} (h : ∀ fetch ∈ fetches, ∀ request ∈ requests [fetch], allowed request) :
    (all fetches).Sends allowed := by
  refine ⟨fun request hrequest => ?_, fun _ => trivial⟩
  obtain ⟨fetch, hfetch, hasked⟩ := mem_requests.mp hrequest
  exact h fetch hfetch request hasked

end Fetch

end Showcase.Network
