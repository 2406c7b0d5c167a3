import Showcase.Network.Remote

/-!
# Computations and the replies they receive

What a computation comes to is settled by the replies that it receives, in their order; gates delay it and change nothing.
So a result is told by the replies alone, whoever gave them and whenever.
-/

namespace Showcase.Network.Remote

variable {α β : Type}

/-- The result of a computation that receives replies, with the replies that it leaves; none if there are too few. -/
def replay : Remote α → List Reply → Option (Fallible α × List Reply)
  | done result, received => some (result, received)
  | send _ _, [] => none
  | send _ resume, reply :: later => (resume reply).replay later
  | together requests resume, received =>
    if requests.length ≤ received.length then
      (resume (received.take requests.length)).replay (received.drop requests.length)
    else none
  | wait _ rest, received => rest.replay received

/-- What goes on with a value receives the replies that were left. -/
theorem replay_andThen (work : Remote α) (next : α → Remote β) (received : List Reply) :
    (work.andThen next).replay received =
      (work.replay received).bind fun
        | (.ok value, later) => (next value).replay later
        | (.error failure, later) => some (.error failure, later) := by
  induction work generalizing received with
  | done result => cases result <;> rfl
  | send request resume ih =>
    cases received with
    | nil => rfl
    | cons reply later => exact ih reply later
  | together requests resume ih =>
    simp only [andThen, replay]
    split
    · exact ih _ _
    · rfl
  | wait gate rest ih => exact ih received

/-- What follows fetches that are made together receives the replies that were not to them. -/
theorem replay_all_andThen (fetches : List (Fetch α)) (next : List (Fallible α) → Remote β) (received : List Reply) :
    ((Fetch.all fetches).andThen next).replay received =
      if (Fetch.requests fetches).length ≤ received.length then
        (next (Fetch.results fetches (received.take (Fetch.requests fetches).length))).replay
          (received.drop (Fetch.requests fetches).length)
      else none := rfl

/-- A computation comes to nothing but what is expected, whatever replies it receives. -/
def Yields (expected : Fallible α → Prop) : Remote α → Prop
  | done result => expected result
  | send _ resume => ∀ reply, (resume reply).Yields expected
  | together requests resume => ∀ replies, replies.length = requests.length → (resume replies).Yields expected
  | wait _ rest => rest.Yields expected

/-- What is expected of the results that replies lead to is expected of the computation. -/
theorem yields_of_replay {expected : Fallible α → Prop} {work : Remote α}
    (h : ∀ received result, work.replay received = some (result, []) → expected result) : work.Yields expected := by
  induction work with
  | done result => exact h [] result rfl
  | send request resume ih => exact fun reply => ih reply fun later result hlater => h (reply :: later) result hlater
  | together requests resume ih =>
    -- the replies to the requests stand before those that the rest receives
    intro replies hlength
    refine ih replies fun later result hlater => h (replies ++ later) result ?_
    rw [replay, if_pos (by simp [hlength]), ← hlength, List.take_left, List.drop_left, hlater]
  | wait gate rest ih => exact ih h

theorem Yields.mono {work : Remote α} {expected other : Fallible α → Prop} (hwork : work.Yields expected)
    (hmore : ∀ result, expected result → other result) : work.Yields other := by
  induction work with
  | done result => exact hmore result hwork
  | send request resume ih => exact fun reply => ih reply (hwork reply)
  | together requests resume ih => exact fun replies hlength => ih replies (hwork replies hlength)
  | wait gate rest ih => exact ih hwork

theorem Yields.andThen {work : Remote α} {next : α → Remote β} {first : Fallible α → Prop} {expected : Fallible β → Prop}
    (hwork : work.Yields first) (hfailure : ∀ failure, first (.error failure) → expected (.error failure))
    (hnext : ∀ value, first (.ok value) → (next value).Yields expected) : (work.andThen next).Yields expected := by
  induction work with
  | done result =>
    cases result with
    | ok value => exact hnext value hwork
    | error failure => exact hfailure failure hwork
  | send request resume ih => exact fun reply => ih reply (hwork reply)
  | together requests resume ih => exact fun replies hlength => ih replies (hwork replies hlength)
  | wait gate rest ih => exact ih hwork

/-- What goes on after an attempt goes on with anything that is expected of it. -/
theorem Yields.attempt_andThen {work : Remote α} {next : Fallible α → Remote β} {first : Fallible α → Prop}
    {expected : Fallible β → Prop} (hwork : work.Yields first) (hnext : ∀ made, first made → (next made).Yields expected) :
    (work.attempt.andThen next).Yields expected := by
  induction work with
  | done result => exact hnext result hwork
  | send request resume ih => exact fun reply => ih reply (hwork reply)
  | together requests resume ih => exact fun replies hlength => ih replies (hwork replies hlength)
  | wait gate rest ih => exact ih hwork

theorem length_answerAll {σ : Type} (answer : σ → Request → Reply × σ) (state : σ) (requests : List Request) :
    (answerAll answer state requests).1.length = requests.length := by
  induction requests generalizing state with
  | nil => rfl
  | cons request requests ih => simp [answerAll, ih]

/-- A run comes to what is expected of the computation. -/
theorem Yields.run {σ : Type} {work : Remote α} {expected : Fallible α → Prop} (hwork : work.Yields expected)
    (answer : σ → Request → Reply × σ) (state : σ) : expected (work.run answer state).1 := by
  induction work generalizing state with
  | done result => exact hwork
  | send request resume ih => exact ih _ (hwork _) _
  | together requests resume ih => exact ih _ (hwork _ (length_answerAll answer state requests)) _
  | wait gate rest ih => exact ih hwork state

/-- What is expected of each of several fetches is expected of what they come to together. -/
theorem yields_all_andThen {fetches : List (Fetch α)} {next : List (Fallible α) → Remote β} {first : Fallible α → Prop}
    {expected : Fallible β → Prop} (hfetches : ∀ fetch ∈ fetches, fetch.toRemote.Yields first)
    (hnext : ∀ results, (∀ result ∈ results, first result) → (next results).Yields expected) :
    ((Fetch.all fetches).andThen next).Yields expected := by
  rintro replies -
  refine hnext _ ?_
  induction fetches generalizing replies with
  | nil => exact nofun
  | cons fetch fetches ih =>
    obtain ⟨hfetch, hothers⟩ := List.forall_mem_cons.mp hfetches
    cases fetch with
    | ready result => exact List.forall_mem_cons.mpr ⟨hfetch, ih hothers _⟩
    | ask request read =>
      cases replies with
      | nil => exact List.forall_mem_cons.mpr ⟨hfetch _, ih hothers _⟩
      | cons reply later => exact List.forall_mem_cons.mpr ⟨hfetch reply, ih hothers later⟩

end Showcase.Network.Remote
