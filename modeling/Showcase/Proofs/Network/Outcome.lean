import Showcase.Network.Memory
import Showcase.Proofs.Network.Remote

/-!
# What a computation comes to

A host in memory that has no script replies to a request by itself, whatever it was asked before. What a computation
comes to at such a host is what its parts come to, one after the other. Results are compared apart from the words in
which a failure is told.
-/

namespace Showcase

variable {α β γ δ : Type}

/-! ## Failures apart from their words -/

/-- A failure apart from its words: of a typed failure its cause and its status are left. -/
def Failure.wordless : Failure → Failure
  | .engine error => .engine { error with message := "" }
  | .badAddress _ => .badAddress ""
  | other => other

theorem Failure.wordless_wordless (failure : Failure) : failure.wordless.wordless = failure.wordless := by
  cases failure <;> rfl

/-- A result whose failure is taken apart from its words. -/
def Fallible.wordless (result : Fallible α) : Fallible α := result.mapError Failure.wordless

@[simp] theorem wordless_ok (value : α) : Fallible.wordless (.ok value) = .ok value := rfl

theorem wordless_bind (result : Fallible α) (next : α → Fallible β) :
    Fallible.wordless (result.bind next) = result.wordless.bind fun value => (next value).wordless := by
  cases result with
  | ok value => rfl
  | error failure => rfl

theorem eq_ok_of_wordless {result : Fallible α} {value : α} (h : result.wordless = .ok value) : result = .ok value := by
  cases result with
  | ok found => exact h
  | error failure => cases h

theorem eq_error_of_wordless {result : Fallible α} {failure : Failure} (h : result.wordless = .error failure.wordless) :
    ∃ other, result = .error other ∧ other.wordless = failure.wordless := by
  cases result with
  | ok found => cases h
  | error other => exact ⟨other, rfl, Except.error.inj h⟩

/-- Of failures that are the same apart from their words both are typed, for one cause, or neither is. -/
theorem Failure.cases_of_wordless {failure other : Failure} (same : failure.wordless = other.wordless) :
    (∃ error found, failure = .engine error ∧ other = .engine found ∧ error.cause = found.cause) ∨
      (∀ error, failure ≠ .engine error) ∧ ∀ error, other ≠ .engine error := by
  by_cases htyped : ∃ error, failure = .engine error
  · obtain ⟨error, rfl⟩ := htyped
    cases other with
    | engine found =>
      have hbare : { error with message := "" } = { found with message := "" } := Failure.engine.inj same
      exact .inl ⟨error, found, rfl, rfl, (EngineError.mk.inj hbare).1⟩
    | _ => cases same
  · refine .inr ⟨fun error h => htyped ⟨error, h⟩, ?_⟩
    rintro error rfl
    cases failure with
    | engine found => exact htyped ⟨found, rfl⟩
    | _ => cases same

/-! ## Results alike -/

/-- Two results are alike: their values are related, or their failures are the same apart from their words. -/
inductive Fallible.Alike (R : α → β → Prop) : Fallible α → Fallible β → Prop where
  | ok {value : α} {other : β} (related : R value other) : Alike R (.ok value) (.ok other)
  | error {failure other : Failure} (same : failure.wordless = other.wordless) : Alike R (.error failure) (.error other)

namespace Fallible

variable {R : α → β → Prop} {S : γ → δ → Prop}

theorem alike_wordless {first : Fallible α} {second : Fallible β} :
    first.wordless.Alike R second.wordless ↔ first.Alike R second := by
  constructor
  · intro h
    cases first with
    | ok value =>
      cases second with
      | ok other =>
        cases h with
        | ok related => exact .ok related
      | error other => cases h
    | error failure =>
      cases second with
      | ok other => cases h
      | error other =>
        cases h with
        | error same =>
          rw [Failure.wordless_wordless, Failure.wordless_wordless] at same
          exact .error same
  · rintro (related | same)
    · exact .ok related
    · exact .error (by rw [Failure.wordless_wordless, Failure.wordless_wordless, same])

/-- Of results alike for equality the values are the same. -/
theorem alike_eq {first second : Fallible α} : first.Alike Eq second ↔ first.wordless = second.wordless := by
  constructor
  · rintro (rfl | same)
    · rfl
    · exact congrArg Except.error same
  · intro h
    cases first with
    | ok value =>
      cases second with
      | ok other =>
        cases h
        exact .ok rfl
      | error other => cases h
    | error failure =>
      cases second with
      | ok other => cases h
      | error other => exact .error (Except.error.inj h)

theorem alike_self (result : Fallible α) : result.Alike Eq result := alike_eq.mpr rfl

theorem Alike.imp {first : Fallible α} {second : Fallible β} (h : first.Alike R second) {R' : α → β → Prop}
    (himp : ∀ value other, R value other → R' value other) : first.Alike R' second := by
  cases h with
  | ok related => exact .ok (himp _ _ related)
  | error same => exact .error same

theorem Alike.bind {first : Fallible α} {second : Fallible β} (h : first.Alike R second) {next : α → Fallible γ}
    {other : β → Fallible δ} (hnext : ∀ value found, R value found → (next value).Alike S (other found)) :
    Alike S (first.bind next) (second.bind other) := by
  cases h with
  | ok related => exact hnext _ _ related
  | error same => exact .error same

end Fallible

namespace Network

/-! ## Hosts that reply by themselves -/

namespace Remote

/-- What a computation comes to when every request has a reply of its own. -/
def outcome (reply : Request → Reply) : Remote α → Fallible α
  | done result => result
  | send request resume => (resume (reply request)).outcome reply
  | together requests resume => (resume (requests.map reply)).outcome reply
  | wait _ rest => rest.outcome reply

variable (reply : Request → Reply)

@[simp] theorem outcome_done (result : Fallible α) : (done result).outcome reply = result := rfl

theorem outcome_andThen (work : Remote α) (next : α → Remote β) :
    (work.andThen next).outcome reply = (work.outcome reply).bind fun value => (next value).outcome reply := by
  induction work with
  | done result => cases result <;> rfl
  | send request resume ih => exact ih _
  | together requests resume ih => exact ih _
  | wait gate rest ih => exact ih

theorem outcome_attempt (work : Remote α) : work.attempt.outcome reply = .ok (work.outcome reply) := by
  induction work with
  | done result => rfl
  | send request resume ih => exact ih _
  | together requests resume ih => exact ih _
  | wait gate rest ih => exact ih

/-- What follows an attempt sees what was attempted come to its end. -/
theorem outcome_attempt_andThen (work : Remote α) (next : Fallible α → Remote β) :
    (work.attempt.andThen next).outcome reply = (next (work.outcome reply)).outcome reply := by
  rw [outcome_andThen, outcome_attempt]
  rfl

theorem answerAll_replies (requests : List Request) :
    answerAll (fun (_ : Unit) request => (reply request, ())) () requests = (requests.map reply, ()) := by
  induction requests with
  | nil => rfl
  | cons request requests ih => simp only [answerAll, ih, List.map_cons]

/-- A run against replies that depend on nothing but the requests. -/
theorem run_eq_outcome (work : Remote α) :
    (work.run (fun (_ : Unit) request => (reply request, ())) ()).1 = work.outcome reply := by
  induction work with
  | done result => rfl
  | send request resume ih => exact ih _
  | together requests resume ih =>
    rw [run, answerAll_replies]
    exact ih _
  | wait gate rest ih => exact ih

end Remote

/-! ## Computations alike -/

namespace Remote

/-- Two computations are alike, each with replies of its own: what they come to is alike. -/
def Alike (reply other : Request → Reply) (R : α → β → Prop) (work : Remote α) (copy : Remote β) : Prop :=
  (work.outcome reply).Alike R (copy.outcome other)

variable {reply other : Request → Reply} {R : α → β → Prop} {S : γ → δ → Prop}

theorem alike_done {first : Fallible α} {second : Fallible β} (h : first.Alike R second) :
    Alike reply other R (done first) (done second) := h

theorem Alike.andThen {work : Remote α} {copy : Remote β} (h : Alike reply other R work copy) {next : α → Remote γ}
    {later : β → Remote δ} (hnext : ∀ value found, R value found → Alike reply other S (next value) (later found)) :
    Alike reply other S (work.andThen next) (copy.andThen later) := by
  unfold Alike
  rw [outcome_andThen, outcome_andThen]
  exact h.bind hnext

theorem Alike.attempt_andThen {work : Remote α} {copy : Remote β} (h : Alike reply other R work copy)
    {next : Fallible α → Remote γ} {later : Fallible β → Remote δ}
    (hnext : ∀ first second, first.Alike R second → Alike reply other S (next first) (later second)) :
    Alike reply other S (work.attempt.andThen next) (copy.attempt.andThen later) := by
  unfold Alike
  rw [outcome_attempt_andThen, outcome_attempt_andThen]
  exact hnext _ _ h

end Remote

namespace Memory

/-- What a host replies to a request. -/
def replies (host : Memory) (request : Request) : Reply := host.reply request.address

/-- What a host that has no script notes does not change what it replies. -/
theorem answer_eq {host : Memory} (hscript : host.script = none) (request : Request) :
    host.answer request = (host.replies request, { host with requests := host.requests ++ [request] }) := by
  rw [answer]
  simp only [hscript]
  rfl

theorem answerAll_answer {host : Memory} (hscript : host.script = none) (requests : List Request) :
    Remote.answerAll answer host requests =
      (requests.map host.replies, { host with requests := host.requests ++ requests }) := by
  induction requests generalizing host with
  | nil => simp [Remote.answerAll]
  | cons request requests ih =>
    have hrest := @ih { host with requests := host.requests ++ [request] } hscript
    simp only [Remote.answerAll, answer_eq hscript, hrest, List.map_cons, List.append_assoc, List.singleton_append]
    rfl

/-- A run against a host that has no script comes to what its parts come to. -/
theorem run_answer {host : Memory} (hscript : host.script = none) (work : Remote α) :
    (work.run answer host).1 = work.outcome host.replies := by
  induction work generalizing host with
  | done result => rfl
  | send request resume ih =>
    rw [Remote.run, answer_eq hscript]
    exact ih _ hscript
  | together requests resume ih =>
    rw [Remote.run, answerAll_answer hscript]
    exact ih _ hscript
  | wait gate rest ih => exact ih hscript

end Memory

end Network

end Showcase
