import Showcase.Proofs.Network.Remote

/-!
# Computations apart from tokens

A request without the token that it bears is still a request. A host that does not look at tokens cannot tell the one
from the other: a computation whose requests are taken without their tokens runs against it as before, and only the
requests that the host notes differ.
-/

namespace Showcase.Network

/-- A request without the token that it bears. -/
def Request.unsigned (request : Request) : Request := { request with token := none }

namespace Remote

variable {α β σ : Type}

/-- A computation whose requests bear no tokens. -/
def unsigned : Remote α → Remote α
  | done result => done result
  | send request resume => send request.unsigned fun reply => (resume reply).unsigned
  | together requests resume => together (requests.map Request.unsigned) fun replies => (resume replies).unsigned
  | wait gate rest => wait gate rest.unsigned

@[simp] theorem unsigned_done (result : Fallible α) : (done result).unsigned = done result := rfl

theorem unsigned_andThen (work : Remote α) (next : α → Remote β) :
    (work.andThen next).unsigned = work.unsigned.andThen fun value => (next value).unsigned := by
  induction work with
  | done result => cases result <;> rfl
  | send request resume ih => simp only [andThen, unsigned, ih]
  | together requests resume ih => simp only [andThen, unsigned, ih]
  | wait gate rest ih => simp only [andThen, unsigned, ih]

theorem unsigned_attempt (work : Remote α) : work.attempt.unsigned = work.unsigned.attempt := by
  induction work with
  | done result => rfl
  | send request resume ih => simp only [attempt, unsigned, ih]
  | together requests resume ih => simp only [attempt, unsigned, ih]
  | wait gate rest ih => simp only [attempt, unsigned, ih]

/-- A host whose replies do not depend on tokens. -/
def IsBlind (host : σ → Request → Reply × σ) : Prop :=
  ∀ state request, host state request.unsigned = host state request

theorem IsBlind.answerAll {host : σ → Request → Reply × σ} (hblind : IsBlind host) (state : σ)
    (requests : List Request) :
    answerAll host state (requests.map Request.unsigned) = answerAll host state requests := by
  induction requests generalizing state with
  | nil => rfl
  | cons request requests ih => simp only [List.map_cons, Remote.answerAll, hblind state request, ih]

/-- A run against a host that notes requests, apart from the tokens in them. -/
def apart (run : Fallible α × σ × List Request) : Fallible α × σ × List Request :=
  (run.1, run.2.1, run.2.2.map Request.unsigned)

/-- A host that is blind to tokens runs a computation in the same way without them. -/
theorem IsBlind.run_unsigned {host : σ → Request → Reply × σ} (hblind : IsBlind host) (work : Remote α) (state : σ)
    (noted : List Request) :
    work.unsigned.run (noting host) (state, noted.map Request.unsigned) =
      apart (work.run (noting host) (state, noted)) := by
  induction work generalizing state noted with
  | done result => rfl
  | send request resume ih =>
    have hnoted : noted.map Request.unsigned ++ [request.unsigned] = (noted ++ [request]).map Request.unsigned := by
      rw [List.map_append, List.map_singleton]
    simp only [unsigned, run, noting, hblind state request, hnoted]
    exact ih _ _ _
  | together requests resume ih =>
    simp only [unsigned, run, answerAll_noting, hblind.answerAll, ← List.map_append]
    exact ih _ _ _
  | wait gate rest ih => exact ih _ _

/-- So computations that are one apart from their tokens run alike against it. -/
theorem IsBlind.apart_run {host : σ → Request → Reply × σ} (hblind : IsBlind host) {work other : Remote α}
    (same : work.unsigned = other.unsigned) (state : σ) :
    apart (work.run (noting host) (state, [])) = apart (other.run (noting host) (state, [])) := by
  rw [← hblind.run_unsigned work state [], same, hblind.run_unsigned other state []]

end Remote

end Showcase.Network
