import Showcase.Address.Basic
import Showcase.Network.Body

/-!
# Remote computations

What is computed with the help of a remote host is a sequence of requests, each of which may depend on the replies
before it, and a result that may be a failure. Some requests are made together: none of them depends on the replies to
the others. A computation may also have to wait at a gate. It says nothing about how requests are answered and when
gates open; `Remote.run` answers requests one after the other and finds every gate open.
-/

namespace Showcase.Network

/-! ## Requests and replies -/

/-- How a request is made. -/
inductive Method where
  | get
  | post
deriving DecidableEq, Repr

/-- The word for how a request is made. -/
def Method.name : Method → String
  | get => "GET"
  | post => "POST"

/-- A request, with what its sender says in it. -/
structure Request where
  method : Method
  address : Address
  token : Option String
  accept : Option String
  userAgent : Option String
  body : Option Json

/-- A reply: none, for a reason, or a status and a body. -/
inductive Reply where
  | failed (message : String)
  | answered (status : Int) (body : Body)

/-- Whether a status is one of success. -/
def isSuccess (status : Int) : Bool := 200 ≤ status && status < 300

/-! ## Computations -/

/-- A computation with requests. -/
inductive Remote (α : Type) where
  | done (result : Fallible α)
  | send (request : Request) (resume : Reply → Remote α)
  | together (requests : List Request) (resume : List Reply → Remote α)
  | wait (gate : String) (rest : Remote α)

namespace Remote

/-- Go on with the value of a computation; a failure ends the whole. -/
def andThen {α β : Type} : Remote α → (α → Remote β) → Remote β
  | done (.ok value), next => next value
  | done (.error failure), _ => done (.error failure)
  | send request resume, next => send request fun reply => (resume reply).andThen next
  | together requests resume, next => together requests fun replies => (resume replies).andThen next
  | wait gate rest, next => wait gate (rest.andThen next)

instance : Monad Remote where
  pure value := done (.ok value)
  bind := andThen

/-- A result without requests. -/
def ofFallible {α : Type} (result : Fallible α) : Remote α := done result

/-- The result of a computation as a value, a failure included. -/
def attempt {α : Type} : Remote α → Remote (Fallible α)
  | done result => done (.ok result)
  | send request resume => send request fun reply => (resume reply).attempt
  | together requests resume => together requests fun replies => (resume replies).attempt
  | wait gate rest => wait gate rest.attempt

/-- Answer requests one after the other; `state` is what the answers depend on. -/
def answerAll {σ : Type} (answer : σ → Request → Reply × σ) : σ → List Request → List Reply × σ
  | state, [] => ([], state)
  | state, request :: requests =>
    let (reply, next) := answer state request
    let (replies, last) := answerAll answer next requests
    (reply :: replies, last)

/-- Run a computation against something that answers requests. -/
def run {α σ : Type} (answer : σ → Request → Reply × σ) : Remote α → σ → Fallible α × σ
  | done result, state => (result, state)
  | send request resume, state =>
    let (reply, next) := answer state request
    run answer (resume reply) next
  | together requests resume, state =>
    let (replies, next) := answerAll answer state requests
    run answer (resume replies) next
  | wait _ rest, state => run answer rest state

end Remote

/-! ## Fetches -/

/-- A computation with one request at most. -/
inductive Fetch (α : Type) where
  | ready (result : Fallible α)
  | ask (request : Request) (read : Reply → Fallible α)

namespace Fetch

/-- A fetch as a computation. -/
def toRemote {α : Type} : Fetch α → Remote α
  | ready result => .done result
  | ask request read => .send request fun reply => .done (read reply)

/-- The requests of fetches. -/
def requests {α : Type} (fetches : List (Fetch α)) : List Request :=
  fetches.filterMap fun
    | ready _ => none
    | ask request _ => some request

/-- The results of fetches, given the replies to their requests in order. -/
def results {α : Type} : List (Fetch α) → List Reply → List (Fallible α)
  | [], _ => []
  | ready result :: fetches, replies => result :: results fetches replies
  | ask _ read :: fetches, reply :: replies => read reply :: results fetches replies
  | ask _ read :: fetches, [] => read (.failed "") :: results fetches []

/-- Make fetches together; the failure of one is no failure of the others. -/
def all {α : Type} (fetches : List (Fetch α)) : Remote (List (Fallible α)) :=
  .together (requests fetches) fun replies => .done (.ok (results fetches replies))

end Fetch

end Showcase.Network
