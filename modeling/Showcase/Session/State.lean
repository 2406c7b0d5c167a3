import Showcase.Component.Basic
import Showcase.Network.Remote
import Showcase.Preview.Surface

/-!
# The state of a session

A session holds the component that was loaded last and the values that its preview shows. Components are loaded by
calls. A call starts a load of its own, and the load that was started last is the newest: a call whose load was
cancelled because a newer one started goes on to follow the newest load. What is due next stands in a queue: events are
taken from its head and added at its tail, so what became due first happens first. The requests of loads are answered by
a host.
-/

namespace Showcase

open Network

namespace Session

/-- How a load or a call ended. -/
inductive Ending where
  | finished (result : Fallible Component)
  | cancelled

/-- Something that is due. -/
inductive Event where
  /-- A call that was started begins. -/
  | begin (call : Nat)
  /-- A load takes its next step. -/
  | step (load : Nat)
  /-- A call goes on after the load it waits for has ended. -/
  | resume (call : Nat)
  /-- A call that follows a load learns that the load has ended. -/
  | relay (call : Nat)
deriving DecidableEq, Repr

/-- Where a load stands. -/
inductive LoadStage where
  /-- It has to do the rest of its work. -/
  | ready (rest : Remote Component)
  /-- It waits until a gate opens. -/
  | gated (gate : String) (rest : Remote Component)
  /-- It is about to make requests together. -/
  | sending (requests : List Request) (resume : List Reply → Remote Component)
  /-- It has the replies to requests that were made together. -/
  | gathering (rest : Remote Component)
  /-- It is over. -/
  | ended (ending : Ending)

/-- A load: where it stands, whether it was cancelled, and what becomes due when it ends. -/
structure Load where
  stage : LoadStage
  cancelled : Bool
  watchers : List Event

/-- Where a call stands. -/
inductive CallStage where
  /-- It has not begun. -/
  | unstarted (work : Remote Component)
  /-- It waits for the load that it started. -/
  | awaiting (load : Nat)
  /-- It waits for a load that another call started, and may have learnt already that the load has ended. -/
  | following (load : Nat) (informed : Bool)
  /-- It is over. -/
  | ended (ending : Ending)

/-- A call: where it stands and whether it was cancelled. -/
structure Call where
  stage : CallStage
  cancelled : Bool

end Session

/-- A session. Loads and calls are numbered in the order in which they were started. -/
structure Session (σ : Type) where
  /-- What answers the requests. -/
  host : σ
  /-- The gates that are open. -/
  opened : List String
  component : Option Component
  bindings : Bindings
  /-- The typed failure that a load ended with after the last component was loaded. -/
  lastError : Option EngineError
  surface : Preview.Surface
  loads : List Session.Load
  calls : List Session.Call
  queue : List Session.Event

namespace Session

variable {σ : Type}

/-- A session before its first load. -/
def on (host : σ) : Session σ := ⟨host, [], none, [], none, .frame, [], [], []⟩

/-- The number of the newest load. -/
def newest (session : Session σ) : Nat := session.loads.length - 1

/-- Whether a load is the newest. -/
def isNewest (session : Session σ) (load : Nat) : Bool := load + 1 == session.loads.length

/-- How a load ended, if it is over. -/
def endingOf? (session : Session σ) (load : Nat) : Option Ending :=
  match session.loads[load]? with
  | some ⟨.ended ending, _, _⟩ => some ending
  | _ => none

/-- How a call ended, if it is over. -/
def outcomeOf? (session : Session σ) (call : Nat) : Option Ending :=
  match session.calls[call]? with
  | some ⟨.ended ending, _⟩ => some ending
  | _ => none

/-- The session with events added to the queue. -/
def enqueue (session : Session σ) (events : List Event) : Session σ := { session with queue := session.queue ++ events }

/-- The session with another state of a load. -/
def setLoad (session : Session σ) (load : Nat) (state : Load) : Session σ :=
  { session with loads := session.loads.set load state }

/-- The session with another state of a call. -/
def setCall (session : Session σ) (call : Nat) (state : Call) : Session σ :=
  { session with calls := session.calls.set call state }

end Session

end Showcase
