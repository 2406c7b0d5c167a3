import Showcase.Preview.Dynamic
import Showcase.Preview.Static
import Showcase.Session.Call

/-!
# Sessions

What the user of a session can do: start calls and cancel them, open gates, set values, and look at previews. Between
two of these the session may take any number of steps; `settle` takes all that are due.
-/

namespace Showcase.Session

open Network

variable {σ : Type}

/-! ## Running -/

/-- Let an event happen. -/
def handle (answer : σ → Request → Reply × σ) (session : Session σ) : Event → Session σ
  | .begin call => session.beginCall call
  | .step load => session.stepLoad answer load
  | .resume call => session.resumeCall call
  | .relay call => session.relayCall call

/-- Let the first event of the queue happen. -/
def tick (answer : σ → Request → Reply × σ) (session : Session σ) : Session σ :=
  match session.queue with
  | [] => session
  | event :: later => handle answer { session with queue := later } event

/-- Let events happen until nothing is due, at most as many as the fuel allows. -/
def settleWithin (answer : σ → Request → Reply × σ) : (fuel : Nat) → Session σ → Session σ
  | 0, session => session
  | fuel + 1, session =>
    if session.queue.isEmpty then session else settleWithin answer fuel (tick answer session)

/-- More events than can become due: a load takes a few steps, and a call follows each load once at most. -/
def eventBound (session : Session σ) : Nat :=
  let known := session.loads.length + session.calls.length + 1
  16 * known * known

/-- Let events happen until nothing is due. -/
def settle (answer : σ → Request → Reply × σ) (session : Session σ) : Session σ :=
  settleWithin answer session.eventBound session

/-! ## Acting -/

/-- Start a call that loads a component; it begins when its turn comes. Its number is the number of calls before. -/
def start (session : Session σ) (work : Remote Component) : Session σ :=
  let started : Call := ⟨.unstarted work, false⟩
  ({ session with calls := session.calls ++ [started] }).enqueue [.begin session.calls.length]

/-- Start a call that begins at once. -/
def load (session : Session σ) (work : Remote Component) : Session σ :=
  let started : Call := ⟨.unstarted work, false⟩
  ({ session with calls := session.calls ++ [started] }).beginCall session.calls.length

/-- Give a name a value. -/
def bind (session : Session σ) (name value : String) : Session σ :=
  { session with bindings := session.bindings.put name value }

/-! ## Looking -/

/-- The placeholders of the component without a value. -/
def unresolved (session : Session σ) : List String :=
  match session.component with
  | none => []
  | some component => Template.unresolved component.html session.bindings

/-- Show the static preview of the component. -/
def preview (session : Session σ) : Fallible (Option String) × Session σ :=
  match session.component with
  | none => (.ok none, session)
  | some component =>
    let renderer := Preview.StaticRenderer.on (some session.surface)
    let (shown, after) := renderer.render component.html component.css session.bindings
    (shown, { session with surface := after.surface.getD session.surface })

/-- Run the component, if it came with a script. -/
def previewLive (libraries : Preview.Libraries) (patience : Preview.Patience) (session : Session σ) :
    Fallible (Option Preview.Outcome) × Session σ :=
  match session.component.bind fun component => (Component.filled? component.script).map fun s => (component, s) with
  | none => (.ok none, session)
  | some (component, script) =>
    let (outcome, run) := Preview.renderLive libraries patience script component.css (some session.surface)
    (outcome.map some, { session with surface := run.surface.getD session.surface })

end Showcase.Session
