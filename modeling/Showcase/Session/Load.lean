import Showcase.Session.State

/-!
# Steps of loads

A load does its work up to the next place where it has to wait: a gate that is not open, or requests that are made
together, whose replies come in two steps. A load that was cancelled makes no further request and ends at its next step.
-/

namespace Showcase.Session

open Network

variable {σ : Type}

/-- Do work up to the next place where it has to wait. -/
def advance (answer : σ → Request → Reply × σ) (opened : List String) : Remote Component → σ → LoadStage × σ
  | .done result, host => (.ended (.finished result), host)
  | .send request resume, host =>
    advance answer opened (resume (answer host request).1) (answer host request).2
  | .together requests resume, host => (.sending requests resume, host)
  | .wait gate rest, host => if opened.contains gate then advance answer opened rest host else (.gated gate rest, host)

/-- End a load; what watches it becomes due. -/
def endLoad (session : Session σ) (load : Nat) (state : Load) (ending : Ending) : Session σ :=
  (session.setLoad load { state with stage := .ended ending }).enqueue state.watchers

/-- Cancel a load that is not over. One that waits at a gate becomes due. -/
def cancelLoad (session : Session σ) (load : Nat) : Session σ :=
  match session.loads[load]? with
  | none => session
  | some state =>
    match state.stage with
    | .ended _ => session
    | .gated _ rest =>
      (session.setLoad load { state with stage := .ready rest, cancelled := true }).enqueue [.step load]
    | _ => session.setLoad load { state with cancelled := true }

/-- The next step of a load. -/
def stepLoad (answer : σ → Request → Reply × σ) (session : Session σ) (load : Nat) : Session σ :=
  match session.loads[load]? with
  | none => session
  | some state =>
    match state.stage with
    | .ended _ => session
    | .gated _ _ => session
    | .ready rest =>
      if state.cancelled then session.endLoad load state .cancelled
      else
        match advance answer session.opened rest session.host with
        | (.ended ending, host) => ({ session with host := host }).endLoad load state ending
        | (.gated gate rest, host) =>
          ({ session with host := host }).setLoad load { state with stage := .gated gate rest }
        -- what is left is requests that are made together
        | (stage, host) =>
          (({ session with host := host }).setLoad load { state with stage := stage }).enqueue [.step load]
    | .sending requests resume =>
      -- a load that was cancelled asks nothing, and ends once it is ready
      if state.cancelled then
        (session.setLoad load { state with stage := .gathering (resume []) }).enqueue [.step load]
      else
        let (replies, host) := Remote.answerAll answer session.host requests
        (({ session with host := host }).setLoad load { state with stage := .gathering (resume replies) }).enqueue
          [.step load]
    | .gathering rest => (session.setLoad load { state with stage := .ready rest }).enqueue [.step load]

/-- Open one gate for one load. -/
def passGate (gate : String) (session : Session σ) (load : Nat) : Session σ :=
  match session.loads[load]? with
  | some state =>
    match state.stage with
    | .gated own rest =>
      if own = gate then (session.setLoad load { state with stage := .ready rest }).enqueue [.step load] else session
    | _ => session
  | none => session

/-- Open a gate for good. Loads that wait there become due. -/
def openGate (session : Session σ) (gate : String) : Session σ :=
  (List.range session.loads.length).foldl (passGate gate) { session with opened := gate :: session.opened }

end Showcase.Session
