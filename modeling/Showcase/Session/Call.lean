import Showcase.Session.Load

/-!
# Steps of calls

A call cancels the newest load if it still runs, starts a load of its own and waits for it. If that load succeeds as the
newest, its component becomes the component of the session. If it was cancelled in favour of a newer load, the call
follows the newest load, as long as there is a newer one, and ends as that load does. A call that is cancelled takes its
own load with it, but no load that it only follows.
-/

namespace Showcase.Session

open Network

variable {σ : Type}

/-! ## Beginning and ending -/

/-- End a call. -/
def endCall (session : Session σ) (call : Nat) (ending : Ending) : Session σ :=
  match session.calls[call]? with
  | some state => session.setCall call { state with stage := .ended ending }
  | none => session

/-- Put a call at another stage. -/
def moveCall (session : Session σ) (call : Nat) (stage : CallStage) : Session σ :=
  match session.calls[call]? with
  | some state => session.setCall call { state with stage := stage }
  | none => session

/-- Start a load that does some work; the call that starts it waits for it. -/
def startLoad (session : Session σ) (call : Nat) (work : Remote Component) : Session σ :=
  let quiet := session.cancelLoad session.newest
  let load := quiet.loads.length
  let started : Load := ⟨.ready work, false, [.resume call]⟩
  (({ quiet with loads := quiet.loads ++ [started] }).enqueue [.step load]).moveCall call (.awaiting load)

/-- Begin a call, unless it was cancelled before. -/
def beginCall (session : Session σ) (call : Nat) : Session σ :=
  match session.calls[call]? with
  | some ⟨.unstarted work, cancelled⟩ =>
    if cancelled then session.endCall call .cancelled else session.startLoad call work
  | _ => session

/-- Take over the component of a load. -/
def commit (session : Session σ) (component : Component) : Session σ :=
  { session with component := some component, bindings := component.labels, lastError := none }

/-! ## Waiting for loads -/

/-- Follow the newest load: end as it did if it is over, else wait for it. -/
def follow (session : Session σ) (call : Nat) : Session σ :=
  let load := session.newest
  match session.loads[load]? with
  | none => session
  | some state =>
    match state.stage with
    | .ended ending => session.endCall call ending
    | _ =>
      (session.setLoad load { state with watchers := state.watchers ++ [.relay call] }).moveCall call
        (.following load false)

/-- Go on after the call's own load has ended. -/
def resumeOwn (session : Session σ) (call load : Nat) (ending : Ending) : Session σ :=
  match ending with
  | .cancelled => if session.isNewest load then session.endCall call .cancelled else session.follow call
  | .finished (.error (.engine error)) =>
    ({ session with lastError := some error }).endCall call (.finished (.error (.engine error)))
  | .finished (.error failure) => session.endCall call (.finished (.error failure))
  | .finished (.ok component) =>
    if session.isNewest load then (session.commit component).endCall call (.finished (.ok component))
    -- a newer load started in the meantime, so what the session holds is returned, if it holds anything
    else session.endCall call (.finished (.ok (session.component.getD component)))

/-- Go on after a load has ended that the call follows. A load that is not the newest any more counts only if it failed
in an unexpected way. -/
def resumeFollowing (session : Session σ) (call load : Nat) (ending : Ending) : Session σ :=
  if session.isNewest load then session.endCall call ending
  else
    match ending with
    | .finished (.error (.engine _)) => session.follow call
    | .finished (.error failure) => session.endCall call (.finished (.error failure))
    | _ => session.follow call

/-- Go on after a load has ended. -/
def resumeCall (session : Session σ) (call : Nat) : Session σ :=
  match session.calls[call]? with
  | none => session
  | some state =>
    match state.stage with
    | .unstarted _ => session
    | .ended _ => session
    | .awaiting load =>
      if state.cancelled then session.endCall call .cancelled
      else
        match session.endingOf? load with
        | some ending => session.resumeOwn call load ending
        | none => session
    | .following load _ =>
      if state.cancelled then session.endCall call .cancelled
      else
        match session.endingOf? load with
        | some ending => session.resumeFollowing call load ending
        | none => session

/-- Tell a call that the load it follows has ended. -/
def relayCall (session : Session σ) (call : Nat) : Session σ :=
  match session.calls[call]? with
  | some ⟨.following load false, cancelled⟩ =>
    (session.setCall call ⟨.following load true, cancelled⟩).enqueue [.resume call]
  | _ => session

/-! ## Cancelling -/

/-- Cancel a call that is not over. Its own load is cancelled with it; a load that it follows goes on. -/
def cancelCall (session : Session σ) (call : Nat) : Session σ :=
  match session.calls[call]? with
  | none => session
  | some state =>
    let flagged := session.setCall call { state with cancelled := true }
    match state.stage with
    | .ended _ => session
    | .unstarted _ => flagged
    | .awaiting load => flagged.cancelLoad load
    | .following load informed =>
      -- a call that was told already goes on in any case, and finds then that it was cancelled
      if informed then flagged
      else (session.setCall call ⟨.following load true, true⟩).enqueue [.resume call]

end Showcase.Session
