import Showcase.Session.Basic

/-!
# Runs of a session

A session moves when its user acts or when an event that is due happens. Code that runs between two waits is one move,
so a run is a list of moves. Which event happens next is left open: a move names a place in the queue. Runs in order
take the first place each time, which is how events are taken when a session settles.
-/

namespace Showcase.Session

open Network

variable {σ : Type}

/-! ## Moves -/

/-- What can happen next to a session. -/
inductive Move where
  /-- A call is started that begins when its turn comes. -/
  | start (work : Remote Component)
  /-- A call is started that begins at once. -/
  | load (work : Remote Component)
  /-- A call is cancelled. -/
  | cancel (call : Nat)
  | openGate (gate : String)
  | bind (name value : String)
  | preview
  | previewLive (libraries : Preview.Libraries) (patience : Preview.Patience)
  /-- The event at a place of the queue happens. -/
  | happen (place : Nat)

/-- Whether a move takes no event before its turn. -/
def Move.isInOrder : Move → Bool
  | happen place => place == 0
  | _ => true

/-- Let the event at a place of the queue happen. -/
def happen (answer : σ → Request → Reply × σ) (session : Session σ) (place : Nat) : Session σ :=
  match session.queue[place]? with
  | none => session
  | some event => handle answer { session with queue := session.queue.eraseIdx place } event

/-- Make a move. -/
def take (answer : σ → Request → Reply × σ) (session : Session σ) : Move → Session σ
  | .start work => session.start work
  | .load work => session.load work
  | .cancel call => session.cancelCall call
  | .openGate gate => session.openGate gate
  | .bind name value => session.bind name value
  | .preview => session.preview.2
  | .previewLive libraries patience => (session.previewLive libraries patience).2
  | .happen place => session.happen answer place

/-- The event that a move makes happen, if it does so. -/
def cause (session : Session σ) : Move → Option Event
  | .happen place => session.queue[place]?
  | _ => none

/-- The session without the event that a move makes happen. -/
def dequeue (session : Session σ) : Move → Session σ
  | .happen place => { session with queue := session.queue.eraseIdx place }
  | _ => session

/-- Make moves one after the other. -/
def play (answer : σ → Request → Reply × σ) (session : Session σ) (moves : List Move) : Session σ :=
  moves.foldl (take answer) session

@[simp] theorem play_nil (answer : σ → Request → Reply × σ) (session : Session σ) : play answer session [] = session :=
  rfl

theorem play_cons (answer : σ → Request → Reply × σ) (session : Session σ) (move : Move) (moves : List Move) :
    play answer session (move :: moves) = play answer (take answer session move) moves :=
  rfl

theorem take_of_cause (answer : σ → Request → Reply × σ) {session : Session σ} {move : Move} {event : Event}
    (hcause : session.cause move = some event) :
    take answer session move = handle answer (session.dequeue move) event := by
  cases move with
  | happen place =>
    simp only [cause] at hcause
    simp only [take, happen, hcause, dequeue]
  | _ => cases hcause

theorem dequeue_calls (session : Session σ) (move : Move) : (session.dequeue move).calls = session.calls := by
  cases move <;> rfl

theorem dequeue_loads (session : Session σ) (move : Move) : (session.dequeue move).loads = session.loads := by
  cases move <;> rfl

/-- A move that takes no event before its turn takes the first one of the queue. -/
theorem cause_append_dequeue (session : Session σ) {move : Move} (hmove : move.isInOrder = true) :
    (session.cause move).toList ++ (session.dequeue move).queue = session.queue := by
  cases move with
  | happen place =>
    have hplace : place = 0 := by simpa [Move.isInOrder] using hmove
    subst hplace
    simp only [cause, dequeue]
    rcases session.queue with _ | ⟨event, later⟩ <;> rfl
  | _ => rfl

/-- What each move of a run preserves, the run preserves. -/
theorem play_induction {P : Session σ → Prop} (answer : σ → Request → Reply × σ) (session : Session σ)
    (moves : List Move) (hstep : ∀ session, ∀ move ∈ moves, P session → P (take answer session move))
    (h : P session) : P (play answer session moves) := by
  induction moves generalizing session with
  | nil => exact h
  | cons move moves ih =>
    rw [play_cons]
    refine ih _ (fun session later hlater => hstep session later (List.mem_cons_of_mem move hlater)) ?_
    exact hstep session move List.mem_cons_self h

/-! ## Who started a load -/

/-- Whether a load is over. -/
def LoadStage.isOver : LoadStage → Bool
  | ended _ => true
  | _ => false

/-- Whether a call is over. -/
def CallStage.isOver : CallStage → Bool
  | ended _ => true
  | _ => false

/-- The call that started a load: the one that goes on first when the load has ended. -/
def callerOf? (session : Session σ) (load : Nat) : Option Nat :=
  match (session.loads[load]?).map Load.watchers with
  | some (.resume call :: _) => some call
  | _ => none

/-- Whether a load was cancelled. -/
def isCancelled (session : Session σ) (load : Nat) : Bool := (session.loads[load]?).any Load.cancelled

/-! ## Observations -/

theorem endingOf?_eq_some {session : Session σ} {load : Nat} {ending : Ending} :
    session.endingOf? load = some ending ↔
      ∃ state, session.loads[load]? = some state ∧ state.stage = .ended ending := by
  unfold endingOf?
  rcases session.loads[load]? with _ | ⟨stage, cancelled, watchers⟩
  · simp
  · cases stage <;> simp

theorem endingOf?_of_open {session : Session σ} {load : Nat} {state : Load} (hload : session.loads[load]? = some state)
    (hopen : state.stage.isOver = false) : session.endingOf? load = none := by
  rcases state with ⟨stage, cancelled, watchers⟩
  cases stage <;> simp_all [endingOf?, LoadStage.isOver]

theorem outcomeOf?_eq_some {session : Session σ} {call : Nat} {ending : Ending} :
    session.outcomeOf? call = some ending ↔
      ∃ state, session.calls[call]? = some state ∧ state.stage = .ended ending := by
  unfold outcomeOf?
  rcases session.calls[call]? with _ | ⟨stage, cancelled⟩
  · simp
  · cases stage <;> simp

theorem callerOf?_eq_some {session : Session σ} {load call : Nat} :
    session.callerOf? load = some call ↔
      ∃ state later, session.loads[load]? = some state ∧ state.watchers = .resume call :: later := by
  unfold callerOf?
  rcases session.loads[load]? with _ | ⟨stage, cancelled, watchers⟩
  · simp
  · rcases watchers with _ | ⟨event, later⟩
    · simp
    · cases event <;> simp

theorem isCancelled_iff {session : Session σ} {load : Nat} :
    session.isCancelled load = true ↔ ∃ state, session.loads[load]? = some state ∧ state.cancelled = true := by
  simp [isCancelled, Option.any_eq_true]

theorem isNewest_iff {session : Session σ} {load : Nat} :
    session.isNewest load = true ↔ load + 1 = session.loads.length := by
  simp [isNewest]

theorem isNewest_newest {session : Session σ} (h : session.newest < session.loads.length) :
    session.isNewest session.newest = true := by
  simp only [isNewest, newest, beq_iff_eq] at h ⊢
  omega

/-- A load that is not the newest is older than the newest. -/
theorem lt_newest {session : Session σ} {load : Nat} (hlate : session.isNewest load = false)
    (hload : load < session.loads.length) : load < session.newest := by
  simp only [isNewest, newest, beq_eq_false_iff_ne, ne_eq] at hlate ⊢
  omega

theorem newest_lt {session : Session σ} {load : Nat} (hload : load < session.loads.length) :
    session.newest < session.loads.length := by
  simp only [newest]
  omega

/-- A load that has not ended is not over. -/
theorem LoadStage.isOver_eq_false {stage : LoadStage} (h : ∀ ending, stage = .ended ending → False) :
    stage.isOver = false := by
  cases stage with
  | ended ending => exact (h ending rfl).elim
  | ready | gated | sending | gathering => rfl

theorem LoadStage.isOver_iff {stage : LoadStage} : stage.isOver = true ↔ ∃ ending, stage = .ended ending := by
  cases stage <;> simp [isOver]

theorem CallStage.isOver_iff {stage : CallStage} : stage.isOver = true ↔ ∃ ending, stage = .ended ending := by
  cases stage <;> simp [isOver]

theorem endingOf?_congr {first second : Session σ} (h : first.loads = second.loads) (load : Nat) :
    first.endingOf? load = second.endingOf? load := by
  simp [endingOf?, h]

theorem callerOf?_congr {first second : Session σ} (h : first.loads = second.loads) (load : Nat) :
    first.callerOf? load = second.callerOf? load := by
  simp [callerOf?, h]

theorem outcomeOf?_congr {first second : Session σ} (h : first.calls = second.calls) (call : Nat) :
    first.outcomeOf? call = second.outcomeOf? call := by
  simp [outcomeOf?, h]

theorem isCancelled_congr {first second : Session σ} (h : first.loads = second.loads) (load : Nat) :
    first.isCancelled load = second.isCancelled load := by
  simp [isCancelled, h]

theorem newest_congr {first second : Session σ} (h : first.loads = second.loads) : first.newest = second.newest := by
  simp [newest, h]

theorem isNewest_congr {first second : Session σ} (h : first.loads = second.loads) (load : Nat) :
    first.isNewest load = second.isNewest load := by
  simp [isNewest, h]

/-! ## What the parts of a step leave alone -/

section Frame

variable (session : Session σ) (load call : Nat) (loadState : Load) (callState : Call) (events : List Event)

@[simp] theorem enqueue_loads : (session.enqueue events).loads = session.loads := rfl
@[simp] theorem enqueue_calls : (session.enqueue events).calls = session.calls := rfl

@[simp] theorem setLoad_loads : (session.setLoad load loadState).loads = session.loads.set load loadState := rfl
@[simp] theorem setLoad_calls : (session.setLoad load loadState).calls = session.calls := rfl

@[simp] theorem setCall_loads : (session.setCall call callState).loads = session.loads := rfl
@[simp] theorem setCall_calls : (session.setCall call callState).calls = session.calls.set call callState := rfl

end Frame

end Showcase.Session
