import Showcase.Proofs.Session.Run

/-!
# How a call goes on

A call that goes on after a load takes over its component, returns what the session or the newest load has, fails, or
waits for the newest load. `Resumption` lists what can become of the session, each case with the condition under which
it arises.
-/

namespace Showcase.Session

open Network

variable {σ : Type}

theorem endCall_eq (session : Session σ) {call : Nat} {state : Call} (hcall : session.calls[call]? = some state)
    (ending : Ending) : session.endCall call ending = session.setCall call { state with stage := .ended ending } := by
  simp [endCall, hcall]

theorem moveCall_eq (session : Session σ) {call : Nat} {state : Call} (hcall : session.calls[call]? = some state)
    (stage : CallStage) : session.moveCall call stage = session.setCall call { state with stage := stage } := by
  simp [moveCall, hcall]

theorem isNewest_eq_false {session : Session σ} {load : Nat} (h : ¬session.isNewest load = true) :
    session.isNewest load = false := by
  simpa using h

theorem eq_newest {session : Session σ} {load : Nat} (h : session.isNewest load = true) : load = session.newest := by
  simp only [isNewest, beq_iff_eq] at h
  simp only [newest]
  omega

/-- Whether a call waits for a load of its own that was cancelled in favour of a newer one, or for a load of another
call. -/
inductive IsSuperseded (session : Session σ) : CallStage → Prop where
  | awaiting (load : Nat) (hlate : session.isNewest load = false) (hload : session.endingOf? load = some .cancelled) :
      IsSuperseded session (.awaiting load)
  | following (load : Nat) (informed : Bool) : IsSuperseded session (.following load informed)

theorem IsSuperseded.isOver {session : Session σ} {stage : CallStage} (h : session.IsSuperseded stage) :
    stage.isOver = false := by
  cases h <;> rfl

theorem IsSuperseded.isNewest {session : Session σ} {stage : CallStage} (h : session.IsSuperseded stage) {load : Nat}
    (hstage : stage = .awaiting load) : session.isNewest load = false := by
  cases h with
  | awaiting own hlate =>
    cases hstage
    exact hlate
  | following => cases hstage

/-- A call that waits for its own load was cancelled, or that load is over. -/
def HasWaited (session : Session σ) (state : Call) : Prop :=
  ∀ load, state.stage = .awaiting load → state.cancelled = true ∨ session.endingOf? load ≠ none

theorem HasWaited.of_ended {session : Session σ} {state : Call} {load : Nat} {ending : Ending}
    (hstage : state.stage = .awaiting load) (hload : session.endingOf? load = some ending) :
    session.HasWaited state := by
  intro own hown
  rw [hstage] at hown
  cases hown
  exact .inr (by simp [hload])

theorem HasWaited.of_other {session : Session σ} {state : Call} (hstage : ∀ load, state.stage ≠ .awaiting load) :
    session.HasWaited state :=
  fun load hload => absurd hload (hstage load)

theorem IsSuperseded.hasWaited {session : Session σ} {state : Call} (h : session.IsSuperseded state.stage) :
    session.HasWaited state := by
  rcases state with ⟨stage, cancelled⟩
  cases h with
  | awaiting load hlate hload => exact .of_ended rfl hload
  | following => exact .of_other (by simp)

/-- Why a call ends without a component: the call as it was, its ending, and the failure that is then noted. -/
inductive Failing (session : Session σ) : Call → Ending → Option EngineError → Prop where
  /-- The call was cancelled. -/
  | cancelled (stage : CallStage) : Failing session ⟨stage, true⟩ .cancelled session.lastError
  /-- The call's own load was cancelled, and there is no newer one. -/
  | stopped (load : Nat) (hnewest : session.isNewest load = true)
      (hload : session.endingOf? load = some .cancelled) :
      Failing session ⟨.awaiting load, false⟩ .cancelled session.lastError
  /-- The call's own load failed with a typed failure. -/
  | failed (load : Nat) (error : EngineError)
      (hload : session.endingOf? load = some (.finished (.error (.engine error)))) :
      Failing session ⟨.awaiting load, false⟩ (.finished (.error (.engine error))) (some error)
  /-- The load that the call waits for failed in an unexpected way. -/
  | broke (stage : CallStage) (load : Nat) (failure : Failure)
      (hstage : stage = .awaiting load ∨ ∃ informed, stage = .following load informed)
      (hload : session.endingOf? load = some (.finished (.error failure)))
      (hunexpected : ∀ error, failure ≠ .engine error) :
      Failing session ⟨stage, false⟩ (.finished (.error failure)) session.lastError

theorem Failing.ne_ok {session : Session σ} {state : Call} {ending : Ending} {lastError : Option EngineError}
    (h : Failing session state ending lastError) (component : Component) : ending ≠ .finished (.ok component) := by
  cases h <;> simp

theorem Failing.hasWaited {session : Session σ} {state : Call} {ending : Ending} {lastError : Option EngineError}
    (h : Failing session state ending lastError) : session.HasWaited state := by
  cases h with
  | cancelled => exact fun _ _ => .inl rfl
  | stopped load hnewest hload => exact .of_ended rfl hload
  | failed load error hload => exact .of_ended rfl hload
  | broke stage load failure hstage hload =>
    rcases hstage with rfl | ⟨informed, rfl⟩
    · exact .of_ended rfl hload
    · exact .of_other (by simp)

/-- What can become of a session in which a call goes on. -/
inductive Resumption (session : Session σ) (call : Nat) : Session σ → Prop where
  /-- The call does not wait for a load that has ended. -/
  | idle (hwaits : ∀ load, session.calls[call]? = some ⟨.awaiting load, false⟩ → session.endingOf? load = none) :
      Resumption session call session
  /-- The call's own load succeeded as the newest, and the session takes over its component. -/
  | commits (load : Nat) (component : Component) (hcall : session.calls[call]? = some ⟨.awaiting load, false⟩)
      (hnewest : session.isNewest load = true) (hload : session.endingOf? load = some (.finished (.ok component))) :
      Resumption session call ((session.commit component).setCall call ⟨.ended (.finished (.ok component)), false⟩)
  /-- The call's own load succeeded, but a newer one started. -/
  | overtaken (load : Nat) (component : Component) (hcall : session.calls[call]? = some ⟨.awaiting load, false⟩)
      (hlate : session.isNewest load = false) (hload : session.endingOf? load = some (.finished (.ok component))) :
      Resumption session call
        (session.setCall call ⟨.ended (.finished (.ok (session.component.getD component))), false⟩)
  /-- The newest load is over, and the call ends as it did. -/
  | joins (state : Call) (ending : Ending) (hcall : session.calls[call]? = some state)
      (hcancelled : state.cancelled = false) (hown : session.IsSuperseded state.stage)
      (hnewest : session.endingOf? session.newest = some ending) :
      Resumption session call (session.setCall call { state with stage := .ended ending })
  /-- The call ends without a component. -/
  | fails (state : Call) (ending : Ending) (lastError : Option EngineError)
      (hcall : session.calls[call]? = some state) (hopen : state.stage.isOver = false)
      (hfailing : Failing session state ending lastError) :
      Resumption session call
        ({ session with lastError := lastError }.setCall call { state with stage := .ended ending })
  /-- The newest load still runs, and the call waits for it. -/
  | follows (callState : Call) (loadState : Load) (hcall : session.calls[call]? = some callState)
      (hown : session.IsSuperseded callState.stage) (hload : session.loads[session.newest]? = some loadState)
      (hopen : loadState.stage.isOver = false) :
      Resumption session call
        ((session.setLoad session.newest { loadState with watchers := loadState.watchers ++ [.relay call] }).setCall
          call { callState with stage := .following session.newest false })

theorem follow_resumption {session : Session σ} {call : Nat} {state : Call} (hcall : session.calls[call]? = some state)
    (hcancelled : state.cancelled = false) (hown : session.IsSuperseded state.stage) :
    Resumption session call (session.follow call) := by
  unfold follow
  dsimp only
  split
  · rename_i hnone
    -- there is no load at all
    apply Resumption.idle
    intro load _
    have hlength := List.getElem?_eq_none_iff.mp hnone
    simp only [newest] at hlength
    simp [endingOf?, show session.loads = [] from List.eq_nil_of_length_eq_zero (by omega)]
  · rename_i loadState hload
    split
    · rename_i ending hended
      rw [endCall_eq session hcall]
      exact .joins state ending hcall hcancelled hown (endingOf?_eq_some.mpr ⟨loadState, hload, hended⟩)
    · rename_i hended
      rw [moveCall_eq (session.setLoad _ _) hcall]
      exact .follows state loadState hcall hown hload (LoadStage.isOver_eq_false hended)

theorem resumeOwn_resumption {session : Session σ} {call load : Nat} {ending : Ending}
    (hcall : session.calls[call]? = some ⟨.awaiting load, false⟩) (hload : session.endingOf? load = some ending) :
    Resumption session call (session.resumeOwn call load ending) := by
  unfold resumeOwn
  split
  · split
    · rename_i hnewest
      rw [endCall_eq session hcall]
      exact .fails _ .cancelled session.lastError hcall rfl (.stopped load hnewest hload)
    · rename_i hlate
      exact follow_resumption hcall rfl (.awaiting load (isNewest_eq_false hlate) hload)
  · rename_i error
    rw [endCall_eq { session with lastError := some error } hcall]
    exact .fails _ _ (some error) hcall rfl (.failed load error hload)
  · rename_i failure hunexpected
    rw [endCall_eq session hcall]
    exact .fails _ _ session.lastError hcall rfl (.broke _ load failure (.inl rfl) hload hunexpected)
  · rename_i component
    split
    · rename_i hnewest
      rw [endCall_eq (session.commit component) hcall]
      exact .commits load component hcall hnewest hload
    · rename_i hlate
      rw [endCall_eq session hcall]
      exact .overtaken load component hcall (isNewest_eq_false hlate) hload

theorem resumeFollowing_resumption {session : Session σ} {call load : Nat} {informed : Bool} {ending : Ending}
    (hcall : session.calls[call]? = some ⟨.following load informed, false⟩)
    (hload : session.endingOf? load = some ending) :
    Resumption session call (session.resumeFollowing call load ending) := by
  have hown : session.IsSuperseded (.following load informed) := .following load informed
  unfold resumeFollowing
  split
  · rename_i hnewest
    rw [endCall_eq session hcall]
    exact .joins _ ending hcall rfl hown (eq_newest hnewest ▸ hload)
  · split
    · exact follow_resumption hcall rfl hown
    · rename_i failure hunexpected
      rw [endCall_eq session hcall]
      exact .fails _ _ session.lastError hcall rfl (.broke _ load failure (.inr ⟨informed, rfl⟩) hload hunexpected)
    · exact follow_resumption hcall rfl hown

theorem resumeCall_resumption (session : Session σ) (call : Nat) :
    Resumption session call (session.resumeCall call) := by
  have hcancelled : ∀ stage, session.calls[call]? = some ⟨stage, true⟩ → stage.isOver = false →
      Resumption session call (session.endCall call .cancelled) := by
    intro stage hcall hopen
    rw [endCall_eq session hcall]
    exact .fails ⟨stage, true⟩ .cancelled session.lastError hcall hopen (.cancelled stage)
  unfold resumeCall
  split
  · rename_i hnone
    exact .idle (by simp [hnone])
  · rename_i state hcall
    rcases state with ⟨stage, cancelled⟩
    cases stage with
    | unstarted work => exact .idle (by simp [hcall])
    | ended ending => exact .idle (by simp [hcall])
    | awaiting load =>
      cases cancelled with
      | true => exact hcancelled _ hcall rfl
      | false =>
        simp only [Bool.false_eq_true, if_false]
        split
        · exact resumeOwn_resumption hcall ‹_›
        · -- its own load has not ended
          rename_i hnone
          apply Resumption.idle
          intro own hown
          rw [hcall] at hown
          cases hown
          exact hnone
    | following load informed =>
      cases cancelled with
      | true => exact hcancelled _ hcall rfl
      | false =>
        simp only [Bool.false_eq_true, if_false]
        split
        · exact resumeFollowing_resumption hcall ‹_›
        · exact .idle (by simp [hcall])

end Showcase.Session
