import Showcase.Proofs.Session.Commit

/-!
# Cancelling loads

A load that runs is cancelled when the call that started it is cancelled, or when a newer load starts. Nothing else
cancels it: no step of a load or of a call does, and a call that only follows a load does not take it along.
-/

namespace Showcase.Session

open Network

variable {σ : Type}

/-! ## What marks no load -/

/-- Every load that is cancelled was so before. -/
def CancelsNothing (before after : Session σ) : Prop :=
  ∀ load, after.isCancelled load = true → before.isCancelled load = true

theorem CancelsNothing.of_eq {before after : Session σ} (h : after.loads = before.loads) :
    CancelsNothing before after := by
  intro load hcancelled
  simpa [isCancelled, h] using hcancelled

theorem CancelsNothing.trans {first second third : Session σ} (h : CancelsNothing first second)
    (h' : CancelsNothing second third) : CancelsNothing first third :=
  fun load hcancelled => h load (h' load hcancelled)

theorem setLoad_cancelsNothing (session : Session σ) {load : Nat} {old new : Load}
    (hold : session.loads[load]? = some old) (hsame : new.cancelled = old.cancelled) :
    CancelsNothing session (session.setLoad load new) := by
  intro other hcancelled
  rcases isCancelled_iff.mp hcancelled with ⟨state, hstate, hflag⟩
  refine isCancelled_iff.mpr ?_
  simp only [setLoad_loads, List.getElem?_set] at hstate
  split at hstate
  · rename_i hother
    subst hother
    split at hstate
    · cases hstate
      exact ⟨old, hold, hsame ▸ hflag⟩
    · cases hstate
  · exact ⟨state, hstate, hflag⟩

theorem stepLoad_cancelsNothing (answer : σ → Request → Reply × σ) (session : Session σ) (load : Nat) :
    CancelsNothing session (session.stepLoad answer load) := by
  unfold stepLoad
  split
  · exact .of_eq rfl
  · rename_i state hload
    -- each stage writes the stage of its own load and leaves the mark of cancellation as it is
    have hset : ∀ (host : σ) (stage : LoadStage) (events : List Event),
        CancelsNothing session
          (({ session with host := host }.setLoad load { state with stage := stage }).enqueue events) := by
      intro host stage events
      exact setLoad_cancelsNothing { session with host := host } hload rfl
    split
    · exact .of_eq rfl
    · exact .of_eq rfl
    · split
      · exact hset session.host _ _
      · split
        · exact hset _ _ _
        · exact setLoad_cancelsNothing { session with host := _ } hload rfl
        · exact hset _ _ _
    · split
      · exact hset session.host _ _
      · exact hset _ _ _
    · exact hset session.host _ _

theorem passGate_cancelsNothing (gate : String) (session : Session σ) (load : Nat) :
    CancelsNothing session (passGate gate session load) := by
  unfold passGate
  split
  · rename_i state hload
    split
    · split
      · exact setLoad_cancelsNothing session hload rfl
      · exact .of_eq rfl
    · exact .of_eq rfl
  · exact .of_eq rfl

theorem openGate_cancelsNothing (session : Session σ) (gate : String) :
    CancelsNothing session (session.openGate gate) := by
  unfold openGate
  generalize List.range session.loads.length = loads
  have hopened : CancelsNothing session { session with opened := gate :: session.opened } := .of_eq rfl
  generalize { session with opened := gate :: session.opened } = opened at hopened ⊢
  induction loads generalizing opened with
  | nil => exact hopened
  | cons load loads ih => exact ih _ (hopened.trans (passGate_cancelsNothing gate opened load))

theorem Resumption.cancelsNothing {session after : Session σ} {call : Nat} (h : Resumption session call after) :
    CancelsNothing session after := by
  cases h with
  | follows callState loadState hcall hown hload hopen =>
    have hset : CancelsNothing session (session.setLoad session.newest
        { loadState with watchers := loadState.watchers ++ [.relay call] }) := setLoad_cancelsNothing session hload rfl
    exact hset.trans (.of_eq rfl)
  | _ => exact .of_eq rfl

theorem relayCall_cancelsNothing (session : Session σ) (call : Nat) :
    CancelsNothing session (session.relayCall call) := by
  unfold relayCall
  split <;> exact .of_eq rfl

/-! ## What cancels a load -/

/-- Cancelling a load cancels no other, and none that is over. -/
theorem isCancelled_of_cancelLoad {session : Session σ} {load other : Nat} (hbefore : session.isCancelled other = false)
    (hafter : (session.cancelLoad load).isCancelled other = true) :
    other = load ∧ load < session.loads.length ∧ session.endingOf? load = none := by
  unfold cancelLoad at hafter
  split at hafter
  · simp [hbefore] at hafter
  · rename_i state hload
    -- the flag of one load is set, so only that load can have become cancelled
    have hbound : load < session.loads.length := (List.getElem?_eq_some_iff.mp hload).1
    have hsame : ∀ new : Load, (session.setLoad load new).isCancelled other = true → other = load := by
      intro new hnew
      apply Decidable.byContradiction
      intro hother
      have hkept : (session.setLoad load new).isCancelled other = session.isCancelled other := by
        simp [isCancelled, List.getElem?_set_ne (Ne.symm hother)]
      rw [hkept, hbefore] at hnew
      cases hnew
    split at hafter
    · simp [hbefore] at hafter
    · rename_i gate rest hstage
      exact ⟨hsame _ hafter, hbound, endingOf?_of_open hload (by simp [hstage, LoadStage.isOver])⟩
    · rename_i hended hgated
      exact ⟨hsame _ hafter, hbound, endingOf?_of_open hload (LoadStage.isOver_eq_false hended)⟩

/-- A load becomes cancelled in favour of a new one only as the newest one, and while it runs. -/
theorem isCancelled_of_beginCall (session : Session σ) {call load : Nat} (hbefore : session.isCancelled load = false)
    (hafter : (session.beginCall call).isCancelled load = true) :
    session.endingOf? load = none ∧ session.isNewest load = true ∧
      (session.beginCall call).loads.length = session.loads.length + 1 := by
  unfold beginCall at hafter ⊢
  split at hafter
  · rename_i work cancelled hcall
    cases cancelled with
    | true =>
      -- the call was cancelled before it began, and starts nothing
      rw [if_pos rfl, endCall_eq session hcall] at hafter
      rw [show (session.setCall call _).isCancelled load = session.isCancelled load from rfl, hbefore] at hafter
      cases hafter
    | false =>
      rw [if_neg Bool.false_ne_true, startLoad_eq hcall] at hafter
      have hquiet : (session.cancelLoad session.newest).isCancelled load = true := by
        rcases isCancelled_iff.mp hafter with ⟨state, hstate, hflag⟩
        rcases getElem?_append_cases hstate with hold | ⟨-, rfl⟩
        · exact isCancelled_iff.mpr ⟨state, hold, hflag⟩
        · -- the new load is not cancelled
          cases hflag
      rcases isCancelled_of_cancelLoad hbefore hquiet with ⟨rfl, hbound, hopen⟩
      rw [if_neg Bool.false_ne_true, startLoad_eq hcall]
      exact ⟨hopen, isNewest_newest hbound, by simp⟩
  · rw [hbefore] at hafter
    cases hafter

/-- Cancelling a call cancels its own load only. -/
theorem isCancelled_of_cancelCall {session : Session σ} (hc : Coherent session) {call load : Nat}
    (hbefore : session.isCancelled load = false) (hafter : (session.cancelCall call).isCancelled load = true) :
    session.endingOf? load = none ∧ session.callerOf? load = some call := by
  have hsame : ∀ after : Session σ, after.loads = session.loads → after.isCancelled load ≠ true := by
    intro after hloads hcancelled
    have hwas := CancelsNothing.of_eq hloads load hcancelled
    rw [hbefore] at hwas
    cases hwas
  unfold cancelCall at hafter
  split at hafter
  · exact (hsame _ rfl hafter).elim
  · rename_i state hcall
    split at hafter
    · exact (hsame _ rfl hafter).elim
    · exact (hsame _ rfl hafter).elim
    · -- the call waits for its own load, which goes with it
      rename_i own hstage
      rcases state with ⟨stage, cancelled⟩
      cases hstage
      have hflagged : (session.setCall call ⟨.awaiting own, true⟩).isCancelled load = false := hbefore
      rcases isCancelled_of_cancelLoad hflagged hafter with ⟨rfl, hbound, hopen⟩
      exact ⟨hopen, hc.awaited hcall⟩
    · split at hafter <;> exact (hsame _ rfl hafter).elim

/-- A load is cancelled by a move while it runs: with its own call, or as the newest load in favour of a new one. -/
theorem isCancelled_of_take {session : Session σ} (hc : Coherent session) (answer : σ → Request → Reply × σ)
    {move : Move} {load : Nat} (hbefore : session.isCancelled load = false)
    (hafter : (take answer session move).isCancelled load = true) :
    session.endingOf? load = none ∧
      ((∃ call, move = .cancel call ∧ session.callerOf? load = some call) ∨
        (session.isNewest load = true ∧ (take answer session move).loads.length = session.loads.length + 1)) := by
  have hnothing : CancelsNothing session (take answer session move) → False := by
    intro h
    rw [h load hafter] at hbefore
    cases hbefore
  cases move with
  | start work => exact (hnothing (.of_eq rfl)).elim
  | load work =>
    -- the call is entered and begins at once
    let called : Session σ := { session with calls := session.calls ++ [⟨.unstarted work, false⟩] }
    rcases isCancelled_of_beginCall called hbefore hafter with ⟨hopen, hnewest, hlength⟩
    exact ⟨hopen, .inr ⟨hnewest, hlength⟩⟩
  | cancel call =>
    rcases isCancelled_of_cancelCall hc hbefore hafter with ⟨hopen, hcaller⟩
    exact ⟨hopen, .inl ⟨call, rfl, hcaller⟩⟩
  | openGate gate => exact (hnothing (openGate_cancelsNothing session gate)).elim
  | bind name value => exact (hnothing (.of_eq rfl)).elim
  | preview =>
    refine (hnothing (.of_eq ?_)).elim
    simp only [take, preview]
    split <;> rfl
  | previewLive libraries patience =>
    refine (hnothing (.of_eq ?_)).elim
    simp only [take, previewLive]
    split <;> rfl
  | happen place =>
    have hdequeue : CancelsNothing session (session.dequeue (.happen place)) := .of_eq rfl
    rcases hcause : session.cause (.happen place) with _ | event
    · -- nothing is due at this place
      refine (hnothing (.of_eq ?_)).elim
      simp only [cause] at hcause
      simp only [take, happen, hcause]
    · rw [take_of_cause answer hcause] at hafter hnothing ⊢
      cases event with
      | begin call =>
        obtain ⟨hopen, hnewest, hlength⟩ :=
          isCancelled_of_beginCall (session.dequeue (.happen place)) hbefore hafter
        exact ⟨hopen, .inr ⟨hnewest, hlength⟩⟩
      | step other => exact (hnothing (hdequeue.trans (stepLoad_cancelsNothing answer _ other))).elim
      | resume call => exact (hnothing (hdequeue.trans (resumeCall_resumption _ call).cancelsNothing)).elim
      | relay call => exact (hnothing (hdequeue.trans (relayCall_cancelsNothing _ call))).elim

/-- A call that follows a load did not start it, and does not take it along when it is cancelled. -/
theorem cancelCall_following {session : Session σ} (hc : Coherent session) {call load : Nat} {informed cancelled : Bool}
    (hcall : session.calls[call]? = some ⟨.following load informed, cancelled⟩) :
    session.callerOf? load ≠ some call ∧ (session.cancelCall call).loads = session.loads := by
  constructor
  · intro hcaller
    rcases hc.followed hcall with ⟨hlt, own, hown, howner⟩
    have hsame := hc.single howner hcaller
    omega
  · simp only [cancelCall, hcall]
    cases informed <;> rfl

/-! ## Overlapping loads -/

/-- After every run, in whatever order its events happened: a load that commits assigns component and values together;
every other move keeps the component, and the values unless it gives one; loads commit in the order in which they were
started, and a load that was superseded, was cancelled or failed never does; a load is cancelled only while it runs,
with the call that started it or in favour of a newer load, and ends cancelled only then; and a call that follows a load
leaves it running when it is cancelled. -/
theorem overlapping_loads (answer : σ → Request → Reply × σ) (host : σ) (moves : List Move) :
    let session := play answer (.on host) moves
    (∀ move load component, session.Commits move load component →
      (take answer session move).component = some component ∧
        (take answer session move).bindings = component.labels) ∧
    (∀ move, (∀ load component, ¬session.Commits move load component) →
      (take answer session move).component = session.component ∧
        ((take answer session move).bindings = session.bindings ∨
          ∃ name value, move = .bind name value ∧
            (take answer session move).bindings = session.bindings.put name value)) ∧
    (∀ move load component more later newer component', session.Commits move load component →
      (play answer session (move :: more)).Commits later newer component' → load < newer) ∧
    (∀ load, load < session.loads.length →
      (session.isNewest load = false ∨ session.isCancelled load = true ∨
        ∃ failure, session.endingOf? load = some (.finished (.error failure))) →
      ∀ more move component, ¬(play answer session more).Commits move load component) ∧
    (∀ move load, session.isCancelled load = false → (take answer session move).isCancelled load = true →
      session.endingOf? load = none ∧
        ((∃ call, move = .cancel call ∧ session.callerOf? load = some call) ∨
          (session.isNewest load = true ∧ (take answer session move).loads.length = session.loads.length + 1))) ∧
    (∀ load, session.endingOf? load = some .cancelled → session.isCancelled load = true) ∧
    (∀ call load informed cancelled, session.calls[call]? = some ⟨.following load informed, cancelled⟩ →
      session.callerOf? load ≠ some call ∧ (take answer session (.cancel call)).loads = session.loads) := by
  intro session
  have hc : Coherent session := (coherent_on host).play answer moves
  refine ⟨fun move load component h => h.assigns answer, fun move h => keeps_of_not_commits answer h, ?_, ?_, ?_, ?_,
    ?_⟩
  · intro move load component more later newer component' h h'
    exact h.strictly_later hc answer more h'
  · intro load hload hlost more move component
    exact not_commits_of_lost hc answer hload hlost more move component
  · intro move load hbefore hafter
    exact isCancelled_of_take hc answer hbefore hafter
  · intro load hending
    rcases endingOf?_eq_some.mp hending with ⟨state, hstate, hstage⟩
    exact isCancelled_iff.mpr ⟨state, hstate, (hc.marked hstate hstage).mp rfl⟩
  · intro call load informed cancelled hcall
    exact cancelCall_following hc hcall

end Showcase.Session
