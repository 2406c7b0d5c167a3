import Mathlib.Logic.Relation
import Showcase.Proofs.Session.Resumption

/-!
# Changes of a session

Whatever happens to a session comes down to a few kinds of change, each with the condition under which it is made. They
are listed once, as a relation, and every move is shown to be a sequence of them; what all changes preserve is then
preserved by every run. A load ends only in a step of its own, and a call returns a component only when it goes on, so
the relation names the event that happens, if one does.
-/

namespace Showcase.Session

open Network

variable {σ : Type}

/-- One change of a session, caused by an event or by its user. -/
inductive Change (cause : Option Event) : Session σ → Session σ → Prop where
  /-- Something changes that neither loads nor calls depend on. A failure is noted only by a call that goes on. -/
  | aside (session : Session σ) (host : σ) (opened : List String) (lastError : Option EngineError)
      (surface : Preview.Surface)
      (hnoted : (∀ call, cause ≠ some (.resume call)) → lastError = session.lastError) :
      Change cause session { session with host := host, opened := opened, lastError := lastError, surface := surface }
  /-- A call is entered that has not begun. -/
  | called (session : Session σ) (work : Remote Component) (events : List Event)
      (hevents : ∀ load, Event.step load ∉ events) :
      Change cause session
        (({ session with calls := session.calls ++ [Call.mk (.unstarted work) false] }).enqueue events)
  /-- A call begins: it starts a load, and the load that was the newest so far is over or cancelled. -/
  | launched (session : Session σ) (call : Nat) (work : Remote Component)
      (hcall : session.calls[call]? = some ⟨.unstarted work, false⟩)
      (hquiet : ∀ state, session.loads[session.newest]? = some state →
        state.stage.isOver = true ∨ state.cancelled = true) :
      Change cause session
        ((({ session with loads := session.loads ++ [Load.mk (.ready work) false [.resume call]] }).enqueue
          [.step session.loads.length]).setCall call ⟨.awaiting session.loads.length, false⟩)
  /-- A load goes on without coming to an end, or is cancelled. -/
  | moved (session : Session σ) (load : Nat) (state : Load) (stage : LoadStage) (cancelled : Bool)
      (events : List Event) (hload : session.loads[load]? = some state) (hopen : state.stage.isOver = false)
      (hstage : stage.isOver = false) (hcancelled : state.cancelled = true → cancelled = true)
      (hevents : ∀ other, Event.step other ∈ events → other = load) :
      Change cause session
        ((session.setLoad load ⟨stage, cancelled, state.watchers⟩).enqueue events)
  /-- A load comes to an end, and what watches it becomes due. -/
  | finished (session : Session σ) (load : Nat) (state : Load) (ending : Ending) (hcause : cause = some (.step load))
      (hload : session.loads[load]? = some state) (hopen : state.stage.isOver = false)
      (hending : ending = .cancelled ↔ state.cancelled = true) :
      Change cause session (session.endLoad load state ending)
  /-- A call returns without changing the component. With a component it does so only if its own load is not the
  newest. -/
  | returned (session : Session σ) (call : Nat) (state : Call) (ending : Ending)
      (hcall : session.calls[call]? = some state) (hopen : state.stage.isOver = false)
      (hcause : ∀ component, ending = .finished (.ok component) → cause = some (.resume call))
      (hown : ∀ component load, ending = .finished (.ok component) → state.stage = .awaiting load →
        session.isNewest load = false) (hwaited : session.HasWaited state) :
      Change cause session (session.setCall call { state with stage := .ended ending })
  /-- A call returns with the component of its own load, the newest, which becomes the component of the session. -/
  | committed (session : Session σ) (call load : Nat) (component : Component) (hcause : cause = some (.resume call))
      (hcall : session.calls[call]? = some ⟨.awaiting load, false⟩) (hnewest : session.isNewest load = true)
      (hload : session.endingOf? load = some (.finished (.ok component))) :
      Change cause session
        ((session.commit component).setCall call ⟨.ended (.finished (.ok component)), false⟩)
  /-- A call whose own load is not the newest waits for the newest load. -/
  | watched (session : Session σ) (call : Nat) (callState : Call) (load : Nat) (loadState : Load)
      (hcall : session.calls[call]? = some callState)
      (hown : session.IsSuperseded callState.stage)
      (hnewest : session.isNewest load = true) (hload : session.loads[load]? = some loadState)
      (hopen : loadState.stage.isOver = false) :
      Change cause session
        ((session.setLoad load { loadState with watchers := loadState.watchers ++ [.relay call] }).setCall call
          { callState with stage := .following load false })
  /-- A call that follows a load is told that it can go on. -/
  | told (session : Session σ) (call load : Nat) (informed before after : Bool)
      (hcall : session.calls[call]? = some ⟨.following load informed, before⟩)
      (hcancelled : before = true → after = true) :
      Change cause session ((session.setCall call ⟨.following load true, after⟩).enqueue [.resume call])
  /-- A call that is not over is cancelled. -/
  | warned (session : Session σ) (call : Nat) (state : Call) (hcall : session.calls[call]? = some state)
      (hopen : state.stage.isOver = false) :
      Change cause session (session.setCall call { state with cancelled := true })

/-- Any number of changes. -/
abbrev Changes (cause : Option Event) : Session σ → Session σ → Prop := Relation.ReflTransGen (Change cause)

variable {cause : Option Event}

/-! ## Steps of loads -/

theorem enqueue_nil (session : Session σ) : session.enqueue [] = session := by
  simp [enqueue]

/-- An ending that a computation reaches by itself is no cancellation. -/
theorem advance_not_cancelled (answer : σ → Request → Reply × σ) (opened : List String) (work : Remote Component)
    (host : σ) : (advance answer opened work host).1 ≠ .ended .cancelled := by
  induction work generalizing host with
  | done result => simp [advance]
  | send request resume ih => exact ih _ _
  | together requests resume _ => simp [advance]
  | wait gate rest ih =>
    unfold advance
    split
    · exact ih _
    · simp

theorem cancelLoad_changes (session : Session σ) (load : Nat) : Changes cause session (session.cancelLoad load) := by
  unfold cancelLoad
  split
  · exact .refl
  · rename_i state hload
    split
    · exact .refl
    · -- a load that waits at a gate waits no longer
      rename_i gate rest hstage
      exact .single (.moved session load state (.ready rest) true [.step load] hload
        (by simp [hstage, LoadStage.isOver]) rfl (fun _ => rfl) (by simp))
    · rename_i hended hgated
      have hopen : state.stage.isOver = false := LoadStage.isOver_eq_false hended
      have hchange : Change cause session _ :=
        .moved session load state state.stage true [] hload hopen hopen (fun _ => rfl) (by simp)
      rw [enqueue_nil] at hchange
      exact .single hchange

/-- Another host, and nothing else. -/
theorem host_change (session : Session σ) (host : σ) : Change cause session { session with host := host } :=
  .aside session host session.opened session.lastError session.surface fun _ => rfl

theorem stepLoad_changes (answer : σ → Request → Reply × σ) (session : Session σ) (load : Nat) :
    Changes (some (.step load)) session (session.stepLoad answer load) := by
  unfold stepLoad
  split
  · exact .refl
  · rename_i state hload
    split
    · exact .refl
    · exact .refl
    · -- the load works on until it has to wait
      rename_i rest hstage
      have hopen : state.stage.isOver = false := by simp [hstage, LoadStage.isOver]
      split
      · rename_i hcancelled
        exact .single (.finished session load state .cancelled rfl hload hopen (by simp [hcancelled]))
      · rename_i hgoes
        have hadvance := advance_not_cancelled answer session.opened rest session.host
        split
        · -- the work is done, with a result: a computation does not cancel itself
          rename_i ending host hdone
          refine .tail (.single (host_change session host)) (.finished _ load state ending rfl hload hopen ?_)
          simp only [hdone, ne_eq, LoadStage.ended.injEq] at hadvance
          simp [hadvance, hgoes]
        · rename_i gate rest' host hdone
          have hchange : Change (some (.step load)) { session with host := host } _ :=
            .moved _ load state (.gated gate rest') state.cancelled [] hload hopen rfl id (by simp)
          rw [enqueue_nil] at hchange
          exact .tail (.single (host_change session host)) hchange
        · rename_i stage host hended hgated hdone
          have hstage' : stage.isOver = false := LoadStage.isOver_eq_false hended
          exact .tail (.single (host_change session host)) (.moved _ load state stage state.cancelled [.step load]
            hload hopen hstage' id (by simp))
    · -- requests that are made together take their replies in one step
      rename_i requests resume hstage
      have hopen : state.stage.isOver = false := by simp [hstage, LoadStage.isOver]
      split
      · exact .single (.moved session load state (.gathering (resume [])) state.cancelled [.step load] hload hopen rfl
          id (by simp))
      · exact .tail (.single (host_change session _)) (.moved _ load state _ state.cancelled [.step load] hload hopen
          rfl id (by simp))
    · rename_i rest hstage
      exact .single (.moved session load state (.ready rest) state.cancelled [.step load] hload
        (by simp [hstage, LoadStage.isOver]) rfl id (by simp))

theorem passGate_changes (gate : String) (session : Session σ) (load : Nat) :
    Changes cause session (passGate gate session load) := by
  unfold passGate
  split
  · rename_i state hload
    split
    · -- only the loads that wait at this gate go on
      rename_i own rest hstage
      split
      · exact .single (.moved session load state (.ready rest) state.cancelled [.step load] hload
          (by simp [hstage, LoadStage.isOver]) rfl id (by simp))
      · exact .refl
    · exact .refl
  · exact .refl

theorem openGate_changes (session : Session σ) (gate : String) : Changes cause session (session.openGate gate) := by
  unfold openGate
  generalize List.range session.loads.length = loads
  have hopened : Changes cause session { session with opened := gate :: session.opened } :=
    .single (.aside session session.host _ session.lastError session.surface fun _ => rfl)
  generalize { session with opened := gate :: session.opened } = opened at hopened ⊢
  induction loads generalizing opened with
  | nil => exact hopened
  | cons load loads ih => exact ih _ (hopened.trans (passGate_changes gate opened load))

/-! ## Steps of calls -/

@[simp] theorem cancelLoad_calls (session : Session σ) (load : Nat) :
    (session.cancelLoad load).calls = session.calls := by
  unfold cancelLoad
  split
  · rfl
  · split <;> rfl

@[simp] theorem cancelLoad_length (session : Session σ) (load : Nat) :
    (session.cancelLoad load).loads.length = session.loads.length := by
  unfold cancelLoad
  split
  · rfl
  · split <;> simp

/-- A load that was told to stop is over or cancelled. -/
theorem cancelLoad_quiet {session : Session σ} {load : Nat} {state : Load}
    (h : (session.cancelLoad load).loads[load]? = some state) :
    state.stage.isOver = true ∨ state.cancelled = true := by
  unfold cancelLoad at h
  split at h
  · simp_all
  · rename_i old hload
    have hbound : load < session.loads.length := (List.getElem?_eq_some_iff.mp hload).1
    split at h
    · rename_i ending hstage
      left
      rw [hload] at h
      cases h
      simp [hstage, LoadStage.isOver]
    · right
      simp only [enqueue_loads, setLoad_loads, List.getElem?_set_self hbound, Option.some.injEq] at h
      rw [← h]
    · right
      simp only [setLoad_loads, List.getElem?_set_self hbound, Option.some.injEq] at h
      rw [← h]

theorem startLoad_eq {session : Session σ} {call : Nat} {work : Remote Component}
    (hcall : session.calls[call]? = some ⟨.unstarted work, false⟩) :
    let quiet := session.cancelLoad session.newest
    session.startLoad call work =
      (({ quiet with loads := quiet.loads ++ [Load.mk (.ready work) false [.resume call]] }).enqueue
        [.step quiet.loads.length]).setCall call ⟨.awaiting quiet.loads.length, false⟩ := by
  intro quiet
  have hcall' : (({ quiet with loads := quiet.loads ++ [Load.mk (.ready work) false [.resume call]] }).enqueue
      [.step quiet.loads.length]).calls[call]? = some ⟨.unstarted work, false⟩ := by
    simpa [quiet] using hcall
  exact moveCall_eq _ hcall' _

theorem startLoad_changes {session : Session σ} {call : Nat} {work : Remote Component}
    (hcall : session.calls[call]? = some ⟨.unstarted work, false⟩) :
    Changes cause session (session.startLoad call work) := by
  have hcall' : (session.cancelLoad session.newest).calls[call]? = some ⟨.unstarted work, false⟩ := by
    rw [cancelLoad_calls]
    exact hcall
  -- stopping the newest load starts no other
  have hnewest : (session.cancelLoad session.newest).newest = session.newest := by
    simp [newest]
  have hquiet : ∀ state, (session.cancelLoad session.newest).loads[(session.cancelLoad session.newest).newest]?
      = some state → state.stage.isOver = true ∨ state.cancelled = true := by
    rw [hnewest]
    exact fun state h => cancelLoad_quiet h
  rw [startLoad_eq hcall]
  exact .tail (cancelLoad_changes session session.newest) (.launched _ call work hcall' hquiet)

theorem beginCall_changes (session : Session σ) (call : Nat) : Changes cause session (session.beginCall call) := by
  unfold beginCall
  split
  · rename_i work cancelled hcall
    split
    · rw [endCall_eq session hcall]
      exact .single (.returned session call _ .cancelled hcall rfl (by simp) (by simp) (.of_other (by simp)))
    · rename_i hgoes
      simp only [Bool.not_eq_true] at hgoes
      exact startLoad_changes (hgoes ▸ hcall)
  · exact .refl

theorem Resumption.changes {session after : Session σ} {call : Nat} (h : Resumption session call after) :
    Changes (some (.resume call)) session after := by
  cases h with
  | idle => exact .refl
  | commits load component hcall hnewest hload =>
    exact .single (.committed session call load component rfl hcall hnewest hload)
  | overtaken load component hcall hlate hload =>
    refine .single (.returned session call _ _ hcall rfl (fun _ _ => rfl) ?_ (.of_ended rfl hload))
    intro _ own _ hstage
    cases hstage
    exact hlate
  | joins state ending hcall _ hown hnewest =>
    refine .single (.returned session call state ending hcall hown.isOver (fun _ _ => rfl) ?_ hown.hasWaited)
    intro _ own _ hstage
    exact hown.isNewest hstage
  | fails state ending lastError hcall hopen hfailing =>
    -- the failure is noted before the call returns, so these are two changes
    refine .head (.aside session session.host session.opened lastError session.surface ?_) (.single ?_)
    · exact fun hother => absurd rfl (hother call)
    · exact .returned _ call state ending hcall hopen (fun component h => absurd h (hfailing.ne_ok component))
        (fun component _ h => absurd h (hfailing.ne_ok component)) hfailing.hasWaited
  | follows callState loadState hcall hown hload hopen =>
    have hbound : session.newest < session.loads.length := (List.getElem?_eq_some_iff.mp hload).1
    have hnewest := isNewest_newest hbound
    exact .single (.watched session call callState session.newest loadState hcall hown hnewest hload hopen)

theorem relayCall_changes (session : Session σ) (call : Nat) : Changes cause session (session.relayCall call) := by
  unfold relayCall
  split
  · rename_i load cancelled hcall
    exact .single (.told session call load false cancelled cancelled hcall id)
  · exact .refl

theorem cancelCall_changes (session : Session σ) (call : Nat) : Changes cause session (session.cancelCall call) := by
  unfold cancelCall
  split
  · exact .refl
  · rename_i state hcall
    have hflagged : state.stage.isOver = false →
        Change cause session (session.setCall call { state with cancelled := true }) :=
      .warned session call state hcall
    split
    · exact .refl
    · rename_i work hstage
      exact .single (hflagged (by simp [hstage, CallStage.isOver]))
    · -- a call that waits for its own load takes it along
      rename_i load hstage
      exact (Relation.ReflTransGen.single (hflagged (by simp [hstage, CallStage.isOver]))).trans
        (cancelLoad_changes _ load)
    · -- a call that follows a load is woken, unless it was told already
      rename_i load informed hstage
      split
      · exact .single (hflagged (by simp [hstage, CallStage.isOver]))
      · rcases state with ⟨stage, cancelled⟩
        cases hstage
        exact .single (.told session call load informed cancelled true hcall fun _ => rfl)

/-! ## Moves -/

theorem handle_changes (answer : σ → Request → Reply × σ) (session : Session σ) (event : Event) :
    Changes (some event) session (handle answer session event) := by
  cases event with
  | begin call => exact beginCall_changes session call
  | step load => exact stepLoad_changes answer session load
  | resume call => exact (resumeCall_resumption session call).changes
  | relay call => exact relayCall_changes session call

theorem called_begin_changes (session : Session σ) (work : Remote Component) :
    Changes cause session (session.load work) := by
  have hcalled : Change cause session _ := .called session work [] (by simp)
  rw [enqueue_nil] at hcalled
  exact .head hcalled (beginCall_changes _ _)

/-- A move gives a value, or is a sequence of changes once its event is taken from the queue. -/
theorem take_changes (answer : σ → Request → Reply × σ) (session : Session σ) (move : Move) :
    (∃ name value, move = .bind name value) ∨
      Changes (session.cause move) (session.dequeue move) (take answer session move) := by
  cases move with
  | bind name value => exact .inl ⟨name, value, rfl⟩
  | start work => exact .inr (.single (.called session work [.begin session.calls.length] (by simp)))
  | load work => exact .inr (called_begin_changes session work)
  | cancel call => exact .inr (cancelCall_changes session call)
  | openGate gate => exact .inr (openGate_changes session gate)
  | preview =>
    right
    simp only [take, preview, dequeue]
    split
    · exact .refl
    · exact .single (.aside session session.host session.opened session.lastError _ fun _ => rfl)
  | previewLive libraries patience =>
    right
    simp only [take, previewLive, dequeue]
    split
    · exact .refl
    · exact .single (.aside session session.host session.opened session.lastError _ fun _ => rfl)
  | happen place =>
    right
    simp only [take, happen, cause, dequeue]
    split
    · -- past the end of the queue there is no event to take away
      rename_i hnone
      rw [List.eraseIdx_of_length_le (List.getElem?_eq_none_iff.mp hnone)]
    · rename_i event hevent
      rw [hevent]
      exact handle_changes answer _ event

end Showcase.Session
