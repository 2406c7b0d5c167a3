import Showcase.Proofs.Session.Cancellation

/-!
# Runs without cancelled calls

As long as no call is cancelled, loads are cancelled only in favour of newer ones, so the newest load never is. A call
then ends only when it goes on after a load.
-/

namespace Showcase.Session

open Network

variable {σ : Type}

/-- Whether a move cancels a call. -/
def Move.isCancelling : Move → Bool
  | cancel _ => true
  | _ => false

/-- No call was cancelled, and a load was only if it is not the newest any more. -/
structure Undisturbed (session : Session σ) : Prop where
  calls : ∀ state ∈ session.calls, state.cancelled = false
  newest : ∀ load, session.isCancelled load = true → session.isNewest load = false

/-- Loads fail only with typed failures. -/
def FailsTyped (session : Session σ) : Prop :=
  ∀ load failure, session.endingOf? load = some (.finished (.error failure)) → ∃ error, failure = .engine error

theorem FailsTyped.of_extends {before after : Session σ} (h : Extends before after) (ht : after.FailsTyped) :
    before.FailsTyped :=
  fun load failure hload => ht load failure (h.endingOf? hload)

theorem FailsTyped.congr {first second : Session σ} (ht : second.FailsTyped) (h : first.loads = second.loads) :
    first.FailsTyped := by
  intro load failure hload
  rw [endingOf?_congr h] at hload
  exact ht load failure hload

/-! ## What an event makes of the calls -/

/-- The calls after an event: one call at most is another, it is cancelled only if it was so before, and it is over only
if it has gone on or was cancelled. -/
inductive CallsAfter (session : Session σ) (event : Event) : List Call → Prop where
  | same : CallsAfter session event session.calls
  | changed (call : Nat) (old new : Call) (hold : session.calls[call]? = some old)
      (hcancelled : new.cancelled = old.cancelled)
      (hover : new.stage.isOver = true → event = .resume call ∨ old.cancelled = true) :
      CallsAfter session event (session.calls.set call new)

@[simp] theorem stepLoad_calls (answer : σ → Request → Reply × σ) (session : Session σ) (load : Nat) :
    (session.stepLoad answer load).calls = session.calls := by
  unfold stepLoad
  split
  · rfl
  · split
    · rfl
    · rfl
    · split
      · rfl
      · split <;> rfl
    · split <;> rfl
    · rfl

@[simp] theorem openGate_calls (session : Session σ) (gate : String) : (session.openGate gate).calls = session.calls := by
  have hpass : ∀ (session : Session σ) (load : Nat), (passGate gate session load).calls = session.calls := by
    intro session load
    unfold passGate
    split
    · split
      · split <;> rfl
      · rfl
    · rfl
  unfold openGate
  generalize List.range session.loads.length = loads
  have hopened : { session with opened := gate :: session.opened }.calls = session.calls := rfl
  generalize { session with opened := gate :: session.opened } = opened at hopened ⊢
  induction loads generalizing opened with
  | nil => exact hopened
  | cons load loads ih => exact ih _ ((hpass opened load).trans hopened)

theorem Resumption.callsAfter {session after : Session σ} {call : Nat} (h : Resumption session call after) :
    CallsAfter session (.resume call) after.calls := by
  cases h with
  | idle => exact .same
  | commits load component hcall => exact .changed call _ _ hcall rfl fun _ => .inl rfl
  | overtaken load component hcall => exact .changed call _ _ hcall rfl fun _ => .inl rfl
  | joins state ending hcall => exact .changed call state _ hcall rfl fun _ => .inl rfl
  | fails state ending lastError hcall => exact .changed call state _ hcall rfl fun _ => .inl rfl
  | follows callState loadState hcall => exact .changed call callState _ hcall rfl fun _ => .inl rfl

theorem handle_callsAfter (answer : σ → Request → Reply × σ) (session : Session σ) (event : Event) :
    CallsAfter session event (handle answer session event).calls := by
  cases event with
  | begin call =>
    simp only [handle, beginCall]
    split
    · rename_i work cancelled hcall
      cases cancelled with
      | true =>
        rw [if_pos rfl, endCall_eq session hcall]
        exact .changed call _ _ hcall rfl fun _ => .inr rfl
      | false =>
        rw [if_neg Bool.false_ne_true, startLoad_eq hcall, setCall_calls, enqueue_calls, cancelLoad_calls]
        refine .changed call _ _ hcall rfl fun hover => ?_
        simp [CallStage.isOver] at hover
    · exact .same
  | step load =>
    simp only [handle, stepLoad_calls]
    exact .same
  | resume call => exact (resumeCall_resumption session call).callsAfter
  | relay call =>
    simp only [handle, relayCall]
    split
    · rename_i load cancelled hcall
      refine .changed call _ _ hcall rfl fun hover => ?_
      simp [CallStage.isOver] at hover
    · exact .same

theorem CallsAfter.cancelled {session : Session σ} {event : Event} {calls : List Call}
    (h : CallsAfter session event calls) (hcalls : ∀ state ∈ session.calls, state.cancelled = false) :
    ∀ state ∈ calls, state.cancelled = false := by
  intro state hstate
  cases h with
  | same => exact hcalls state hstate
  | changed call old new hold hcancelled hover =>
    rcases List.mem_or_eq_of_mem_set hstate with hwas | rfl
    · exact hcalls state hwas
    · rw [hcancelled]
      exact hcalls old (List.mem_of_getElem? hold)

/-- An event ends a call that was not cancelled only by letting it go on. -/
theorem CallsAfter.cause {session after : Session σ} {event : Event} (h : CallsAfter session event after.calls)
    (hcalls : ∀ state ∈ session.calls, state.cancelled = false) {call : Nat} {ending : Ending}
    (hbefore : session.outcomeOf? call = none) (hafter : after.outcomeOf? call = some ending) :
    event = .resume call := by
  rcases outcomeOf?_eq_some.mp hafter with ⟨state, hstate, hstage⟩
  have hnew : ¬session.calls[call]? = some state := by
    intro hold
    have hover := outcomeOf?_eq_some.mpr ⟨state, hold, hstage⟩
    rw [hbefore] at hover
    cases hover
  generalize hafterCalls : after.calls = calls at h hstate
  cases h with
  | same => exact absurd hstate hnew
  | changed other old new hold hcancelled hover =>
    rcases getElem?_set_cases hstate with hwas | ⟨rfl, rfl⟩
    · exact absurd hwas hnew
    · rcases hover (by rw [hstage]; rfl) with hevent | hflag
      · exact hevent
      · rw [hcalls old (List.mem_of_getElem? hold)] at hflag
        cases hflag

/-! ## Moves -/

/-- A session in which a call was just entered. -/
def entered (session : Session σ) (work : Remote Component) : Session σ :=
  { session with calls := session.calls ++ [⟨.unstarted work, false⟩] }

theorem load_eq (answer : σ → Request → Reply × σ) (session : Session σ) (work : Remote Component) :
    session.load work = handle answer (session.entered work) (.begin session.calls.length) := rfl

theorem entered_not_cancelled {session : Session σ} (hcalls : ∀ state ∈ session.calls, state.cancelled = false)
    (work : Remote Component) : ∀ state ∈ (session.entered work).calls, state.cancelled = false := by
  intro state hstate
  rcases List.mem_append.mp hstate with hwas | hnew
  · exact hcalls state hwas
  · rw [List.mem_singleton.mp hnew]

theorem outcomeOf?_entered {session : Session σ} (work : Remote Component) {call : Nat}
    (hbefore : session.outcomeOf? call = none) : (session.entered work).outcomeOf? call = none := by
  apply Option.eq_none_iff_forall_ne_some.mpr
  intro ending hending
  rcases outcomeOf?_eq_some.mp hending with ⟨state, hstate, hstage⟩
  rcases getElem?_append_cases hstate with hwas | ⟨-, rfl⟩
  · have hover := outcomeOf?_eq_some.mpr ⟨state, hwas, hstage⟩
    rw [hbefore] at hover
    cases hover
  · cases hstage

/-- What a move that cancels no call does to calls: an event happens, perhaps with one more call, or nothing. -/
theorem take_calls_cases (answer : σ → Request → Reply × σ) (session : Session σ) {move : Move}
    (hmove : move.isCancelling = false) :
    (∃ event, session.cause move = some event ∧
      take answer session move = handle answer (session.dequeue move) event) ∨
    (∃ work, (take answer session move).calls = (session.entered work).calls) ∨
    (∃ work call, take answer session move = handle answer (session.entered work) (.begin call)) ∨
    (take answer session move).calls = session.calls := by
  cases move with
  | start work => exact .inr (.inl ⟨work, rfl⟩)
  | load work => exact .inr (.inr (.inl ⟨work, _, load_eq answer session work⟩))
  | cancel call => cases hmove
  | openGate gate => exact .inr (.inr (.inr (openGate_calls session gate)))
  | bind name value => exact .inr (.inr (.inr rfl))
  | preview =>
    refine .inr (.inr (.inr ?_))
    simp only [take, preview]
    split <;> rfl
  | previewLive libraries patience =>
    refine .inr (.inr (.inr ?_))
    simp only [take, previewLive]
    split <;> rfl
  | happen place =>
    rcases hcause : session.cause (.happen place) with _ | event
    · refine .inr (.inr (.inr ?_))
      simp only [cause] at hcause
      simp only [take, happen, hcause]
    · exact .inl ⟨event, rfl, take_of_cause answer hcause⟩

/-- A call ends only when it goes on. -/
theorem Undisturbed.cause {session : Session σ} (hu : Undisturbed session) (answer : σ → Request → Reply × σ)
    {move : Move} (hmove : move.isCancelling = false) {call : Nat} {ending : Ending}
    (hbefore : session.outcomeOf? call = none) (hafter : (take answer session move).outcomeOf? call = some ending) :
    session.cause move = some (.resume call) := by
  rcases take_calls_cases answer session hmove with
    ⟨event, hcause, htake⟩ | ⟨work, hcalls⟩ | ⟨work, other, htake⟩ | hcalls
  · rw [htake] at hafter
    have hflags : ∀ state ∈ (session.dequeue move).calls, state.cancelled = false := by
      rw [dequeue_calls]
      exact hu.calls
    have hopen : (session.dequeue move).outcomeOf? call = none := by
      rw [outcomeOf?_congr (dequeue_calls session move), hbefore]
    rw [hcause, (handle_callsAfter answer _ event).cause hflags hopen hafter]
  · rw [outcomeOf?_congr hcalls, outcomeOf?_entered work hbefore] at hafter
    cases hafter
  · rw [htake] at hafter
    have hbegin := (handle_callsAfter answer _ _).cause (entered_not_cancelled hu.calls work)
      (outcomeOf?_entered work hbefore) hafter
    cases hbegin
  · rw [outcomeOf?_congr hcalls, hbefore] at hafter
    cases hafter

/-- The call ends in what can become of the session when it goes on. -/
theorem Undisturbed.resumption {session : Session σ} (hu : Undisturbed session) (answer : σ → Request → Reply × σ)
    {move : Move} (hmove : move.isCancelling = false) {call : Nat} {ending : Ending}
    (hbefore : session.outcomeOf? call = none) (hafter : (take answer session move).outcomeOf? call = some ending) :
    Resumption (session.dequeue move) call (take answer session move) := by
  rw [take_of_cause answer (hu.cause answer hmove hbefore hafter)]
  exact resumeCall_resumption (session.dequeue move) call

/-! ## Runs -/

theorem isCancelled_lt {session : Session σ} {load : Nat} (h : session.isCancelled load = true) :
    load < session.loads.length := by
  rcases isCancelled_iff.mp h with ⟨state, hstate, -⟩
  exact (List.getElem?_eq_some_iff.mp hstate).1

theorem undisturbed_on (host : σ) : Undisturbed (.on host) := by
  constructor <;> simp [on, isCancelled]

theorem Undisturbed.dequeue {session : Session σ} (hu : Undisturbed session) (move : Move) :
    Undisturbed (session.dequeue move) := by
  cases move <;> exact ⟨hu.calls, hu.newest⟩

theorem Undisturbed.take {session : Session σ} (hu : Undisturbed session) (hc : Coherent session)
    (answer : σ → Request → Reply × σ) {move : Move} (hmove : move.isCancelling = false) :
    Undisturbed (take answer session move) := by
  constructor
  · rcases take_calls_cases answer session hmove with
      ⟨event, -, htake⟩ | ⟨work, hcalls⟩ | ⟨work, other, htake⟩ | hcalls
    · rw [htake]
      exact (handle_callsAfter answer _ event).cancelled (hu.dequeue move).calls
    · rw [hcalls]
      exact entered_not_cancelled hu.calls work
    · rw [htake]
      exact (handle_callsAfter answer _ _).cancelled (entered_not_cancelled hu.calls work)
    · rw [hcalls]
      exact hu.calls
  · intro load hcancelled
    by_cases hwas : session.isCancelled load = true
    · -- a load that was superseded stays so
      exact (take_extends answer session move).not_isNewest (isCancelled_lt hwas) (hu.newest load hwas)
    · rcases isCancelled_of_take hc answer (Bool.eq_false_iff.mpr hwas) hcancelled with
        ⟨-, ⟨call, rfl, -⟩ | ⟨hnewest, hlength⟩⟩
      · cases hmove
      · have hlast := isNewest_iff.mp hnewest
        apply Bool.eq_false_iff.mpr
        intro hstill
        have hstill' := isNewest_iff.mp hstill
        omega

theorem Undisturbed.play {session : Session σ} (hu : Undisturbed session) (hc : Coherent session)
    (answer : σ → Request → Reply × σ) {moves : List Move} (hmoves : ∀ move ∈ moves, move.isCancelling = false) :
    Undisturbed (play answer session moves) := by
  have hboth : Coherent (Session.play answer session moves) ∧ Undisturbed (Session.play answer session moves) := by
    refine play_induction (P := fun session => Coherent session ∧ Undisturbed session) answer session moves ?_ ⟨hc, hu⟩
    rintro session move hmem ⟨hc, hu⟩
    exact ⟨hc.take answer move, hu.take hc answer (hmoves move hmem)⟩
  exact hboth.2

/-- The newest load does not end by cancellation. -/
theorem Undisturbed.newest_ne_cancelled {session : Session σ} (hu : Undisturbed session) (hc : Coherent session)
    {load : Nat} (hnewest : session.isNewest load = true) : session.endingOf? load ≠ some .cancelled := by
  intro hending
  rcases endingOf?_eq_some.mp hending with ⟨state, hstate, hstage⟩
  have hflag : session.isCancelled load = true := isCancelled_iff.mpr ⟨state, hstate, (hc.marked hstate hstage).mp rfl⟩
  rw [hu.newest load hflag] at hnewest
  cases hnewest

end Showcase.Session
