import Showcase.Proofs.Session.Coherence

/-!
# Taking turns

When events happen in the order in which they became due, a call whose load has ended goes on before any newer load
takes a step: its turn stands in the queue ahead of theirs. So no newer load has ended by then.
-/

namespace Showcase.Session

open Network

variable {σ : Type} {cause : Option Event} {before after : Session σ}

/-! ## What one change adds -/

namespace Change

/-- Events are added to the queue only. -/
theorem queue_grows (h : Change cause before after) : ∃ more, after.queue = before.queue ++ more := by
  cases h with
  | called work events => exact ⟨events, rfl⟩
  | launched => exact ⟨_, rfl⟩
  | moved load state stage cancelled events => exact ⟨events, rfl⟩
  | finished load state => exact ⟨state.watchers, rfl⟩
  | told => exact ⟨_, rfl⟩
  | _ => exact ⟨[], (List.append_nil _).symm⟩

/-- A call comes to wait for its own load only as it starts that load. -/
theorem awaiting_of_new (h : Change cause before after) {call load : Nat}
    (hcall : after.calls[call]? = some ⟨.awaiting load, false⟩) :
    before.calls[call]? = some ⟨.awaiting load, false⟩ ∨ load = before.loads.length := by
  cases h.callOrigin hcall with
  | kept hold => exact .inl hold
  | launched => exact .inr rfl

/-- A load comes to an end only in a step of its own, and what watches it then becomes due. -/
theorem endingOf?_of_new (h : Change cause before after) {load : Nat} {ending : Ending}
    (hload : after.endingOf? load = some ending) :
    before.endingOf? load = some ending ∨
      (cause = some (.step load) ∧ after.loads.length = before.loads.length ∧
        ∃ state, before.loads[load]? = some state ∧ state.stage.isOver = false ∧
          after.queue = before.queue ++ state.watchers) := by
  rcases endingOf?_eq_some.mp hload with ⟨state, hstate, hstage⟩
  cases h.loadOrigin hstate with
  | kept hold => exact .inl (endingOf?_eq_some.mpr ⟨state, hold, hstage⟩)
  | started => cases hstage
  | moved old stage cancelled hold hopen hgoes =>
    cases hstage
    cases hgoes
  | finished old own hcause hold hopen hown hlength hqueue => exact .inr ⟨hcause, hlength, old, hold, hopen, hqueue⟩
  | watched old call hold => exact .inl (endingOf?_eq_some.mpr ⟨old, hold, hstage⟩)

end Change

/-! ## Promptness -/

/-- A call that waits for its own load, which has ended, goes on before newer loads take steps, also those that are
about to. -/
def Prompt (session : Session σ) (pending : List Event) : Prop :=
  ∀ call load ending, session.calls[call]? = some ⟨.awaiting load, false⟩ →
    session.endingOf? load = some ending → session.isCancelled load = false →
    (∀ newer, load < newer → session.endingOf? newer = none) ∧
      ∃ earlier later, pending ++ session.queue = earlier ++ .resume call :: later ∧
        ∀ newer, load < newer → .step newer ∉ earlier

theorem endingOf?_lt {session : Session σ} {load : Nat} {ending : Ending} (h : session.endingOf? load = some ending) :
    load < session.loads.length := by
  rcases endingOf?_eq_some.mp h with ⟨state, hstate, -⟩
  exact (List.getElem?_eq_some_iff.mp hstate).1

/-- A load that ends without having been cancelled is the newest, so its call gets its turn before a newer one
starts. -/
theorem prompt_of_ended (hc : Coherent before) {call load : Nat}
    {state : Load} (hcall : before.calls[call]? = some ⟨.awaiting load, false⟩) (hcause : cause = some (.step load))
    (hlength : after.loads.length = before.loads.length) (hload : before.loads[load]? = some state)
    (hopen : state.stage.isOver = false) (hqueue : after.queue = before.queue ++ state.watchers)
    (hkept : before.isCancelled load = false) :
    (∀ newer, load < newer → after.endingOf? newer = none) ∧
      ∃ earlier later, cause.toList ++ after.queue = earlier ++ .resume call :: later ∧
        ∀ newer, load < newer → .step newer ∉ earlier := by
  -- a load that is not the newest has ended before or is cancelled
  have hlast : ¬load + 1 < before.loads.length := by
    intro hlate
    rcases hc.superseded hload hlate with hover | hcancelled
    · simp [hopen] at hover
    · simp [isCancelled, hload, hcancelled] at hkept
  rcases hc.watched hload with ⟨caller, calls, hwatchers⟩
  rcases callerOf?_eq_some.mp (hc.awaited hcall) with ⟨same, rest, hsame, hrest⟩
  rw [hload] at hsame
  cases hsame
  rw [hrest] at hwatchers
  cases hwatchers
  -- the call goes on after everything that is due so far, and no step of a newer load is
  refine ⟨?_, cause.toList ++ before.queue, calls.map Event.relay, ?_, ?_⟩
  · intro newer hnewer
    apply Option.eq_none_iff_forall_ne_some.mpr
    intro ending hending
    have hlt := endingOf?_lt hending
    omega
  · rw [hqueue, hrest, List.append_assoc]
  · intro newer hnewer hstep
    rcases List.mem_append.mp hstep with hcaused | hqueued
    · simp only [hcause, Option.toList_some, List.mem_singleton, Event.step.injEq] at hcaused
      omega
    · have hlt := hc.due hqueued
      omega

theorem Change.prompt (h : Change cause before after) (hc : Coherent before) (hp : Prompt before cause.toList) :
    Prompt after cause.toList := by
  intro call load ending hcall hload hkept
  have hcall' : before.calls[call]? = some ⟨.awaiting load, false⟩ := by
    rcases h.awaiting_of_new hcall with hwas | hnew
    · exact hwas
    · -- a load that has just started has not ended
      rcases h.endingOf?_of_new hload with hwas | ⟨-, -, state, hstate, -⟩
      · have hlt := endingOf?_lt hwas
        omega
      · have hlt := (List.getElem?_eq_some_iff.mp hstate).1
        omega
  -- what is not cancelled now was not cancelled before
  have hkept' : before.isCancelled load = false := by
    apply Bool.eq_false_iff.mpr
    intro hcancelled
    rw [h.extends.isCancelled hcancelled] at hkept
    cases hkept
  rcases h.endingOf?_of_new hload with hwas | ⟨hcause, hlength, state, hstate, hopen, hqueue⟩
  · -- the load had ended before: the call's turn stays where it is, and nothing is put ahead of it
    rcases hp _ _ _ hcall' hwas hkept' with ⟨hnewer, earlier, later, hqueue, hearlier⟩
    rcases h.queue_grows with ⟨more, hmore⟩
    refine ⟨?_, earlier, later ++ more, ?_, hearlier⟩
    · intro newer hlt
      apply Option.eq_none_iff_forall_ne_some.mpr
      intro other hother
      rcases h.endingOf?_of_new hother with hbefore | ⟨hcause, -⟩
      · rw [hnewer newer hlt] at hbefore
        cases hbefore
      · -- the step that happens would stand ahead of the call's turn
        rw [hcause] at hqueue
        cases earlier with
        | nil => cases hqueue
        | cons first rest =>
          rcases List.cons.inj hqueue with ⟨hfirst, -⟩
          exact hearlier newer hlt (by simp [← hfirst])
    · rw [hmore, ← List.append_assoc, hqueue, List.append_assoc, List.cons_append]
  · exact prompt_of_ended hc hcall' hcause hlength hstate hopen hqueue hkept'

theorem Changes.prompt (h : Changes cause before after) (hc : Coherent before) (hp : Prompt before cause.toList) :
    Prompt after cause.toList := by
  induction h with
  | refl => exact hp
  | tail hchanges hchange ih => exact hchange.prompt (Changes.coherent hchanges hc) ih

/-! ## Runs in order -/

/-- A call that went on does not wait for a load that has ended. -/
theorem Resumption.endingOf?_eq_none {session after : Session σ} {call load : Nat} (h : Resumption session call after)
    (hcall : after.calls[call]? = some ⟨.awaiting load, false⟩) : after.endingOf? load = none := by
  -- after anything but waiting on, the call is over or follows another load
  have hother : ∀ {items : List Call} {old new : Call}, items[call]? = some old →
      (items.set call new)[call]? = some ⟨.awaiting load, false⟩ → new = ⟨.awaiting load, false⟩ := by
    intro items old new hold hnew
    have hbound := (List.getElem?_eq_some_iff.mp hold).1
    rw [List.getElem?_set_self hbound] at hnew
    exact Option.some.inj hnew
  cases h with
  | idle hwaits => exact hwaits load hcall
  | commits own component hold => cases hother hold hcall
  | overtaken own component hold => cases hother hold hcall
  | joins state ending hold => cases hother hold hcall
  | fails state ending lastError hold => cases hother hold hcall
  | follows callState loadState hold => cases hother hold hcall

theorem Prompt.dequeue {session : Session σ} (hp : Prompt session []) {move : Move} (hmove : move.isInOrder = true) :
    Prompt (session.dequeue move) (session.cause move).toList := by
  intro call load ending hcall hload hkept
  rw [dequeue_calls] at hcall
  rw [endingOf?_congr (dequeue_loads session move)] at hload
  rw [isCancelled_congr (dequeue_loads session move)] at hkept
  rcases hp _ _ _ hcall hload hkept with ⟨hnewer, hturn⟩
  refine ⟨fun newer hlt => ?_, ?_⟩
  · rw [endingOf?_congr (dequeue_loads session move), hnewer newer hlt]
  · rw [cause_append_dequeue session hmove]
    exact hturn

theorem Prompt.take {session : Session σ} (hc : Coherent session) (hp : Prompt session [])
    (answer : σ → Request → Reply × σ) {move : Move} (hmove : move.isInOrder = true) :
    Prompt (take answer session move) [] := by
  rcases take_changes answer session move with ⟨name, value, rfl⟩ | hchanges
  · exact hp
  intro call load ending hcall hload hkept
  obtain ⟨hnewer, earlier, later, hqueue, hearlier⟩ :=
    hchanges.prompt (hc.dequeue move) (hp.dequeue hmove) _ _ _ hcall hload hkept
  refine ⟨hnewer, ?_⟩
  rcases hcause : session.cause move with _ | event
  · rw [hcause] at hqueue
    exact ⟨earlier, later, hqueue, hearlier⟩
  · rw [hcause, Option.toList_some, List.singleton_append] at hqueue
    cases earlier with
    | nil =>
      -- the call itself has just gone on
      rcases List.cons.inj hqueue with ⟨hevent, -⟩
      rw [hevent] at hcause
      rw [take_of_cause answer hcause] at hcall hload
      have hnone : (handle answer (session.dequeue move) (.resume call)).endingOf? load = none :=
        (resumeCall_resumption _ call).endingOf?_eq_none hcall
      rw [hnone] at hload
      cases hload
    | cons first rest =>
      -- the event that has happened stood ahead of the call's turn
      rcases List.cons.inj hqueue with ⟨-, hrest⟩
      exact ⟨rest, later, hrest, fun newer hlt hstep => hearlier newer hlt (List.mem_cons_of_mem first hstep)⟩

theorem Prompt.play {session : Session σ} (hc : Coherent session) (hp : Prompt session [])
    (answer : σ → Request → Reply × σ) {moves : List Move} (hmoves : ∀ move ∈ moves, move.isInOrder = true) :
    Prompt (play answer session moves) [] := by
  have hboth : Coherent (Session.play answer session moves) ∧ Prompt (Session.play answer session moves) [] := by
    refine play_induction (P := fun session => Coherent session ∧ Prompt session []) answer session moves ?_ ⟨hc, hp⟩
    rintro session move hmem ⟨hc, hp⟩
    exact ⟨hc.take answer move, hp.take hc answer (hmoves move hmem)⟩
  exact hboth.2

theorem prompt_on (host : σ) : Prompt (.on host) [] := by
  intro call load ending hcall
  simp [on] at hcall

end Showcase.Session
