import Showcase.Proofs.Session.Origin

/-!
# Coherence

What holds of a session in every state that it can reach: which call waits for which load, which loads may still run,
and where the component of the session came from. Each part is shown to survive every change, and to survive an event's
being taken from the queue; runs then keep all of them.
-/

namespace Showcase.Session

open Network

variable {σ : Type} {cause : Option Event}

/-- What holds of a session in every state that it can reach. -/
structure Coherent (session : Session σ) : Prop where
  /-- The call that started a load goes on first after it, and then the calls that follow it. -/
  watched : ∀ {load : Nat} {state : Load}, session.loads[load]? = some state →
    ∃ caller calls, state.watchers = .resume caller :: List.map Event.relay calls
  /-- A call that started a load has begun. -/
  begun : ∀ {load call : Nat}, session.callerOf? load = some call →
    ∃ state, session.calls[call]? = some state ∧ ∀ work, state.stage ≠ .unstarted work
  /-- A call starts one load only. -/
  single : ∀ {load other call : Nat}, session.callerOf? load = some call → session.callerOf? other = some call →
    load = other
  /-- A call that waits for its own load has started it. -/
  awaited : ∀ {call load : Nat} {cancelled : Bool}, session.calls[call]? = some ⟨.awaiting load, cancelled⟩ →
    session.callerOf? load = some call
  /-- A call follows only loads that were started after its own. -/
  followed : ∀ {call load : Nat} {informed cancelled : Bool},
    session.calls[call]? = some ⟨.following load informed, cancelled⟩ →
    load < session.loads.length ∧ ∃ own, own < load ∧ session.callerOf? own = some call
  /-- As long as a load runs, the call that started it waits for it, unless that call was cancelled. -/
  patient : ∀ {call load : Nat} {state : Call}, session.callerOf? load = some call →
    session.calls[call]? = some state → session.endingOf? load = none →
    state.stage = .awaiting load ∨ state.cancelled = true
  /-- A load that is not the newest is over or cancelled. -/
  superseded : ∀ {load : Nat} {state : Load}, session.loads[load]? = some state →
    load + 1 < session.loads.length → state.stage.isOver = true ∨ state.cancelled = true
  /-- A load ends by cancellation exactly if it was cancelled. -/
  marked : ∀ {load : Nat} {state : Load} {ending : Ending}, session.loads[load]? = some state →
    state.stage = .ended ending → (ending = .cancelled ↔ state.cancelled = true)
  /-- Only loads that have started take steps. -/
  due : ∀ {load : Nat}, .step load ∈ session.queue → load < session.loads.length
  /-- Once the call that started the newest load has returned its component, the session holds that component. -/
  current : ∀ {load call : Nat} {component : Component}, load + 1 = session.loads.length →
    session.callerOf? load = some call → session.outcomeOf? call = some (.finished (.ok component)) →
    session.component = some component ∧ session.endingOf? load = some (.finished (.ok component))
  /-- The component of the session is that of a load whose own call has returned it. -/
  held : ∀ {component : Component}, session.component = some component →
    ∃ load call, session.endingOf? load = some (.finished (.ok component)) ∧ session.callerOf? load = some call ∧
      session.outcomeOf? call = some (.finished (.ok component))

theorem callerOf?_lt {session : Session σ} {load call : Nat} (h : session.callerOf? load = some call) :
    load < session.loads.length := by
  rcases callerOf?_eq_some.mp h with ⟨state, later, hload, -⟩
  exact (List.getElem?_eq_some_iff.mp hload).1

theorem Coherent.callerOf?_isSome {session : Session σ} (hc : Coherent session) {load : Nat}
    (hload : load < session.loads.length) : ∃ call, session.callerOf? load = some call := by
  have hstate := List.getElem?_eq_getElem hload
  rcases hc.watched hstate with ⟨caller, calls, hwatchers⟩
  exact ⟨caller, callerOf?_eq_some.mpr ⟨_, _, hstate, hwatchers⟩⟩

/-- A load that was cancelled ends with no result. -/
theorem Coherent.cancelled_of_isCancelled {session : Session σ} (hc : Coherent session) {load : Nat} {ending : Ending}
    (hload : session.endingOf? load = some ending) (hflag : session.isCancelled load = true) : ending = .cancelled := by
  rcases endingOf?_eq_some.mp hload with ⟨state, hstate, hstage⟩
  rcases isCancelled_iff.mp hflag with ⟨same, hsame, hcancelled⟩
  rw [hstate] at hsame
  cases hsame
  exact (hc.marked hstate hstage).mpr hcancelled

/-- A call that started the newest load waits for it as long as it is open: it follows newer loads only. -/
theorem Coherent.awaiting_newest {session : Session σ} (hc : Coherent session) {call : Nat} {state : Call}
    (hcaller : session.callerOf? session.newest = some call) (hcall : session.calls[call]? = some state)
    (hopen : state.stage.isOver = false) : state.stage = .awaiting session.newest := by
  rcases state with ⟨stage, cancelled⟩
  cases stage with
  | unstarted work =>
    rcases hc.begun hcaller with ⟨begun, hstate, hbegun⟩
    rw [hcall] at hstate
    cases hstate
    exact absurd rfl (hbegun work)
  | awaiting own => rw [hc.single (hc.awaited hcall) hcaller]
  | following load informed =>
    rcases hc.followed hcall with ⟨hlt, own, hown, howner⟩
    rw [hc.single howner hcaller, newest] at hown
    omega
  | ended ending => cases hopen

/-- The call that started a load is known from the beginning. -/
theorem Coherent.callerOf?_of_extends {before after : Session σ} (hc : Coherent before) (h : Extends before after)
    {load call : Nat} (hload : load < before.loads.length) (hcaller : after.callerOf? load = some call) :
    before.callerOf? load = some call := by
  rcases hc.callerOf?_isSome hload with ⟨earlier, hearlier⟩
  have hsame := h.callerOf? hearlier
  rw [hcaller] at hsame
  rw [hearlier, hsame]

/-! ## What one change preserves -/

namespace Change

variable {before after : Session σ}

theorem preserve_watched (h : Change cause before after) (hc : Coherent before) {load : Nat} {state : Load}
    (hload : after.loads[load]? = some state) :
    ∃ caller calls, state.watchers = .resume caller :: List.map Event.relay calls := by
  cases h.loadOrigin hload with
  | kept hold => exact hc.watched hold
  | started work call => exact ⟨call, [], rfl⟩
  | moved old stage cancelled hold => exact @hc.watched _ old hold
  | finished old ending hcause hold => exact @hc.watched _ old hold
  | watched old call hold =>
    -- a call that comes to follow the load goes on after all others
    rcases hc.watched hold with ⟨caller, calls, hwatchers⟩
    exact ⟨caller, calls ++ [call], by simp [hwatchers]⟩

/-- A load that was not there before is the only one, and the call that starts it has just begun. -/
theorem callerOf?_of_new (h : Change cause before after) {load call : Nat}
    (hcaller : after.callerOf? load = some call) (hnew : ¬load < before.loads.length) :
    load = before.loads.length ∧ after.calls[call]? = some ⟨.awaiting load, false⟩ ∧
      ∃ work, before.calls[call]? = some ⟨.unstarted work, false⟩ := by
  have hlt := callerOf?_lt hcaller
  cases h with
  | launched starter work hcall hquiet =>
    have hload : load = before.loads.length := by
      simp only [setCall_loads, enqueue_loads, List.length_append, List.length_singleton] at hlt
      omega
    subst hload
    have hstarter : starter = call := by simpa [callerOf?] using hcaller
    subst hstarter
    have hbound := (List.getElem?_eq_some_iff.mp hcall).1
    exact ⟨rfl, by simp [hbound], work, hcall⟩
  | _ => simp [endLoad, commit] at hlt; omega

theorem preserve_begun (h : Change cause before after) (hc : Coherent before) {load call : Nat}
    (hcaller : after.callerOf? load = some call) :
    ∃ state, after.calls[call]? = some state ∧ ∀ work, state.stage ≠ .unstarted work := by
  by_cases hold : load < before.loads.length
  · rcases hc.begun (hc.callerOf?_of_extends h.extends hold hcaller) with ⟨state, hstate, hbegun⟩
    rcases h.extends.calls hstate with ⟨later, hlater, hcontinues⟩
    exact ⟨later, hlater, fun work hwork => hbegun work (hcontinues.begun work hwork)⟩
  · rcases h.callerOf?_of_new hcaller hold with ⟨-, hcall, -⟩
    exact ⟨_, hcall, by simp⟩

theorem preserve_single (h : Change cause before after) (hc : Coherent before) {load other call : Nat}
    (hload : after.callerOf? load = some call) (hother : after.callerOf? other = some call) : load = other := by
  -- a call that starts a load now has not begun before, so no older load is its own
  have hfresh : ∀ {older newer}, older < before.loads.length → ¬newer < before.loads.length →
      after.callerOf? older = some call → after.callerOf? newer = some call → False := by
    intro older newer hold hnew holder hnewer
    rcases h.callerOf?_of_new hnewer hnew with ⟨-, -, work, hunstarted⟩
    rcases hc.begun (hc.callerOf?_of_extends h.extends hold holder) with ⟨state, hstate, hbegun⟩
    rw [hunstarted] at hstate
    cases hstate
    exact hbegun work rfl
  by_cases hold : load < before.loads.length <;> by_cases hold' : other < before.loads.length
  · exact hc.single (hc.callerOf?_of_extends h.extends hold hload) (hc.callerOf?_of_extends h.extends hold' hother)
  · exact (hfresh hold hold' hload hother).elim
  · exact (hfresh hold' hold hother hload).elim
  · rw [(h.callerOf?_of_new hload hold).1, (h.callerOf?_of_new hother hold').1]

theorem preserve_awaited (h : Change cause before after) (hc : Coherent before) {call load : Nat} {cancelled : Bool}
    (hcall : after.calls[call]? = some ⟨.awaiting load, cancelled⟩) : after.callerOf? load = some call := by
  cases h.callOrigin hcall with
  | kept hold => exact h.extends.callerOf? (hc.awaited hold)
  | launched work hold hcaller => exact hcaller
  | warned stage flagged hold => exact h.extends.callerOf? (hc.awaited hold)

theorem preserve_patient (h : Change cause before after) (hc : Coherent before) {call load : Nat} {state : Call}
    (hcaller : after.callerOf? load = some call) (hcall : after.calls[call]? = some state)
    (hload : after.endingOf? load = none) : state.stage = .awaiting load ∨ state.cancelled = true := by
  by_cases hold : load < before.loads.length
  · have hcaller' := hc.callerOf?_of_extends h.extends hold hcaller
    have hrunning : before.endingOf? load = none := by
      apply Option.eq_none_iff_forall_ne_some.mpr
      intro ending hending
      rw [h.extends.endingOf? hending] at hload
      cases hload
    have hwas : ∀ {state : Call}, before.calls[call]? = some state →
        state.stage = .awaiting load ∨ state.cancelled = true :=
      fun hstate => hc.patient hcaller' hstate hrunning
    cases h.callOrigin hcall with
    | kept hstate => exact hwas hstate
    | entered work =>
      rcases h.preserve_begun hc hcaller with ⟨begun, hbegun, hstage⟩
      rw [hcall] at hbegun
      cases hbegun
      exact absurd rfl (hstage work)
    | launched work hstate =>
      rcases hwas hstate with hstage | hflag
      · cases hstage
      · cases hflag
    | returned stage cancelled ending hstate hopen hcause hown hwaited =>
      -- a call that returns does not wait for a load that runs
      rcases hwas hstate with hstage | hflag
      · rcases hwaited load hstage with hflag | hended
        · exact .inr hflag
        · exact absurd hrunning hended
      · exact .inr hflag
    | committed own component hcause hstate hnewest hended =>
      rcases hwas hstate with hstage | hflag
      · cases hstage
        rw [hrunning] at hended
        cases hended
      · cases hflag
    | watched stage cancelled newest hstate hown =>
      rcases hwas hstate with hstage | hflag
      · cases hown with
        | awaiting own hlate hended =>
          cases hstage
          rw [hrunning] at hended
          cases hended
        | following => cases hstage
      · exact .inr hflag
    | told newest informed cancelled cancelled' hstate hcancelled =>
      rcases hwas hstate with hstage | hflag
      · cases hstage
      · exact .inr (hcancelled hflag)
    | warned => exact .inr rfl
  · -- a new load is the one that the call has just started
    rcases h.callerOf?_of_new hcaller hold with ⟨-, hnew, -⟩
    rw [hcall] at hnew
    cases hnew
    exact .inl rfl

theorem preserve_superseded (h : Change cause before after) (hc : Coherent before) {load : Nat} {state : Load}
    (hload : after.loads[load]? = some state) (hlate : load + 1 < after.loads.length) :
    state.stage.isOver = true ∨ state.cancelled = true := by
  -- the load was superseded before, or it was the newest and is so no more because another has just started
  have hquiet : ∀ {old : Load}, before.loads[load]? = some old → old.stage.isOver = true ∨ old.cancelled = true := by
    intro old hold
    rcases h.length_cases with hsame | ⟨hgrown, hnewest⟩
    · exact hc.superseded hold (by omega)
    · by_cases hlast : load = before.newest
      · subst hlast
        exact hnewest old hold
      · rw [newest] at hlast
        exact hc.superseded hold (by omega)
  cases h.loadOrigin hload with
  | kept hold => exact hquiet hold
  | started work call hnew =>
    rcases h.length_cases with hsame | ⟨hgrown, -⟩
    · omega
    · omega
  | moved old stage cancelled hold hopen hstage hcancelled =>
    rcases hquiet hold with hover | hflagged
    · rw [hopen] at hover
      cases hover
    · exact .inr (hcancelled hflagged)
  | finished => exact .inl rfl
  | watched old call hold => exact @hquiet old hold

theorem preserve_marked (h : Change cause before after) (hc : Coherent before) {load : Nat} {state : Load}
    {ending : Ending} (hload : after.loads[load]? = some state) (hstage : state.stage = .ended ending) :
    ending = .cancelled ↔ state.cancelled = true := by
  cases h.loadOrigin hload with
  | kept hold => exact hc.marked hold hstage
  | started => cases hstage
  | moved old stage cancelled hold hopen hgoes =>
    cases hstage
    cases hgoes
  | finished old own hcause hold hopen hown =>
    cases hstage
    exact hown
  | watched old call hold => exact @hc.marked _ old _ hold hstage

theorem preserve_due (h : Change cause before after) (hc : Coherent before) {load : Nat}
    (hqueue : .step load ∈ after.queue) : load < after.loads.length := by
  have hkept : Event.step load ∈ before.queue → load < after.loads.length :=
    fun hold => Nat.lt_of_lt_of_le (hc.due hold) h.extends.length_le
  cases h with
  | called work events hevents =>
    rcases List.mem_append.mp hqueue with hold | hnew
    · exact hkept hold
    · exact absurd hnew (hevents load)
  | launched call work hcall hquiet =>
    rcases List.mem_append.mp hqueue with hold | hnew
    · exact hkept hold
    · cases List.mem_singleton.mp hnew
      simp
  | moved other old stage cancelled events hother hopen hstage hcancelled hevents =>
    rcases List.mem_append.mp hqueue with hold | hnew
    · exact hkept hold
    · rw [hevents load hnew]
      simpa using (List.getElem?_eq_some_iff.mp hother).1
  | finished other old ending hcause hother =>
    rcases List.mem_append.mp hqueue with hold | hnew
    · exact hkept hold
    · -- what watches a load are calls
      rcases hc.watched hother with ⟨caller, calls, hwatchers⟩
      simp [hwatchers] at hnew
  | told other newest informed cancelled cancelled' hother =>
    rcases List.mem_append.mp hqueue with hold | hnew
    · exact hkept hold
    · simp at hnew
  | aside => exact hkept hqueue
  | returned => exact hkept hqueue
  | committed => exact hkept hqueue
  | watched => exact hkept hqueue
  | warned => exact hkept hqueue

theorem preserve_followed (h : Change cause before after) (hc : Coherent before) {call load : Nat}
    {informed cancelled : Bool} (hcall : after.calls[call]? = some ⟨.following load informed, cancelled⟩) :
    load < after.loads.length ∧ ∃ own, own < load ∧ after.callerOf? own = some call := by
  have hkept : ∀ {informed cancelled : Bool}, before.calls[call]? = some ⟨.following load informed, cancelled⟩ →
      load < after.loads.length ∧ ∃ own, own < load ∧ after.callerOf? own = some call := by
    intro informed cancelled hold
    rcases hc.followed hold with ⟨hload, own, hown, hcaller⟩
    exact ⟨Nat.lt_of_lt_of_le hload h.extends.length_le, own, hown, h.extends.callerOf? hcaller⟩
  cases h.callOrigin hcall with
  | kept hold => exact hkept hold
  | told load informed cancelled _ hold => exact hkept hold
  | warned stage flagged hold => exact hkept hold
  | watched stage cancelled load hold hown hnewest =>
    have hlast := isNewest_iff.mp hnewest
    refine ⟨Nat.lt_of_lt_of_le (by omega) h.extends.length_le, ?_⟩
    cases hown with
    | awaiting own hlate =>
      have hcaller := hc.awaited hold
      have hlt := callerOf?_lt hcaller
      simp only [isNewest, beq_eq_false_iff_ne, ne_eq] at hlate
      exact ⟨own, by omega, h.extends.callerOf? hcaller⟩
    | following earlier informed =>
      -- the load followed so far is older still than the newest, or the same
      rcases hc.followed hold with ⟨hlt, own, hown, hcaller⟩
      exact ⟨own, by omega, h.extends.callerOf? hcaller⟩

/-- The outcome of a call is new only if the call was open, and it then returns or commits. -/
theorem outcomeOf?_of_new (h : Change cause before after) {call : Nat} {ending : Ending}
    (houtcome : after.outcomeOf? call = some ending) :
    before.outcomeOf? call = some ending ∨
      (∃ state, before.calls[call]? = some state ∧ state.stage.isOver = false ∧
        (∀ component load, ending = .finished (.ok component) → state.stage = .awaiting load →
          before.isNewest load = false) ∧ after.component = before.component ∧ after.loads = before.loads) ∨
      ∃ load component, before.calls[call]? = some ⟨.awaiting load, false⟩ ∧ before.isNewest load = true ∧
        ending = .finished (.ok component) ∧ before.endingOf? load = some ending ∧
        after.component = some component ∧ after.loads = before.loads := by
  rcases outcomeOf?_eq_some.mp houtcome with ⟨state, hstate, hstage⟩
  cases h.callOrigin hstate with
  | kept hold => exact .inl (outcomeOf?_eq_some.mpr ⟨state, hold, hstage⟩)
  | entered => cases hstage
  | launched => cases hstage
  | watched => cases hstage
  | told => cases hstage
  | returned stage cancelled own hold hopen hcause hown hwaited hcomponent hloads =>
    cases hstage
    exact .inr (.inl ⟨_, hold, hopen, hown, hcomponent, hloads⟩)
  | committed load component hcause hold hnewest hload hcomponent hloads =>
    cases hstage
    exact .inr (.inr ⟨load, component, hold, hnewest, rfl, hload, hcomponent, hloads⟩)
  | warned stage cancelled hold hopen =>
    -- only a call that is not over can be cancelled
    cases hstage
    cases hopen

/-- The component is new only if a call has committed it. -/
theorem component_of_new (h : Change cause before after) :
    after.component = before.component ∨
      ∃ call load component, before.calls[call]? = some ⟨.awaiting load, false⟩ ∧ before.isNewest load = true ∧
        before.endingOf? load = some (.finished (.ok component)) ∧ after.component = some component ∧
        after.outcomeOf? call = some (.finished (.ok component)) := by
  cases h with
  | committed call load component hcause hcall hnewest hload =>
    have hbound := (List.getElem?_eq_some_iff.mp hcall).1
    exact .inr ⟨call, load, component, hcall, hnewest, hload, rfl, by simp [outcomeOf?, commit, hbound]⟩
  | _ => exact .inl rfl

theorem preserve_current (h : Change cause before after) (hc : Coherent before) {load call : Nat}
    {component : Component} (hnewest : load + 1 = after.loads.length) (hcaller : after.callerOf? load = some call)
    (houtcome : after.outcomeOf? call = some (.finished (.ok component))) :
    after.component = some component ∧ after.endingOf? load = some (.finished (.ok component)) := by
  rcases h.outcomeOf?_of_new houtcome with
    hwas | ⟨state, hcall, hopen, hown, -, hloads⟩ | ⟨own, committed, hcall, hown, hending, hload, hcomponent, hloads⟩
  · -- the call had returned before, so its load is not a new one
    have hold : load < before.loads.length := by
      apply Decidable.byContradiction
      intro hnew
      rcases h.callerOf?_of_new hcaller hnew with ⟨-, hawaiting, -⟩
      simp [outcomeOf?, hawaiting] at houtcome
    have hcaller' := hc.callerOf?_of_extends h.extends hold hcaller
    have hnewest' : load + 1 = before.loads.length := by
      have hle := h.extends.length_le
      omega
    rcases hc.current hnewest' hcaller' hwas with ⟨hcomponent, hload⟩
    refine ⟨?_, h.extends.endingOf? hload⟩
    rcases h.component_of_new with hsame | ⟨other, own, -, hother, hown, -, -, -⟩
    · rw [hsame, hcomponent]
    · -- the newest load has one caller, which cannot commit again
      have howner := hc.awaited hother
      rw [show own = load by have := isNewest_iff.mp hown; omega, hcaller'] at howner
      cases howner
      simp [outcomeOf?, hother] at hwas
  · -- the call returns without committing, which no open call does that waits for the newest load
    have hcaller' : before.callerOf? load = some call := by simpa [callerOf?, hloads] using hcaller
    rw [hloads] at hnewest
    have hlast := eq_newest (isNewest_iff.mpr hnewest)
    rw [hlast] at hcaller'
    have hlate := hown component _ rfl (hc.awaiting_newest hcaller' hcall hopen)
    rw [← hlast, isNewest_iff.mpr hnewest] at hlate
    cases hlate
  · -- the call commits its own load, and that is the one
    have hcaller' : before.callerOf? load = some call := by simpa [callerOf?, hloads] using hcaller
    have hsame := hc.single (hc.awaited hcall) hcaller'
    subst hsame
    cases hending
    exact ⟨hcomponent, h.extends.endingOf? hload⟩

theorem preserve_held (h : Change cause before after) (hc : Coherent before) {component : Component}
    (hcomponent : after.component = some component) :
    ∃ load call, after.endingOf? load = some (.finished (.ok component)) ∧ after.callerOf? load = some call ∧
      after.outcomeOf? call = some (.finished (.ok component)) := by
  rcases h.component_of_new with hsame | ⟨call, load, committed, hcall, -, hload, hcommitted, houtcome⟩
  · rw [hsame] at hcomponent
    rcases hc.held hcomponent with ⟨load, call, hload, hcaller, houtcome⟩
    exact ⟨load, call, h.extends.endingOf? hload, h.extends.callerOf? hcaller, h.extends.outcomeOf? houtcome⟩
  · rw [hcommitted] at hcomponent
    cases hcomponent
    exact ⟨load, call, h.extends.endingOf? hload, h.extends.callerOf? (hc.awaited hcall), houtcome⟩

theorem coherent (h : Change cause before after) (hc : Coherent before) : Coherent after where
  watched := h.preserve_watched hc
  begun := h.preserve_begun hc
  single := h.preserve_single hc
  awaited := h.preserve_awaited hc
  followed := h.preserve_followed hc
  patient := h.preserve_patient hc
  superseded := h.preserve_superseded hc
  marked := h.preserve_marked hc
  due := h.preserve_due hc
  current := h.preserve_current hc
  held := h.preserve_held hc

end Change

/-! ## What moves and runs preserve -/

theorem Changes.coherent {before after : Session σ} (h : Changes cause before after) (hc : Coherent before) :
    Coherent after := by
  induction h with
  | refl => exact hc
  | tail _ hchange ih => exact hchange.coherent ih

theorem Coherent.dequeue {session : Session σ} (hc : Coherent session) (move : Move) :
    Coherent (session.dequeue move) := by
  cases move with
  | happen place => exact { hc with due := fun hevent => hc.due (List.mem_of_mem_eraseIdx hevent) }
  | _ => exact hc

theorem coherent_on (host : σ) : Coherent (.on host) := by
  constructor <;> simp [on, callerOf?, outcomeOf?]

theorem Coherent.take {session : Session σ} (hc : Coherent session) (answer : σ → Request → Reply × σ) (move : Move) :
    Coherent (take answer session move) := by
  rcases take_changes answer session move with ⟨name, value, rfl⟩ | hchanges
  · exact { hc with }
  · exact hchanges.coherent (hc.dequeue move)

theorem Coherent.play {session : Session σ} (hc : Coherent session) (answer : σ → Request → Reply × σ)
    (moves : List Move) : Coherent (play answer session moves) :=
  play_induction answer session moves (fun _ move _ h => h.take answer move) hc

end Showcase.Session
