import Showcase.Proofs.Session.Growth

/-!
# Where states come from

What a load or a call is after a change, in terms of what it was before: it is as it was, or it is new, or it is the one
that the change is about. Every invariant on single loads and calls is shown by these cases.
-/

namespace Showcase.Session

open Network

variable {σ : Type} {cause : Option Event} {before after : Session σ}

/-! ## Items of lists -/

theorem getElem?_set_cases {α : Type} {items : List α} {place other : Nat} {new item : α}
    (h : (items.set place new)[other]? = some item) : items[other]? = some item ∨ (other = place ∧ item = new) := by
  by_cases hsame : place = other
  · subst hsame
    rcases List.getElem?_eq_some_iff.mp h with ⟨hbound, hitem⟩
    rw [List.getElem_set_self] at hitem
    exact .inr ⟨rfl, hitem.symm⟩
  · rw [List.getElem?_set_ne hsame] at h
    exact .inl h

theorem getElem?_append_cases {α : Type} {items : List α} {place : Nat} {new item : α}
    (h : (items ++ [new])[place]? = some item) : items[place]? = some item ∨ (place = items.length ∧ item = new) := by
  by_cases hold : place < items.length
  · rw [List.getElem?_append_left hold] at h
    exact .inl h
  · rcases List.getElem?_eq_some_iff.mp h with ⟨hbound, hitem⟩
    rw [List.length_append, List.length_singleton] at hbound
    have hplace : place = items.length := by omega
    subst hplace
    rw [List.getElem_concat_length rfl] at hitem
    exact .inr ⟨rfl, hitem.symm⟩

/-! ## Calls -/

/-- What a call is after a change, and why. -/
inductive CallOrigin (cause : Option Event) (before after : Session σ) (call : Nat) : Call → Prop where
  | kept {state : Call} (hcall : before.calls[call]? = some state) : CallOrigin cause before after call state
  | entered (work : Remote Component) : CallOrigin cause before after call ⟨.unstarted work, false⟩
  | launched (work : Remote Component) (hcall : before.calls[call]? = some ⟨.unstarted work, false⟩)
      (hcaller : after.callerOf? before.loads.length = some call) :
      CallOrigin cause before after call ⟨.awaiting before.loads.length, false⟩
  | returned (stage : CallStage) (cancelled : Bool) (ending : Ending)
      (hcall : before.calls[call]? = some ⟨stage, cancelled⟩) (hopen : stage.isOver = false)
      (hcause : ∀ component, ending = .finished (.ok component) → cause = some (.resume call))
      (hown : ∀ component load, ending = .finished (.ok component) → stage = .awaiting load →
        before.isNewest load = false) (hwaited : before.HasWaited ⟨stage, cancelled⟩)
      (hcomponent : after.component = before.component) (hloads : after.loads = before.loads) :
      CallOrigin cause before after call ⟨.ended ending, cancelled⟩
  | committed (load : Nat) (component : Component) (hcause : cause = some (.resume call))
      (hcall : before.calls[call]? = some ⟨.awaiting load, false⟩) (hnewest : before.isNewest load = true)
      (hload : before.endingOf? load = some (.finished (.ok component)))
      (hcomponent : after.component = some component) (hloads : after.loads = before.loads) :
      CallOrigin cause before after call ⟨.ended (.finished (.ok component)), false⟩
  | watched (stage : CallStage) (cancelled : Bool) (load : Nat) (hcall : before.calls[call]? = some ⟨stage, cancelled⟩)
      (hown : before.IsSuperseded stage) (hnewest : before.isNewest load = true) :
      CallOrigin cause before after call ⟨.following load false, cancelled⟩
  | told (load : Nat) (informed cancelled cancelled' : Bool)
      (hcall : before.calls[call]? = some ⟨.following load informed, cancelled⟩)
      (hcancelled : cancelled = true → cancelled' = true) :
      CallOrigin cause before after call ⟨.following load true, cancelled'⟩
  | warned (stage : CallStage) (cancelled : Bool) (hcall : before.calls[call]? = some ⟨stage, cancelled⟩)
      (hopen : stage.isOver = false) : CallOrigin cause before after call ⟨stage, true⟩

/-- Every call after a change has an origin. -/
theorem Change.callOrigin (h : Change cause before after) {call : Nat} {state : Call}
    (hcall : after.calls[call]? = some state) : CallOrigin cause before after call state := by
  -- a change is of one call at most, and every other is kept
  cases h with
  | called work events hevents =>
    rcases getElem?_append_cases hcall with hold | ⟨-, rfl⟩
    · exact .kept hold
    · exact .entered work
  | launched starter work hstarter hquiet =>
    rcases getElem?_set_cases hcall with hold | ⟨rfl, rfl⟩
    · exact .kept hold
    · exact .launched work hstarter (callerOf?_eq_some.mpr ⟨_, [], List.getElem?_concat_length, rfl⟩)
  | returned other otherState ending hother hopen hcause hown hwaited =>
    rcases getElem?_set_cases hcall with hold | ⟨rfl, rfl⟩
    · exact .kept hold
    · exact .returned _ _ ending hother hopen hcause hown hwaited rfl rfl
  | committed other load component hcause hother hnewest hload =>
    rcases getElem?_set_cases hcall with hold | ⟨rfl, rfl⟩
    · exact .kept hold
    · exact .committed load component hcause hother hnewest hload rfl rfl
  | watched other otherState load loadState hother hown hnewest hload hopen =>
    rcases getElem?_set_cases hcall with hold | ⟨rfl, rfl⟩
    · exact .kept hold
    · exact .watched _ _ load hother hown hnewest
  | told other load informed cancelled cancelled' hother hcancelled =>
    rcases getElem?_set_cases hcall with hold | ⟨rfl, rfl⟩
    · exact .kept hold
    · exact .told load informed cancelled cancelled' hother hcancelled
  | warned other otherState hother hopen =>
    rcases getElem?_set_cases hcall with hold | ⟨rfl, rfl⟩
    · exact .kept hold
    · exact .warned _ _ hother hopen
  | aside => exact .kept hcall
  | moved => exact .kept hcall
  | finished => exact .kept hcall

/-! ## Loads -/

/-- What a load is after a change, and why. -/
inductive LoadOrigin (cause : Option Event) (before after : Session σ) (load : Nat) : Load → Prop where
  | kept {state : Load} (hload : before.loads[load]? = some state) : LoadOrigin cause before after load state
  | started (work : Remote Component) (call : Nat) (hload : load = before.loads.length) :
      LoadOrigin cause before after load ⟨.ready work, false, [.resume call]⟩
  | moved (old : Load) (stage : LoadStage) (cancelled : Bool) (hload : before.loads[load]? = some old)
      (hopen : old.stage.isOver = false) (hstage : stage.isOver = false)
      (hcancelled : old.cancelled = true → cancelled = true) :
      LoadOrigin cause before after load ⟨stage, cancelled, old.watchers⟩
  | finished (old : Load) (ending : Ending) (hcause : cause = some (.step load))
      (hload : before.loads[load]? = some old) (hopen : old.stage.isOver = false)
      (hending : ending = .cancelled ↔ old.cancelled = true) (hlength : after.loads.length = before.loads.length)
      (hqueue : after.queue = before.queue ++ old.watchers) :
      LoadOrigin cause before after load ⟨.ended ending, old.cancelled, old.watchers⟩
  | watched (old : Load) (call : Nat) (hload : before.loads[load]? = some old) (hopen : old.stage.isOver = false) :
      LoadOrigin cause before after load ⟨old.stage, old.cancelled, old.watchers ++ [.relay call]⟩

/-- Every load after a change has an origin. -/
theorem Change.loadOrigin (h : Change cause before after) {load : Nat} {state : Load}
    (hload : after.loads[load]? = some state) : LoadOrigin cause before after load state := by
  -- a change is of one load at most, and every other is kept
  cases h with
  | launched call work hcall hquiet =>
    rcases getElem?_append_cases hload with hold | ⟨hnew, rfl⟩
    · exact .kept hold
    · exact .started work call hnew
  | moved other old stage cancelled events hother hopen hstage hcancelled hevents =>
    rcases getElem?_set_cases hload with hold | ⟨rfl, rfl⟩
    · exact .kept hold
    · exact .moved old stage cancelled hother hopen hstage hcancelled
  | finished other old ending hcause hother hopen hending =>
    rcases getElem?_set_cases hload with hold | ⟨rfl, rfl⟩
    · exact .kept hold
    · exact .finished old ending hcause hother hopen hending (by simp [endLoad]) rfl
  | watched call callState other old hcall hown hnewest hother hopen =>
    rcases getElem?_set_cases hload with hold | ⟨rfl, rfl⟩
    · exact .kept hold
    · exact .watched old call hother hopen
  | aside => exact .kept hload
  | called => exact .kept hload
  | returned => exact .kept hload
  | committed => exact .kept hload
  | told => exact .kept hload
  | warned => exact .kept hload

/-- A change adds one load at most, and does so only when the newest load is over or cancelled. -/
theorem Change.length_cases (h : Change cause before after) :
    after.loads.length = before.loads.length ∨
      (after.loads.length = before.loads.length + 1 ∧ ∀ state, before.loads[before.newest]? = some state →
        state.stage.isOver = true ∨ state.cancelled = true) := by
  cases h with
  | launched call work hcall hquiet => exact .inr ⟨by simp, hquiet⟩
  | aside => exact .inl rfl
  | called => exact .inl rfl
  | moved => exact .inl (by simp)
  | finished => exact .inl (by simp [endLoad])
  | returned => exact .inl rfl
  | committed => exact .inl rfl
  | watched => exact .inl (by simp)
  | told => exact .inl rfl
  | warned => exact .inl rfl

end Showcase.Session
