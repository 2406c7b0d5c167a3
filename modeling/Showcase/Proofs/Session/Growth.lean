import Showcase.Proofs.Session.Change

/-!
# What lasts

Loads and calls are only added. What is over stays as it is, a load that was cancelled stays so, and the call that
started a load stays the first to go on after it. `Extends` says so of two sessions, and holds between the beginning and
the end of every run.
-/

namespace Showcase.Session

open Network

variable {σ : Type} {cause : Option Event}

/-! ## Later states -/

/-- What may become of a load: one that is over stays as it is, a cancelled one stays cancelled, and calls that come to
follow it go on after those before them. -/
structure Load.Continues (old new : Load) : Prop where
  ended : old.stage.isOver = true → new = old
  cancelled : old.cancelled = true → new.cancelled = true
  watchers : ∃ calls : List Nat, new.watchers = old.watchers ++ calls.map Event.relay

/-- What may become of a call: one that is over stays as it is, and one that has begun does not begin again. -/
structure Call.Continues (old new : Call) : Prop where
  ended : old.stage.isOver = true → new = old
  begun : ∀ work, new.stage = .unstarted work → old.stage = .unstarted work

theorem Load.Continues.refl (load : Load) : load.Continues load := ⟨fun _ => rfl, id, [], by simp⟩

theorem Call.Continues.refl (call : Call) : call.Continues call := ⟨fun _ => rfl, fun _ => id⟩

theorem Load.Continues.trans {first second third : Load} (h : first.Continues second) (h' : second.Continues third) :
    first.Continues third := by
  refine ⟨?_, fun hc => h'.cancelled (h.cancelled hc), ?_⟩
  · intro hover
    have hsame := h.ended hover
    subst hsame
    exact h'.ended hover
  · rcases h.watchers with ⟨calls, hcalls⟩
    rcases h'.watchers with ⟨more, hmore⟩
    exact ⟨calls ++ more, by simp [hmore, hcalls]⟩

theorem Call.Continues.trans {first second third : Call} (h : first.Continues second) (h' : second.Continues third) :
    first.Continues third := by
  refine ⟨?_, fun work hwork => h.begun work (h'.begun work hwork)⟩
  intro hover
  have hsame := h.ended hover
  subst hsame
  exact h'.ended hover

/-- A session has come out of another: every load and every call is still there, as it may have become. -/
structure Extends (before after : Session σ) : Prop where
  loads : ∀ {load : Nat} {state : Load}, before.loads[load]? = some state →
    ∃ later, after.loads[load]? = some later ∧ state.Continues later
  calls : ∀ {call : Nat} {state : Call}, before.calls[call]? = some state →
    ∃ later, after.calls[call]? = some later ∧ state.Continues later

namespace Extends

variable {before after : Session σ}

/-- Nothing but loads and calls matters. -/
theorem of_eq (hloads : after.loads = before.loads) (hcalls : after.calls = before.calls) : Extends before after := by
  refine ⟨fun {load state} h => ⟨state, ?_, .refl state⟩, fun {call state} h => ⟨state, ?_, .refl state⟩⟩
  · rw [hloads, h]
  · rw [hcalls, h]

theorem refl (session : Session σ) : Extends session session := of_eq rfl rfl

theorem trans {first second third : Session σ} (h : Extends first second) (h' : Extends second third) :
    Extends first third := by
  refine ⟨fun hload => ?_, fun hcall => ?_⟩
  · rcases h.loads hload with ⟨state, hstate, hcontinues⟩
    rcases h'.loads hstate with ⟨later, hlater, hcontinues'⟩
    exact ⟨later, hlater, hcontinues.trans hcontinues'⟩
  · rcases h.calls hcall with ⟨state, hstate, hcontinues⟩
    rcases h'.calls hstate with ⟨later, hlater, hcontinues'⟩
    exact ⟨later, hlater, hcontinues.trans hcontinues'⟩

theorem length_le (h : Extends before after) : before.loads.length ≤ after.loads.length := by
  apply Nat.not_lt.mp
  intro hlast
  rcases h.loads (List.getElem?_eq_getElem hlast) with ⟨later, hlater, -⟩
  simp at hlater

theorem endingOf? (h : Extends before after) {load : Nat} {ending : Ending}
    (hending : before.endingOf? load = some ending) : after.endingOf? load = some ending := by
  rcases endingOf?_eq_some.mp hending with ⟨state, hstate, hstage⟩
  rcases h.loads hstate with ⟨later, hlater, hcontinues⟩
  have hsame := hcontinues.ended (LoadStage.isOver_iff.mpr ⟨ending, hstage⟩)
  exact endingOf?_eq_some.mpr ⟨later, hlater, hsame ▸ hstage⟩

theorem outcomeOf? (h : Extends before after) {call : Nat} {ending : Ending}
    (hending : before.outcomeOf? call = some ending) : after.outcomeOf? call = some ending := by
  rcases outcomeOf?_eq_some.mp hending with ⟨state, hstate, hstage⟩
  rcases h.calls hstate with ⟨later, hlater, hcontinues⟩
  have hsame := hcontinues.ended (CallStage.isOver_iff.mpr ⟨ending, hstage⟩)
  exact outcomeOf?_eq_some.mpr ⟨later, hlater, hsame ▸ hstage⟩

theorem callerOf? (h : Extends before after) {load call : Nat} (hcaller : before.callerOf? load = some call) :
    after.callerOf? load = some call := by
  rcases callerOf?_eq_some.mp hcaller with ⟨state, calls, hstate, hwatchers⟩
  rcases h.loads hstate with ⟨later, hlater, hcontinues⟩
  rcases hcontinues.watchers with ⟨more, hmore⟩
  exact callerOf?_eq_some.mpr ⟨later, calls ++ more.map Event.relay, hlater, by simp [hmore, hwatchers]⟩

theorem isCancelled (h : Extends before after) {load : Nat} (hload : before.isCancelled load = true) :
    after.isCancelled load = true := by
  rcases isCancelled_iff.mp hload with ⟨state, hstate, hcancelled⟩
  rcases h.loads hstate with ⟨later, hlater, hcontinues⟩
  exact isCancelled_iff.mpr ⟨later, hlater, hcontinues.cancelled hcancelled⟩

/-- A load that is not the newest any more never is again. -/
theorem not_isNewest (h : Extends before after) {load : Nat} (hload : load < before.loads.length)
    (hlate : before.isNewest load = false) : after.isNewest load = false := by
  have hle := h.length_le
  simp only [isNewest, beq_eq_false_iff_ne, ne_eq] at hlate ⊢
  omega

end Extends

/-! ## Changes and moves -/

theorem getElem?_set_continues {α : Type} {R : α → α → Prop} (hrefl : ∀ a, R a a) {items : List α} {place : Nat}
    {old new : α} (hold : items[place]? = some old) (hnew : R old new) {other : Nat} {item : α}
    (hitem : items[other]? = some item) : ∃ later, (items.set place new)[other]? = some later ∧ R item later := by
  by_cases hsame : place = other
  · subst hsame
    have hbound := (List.getElem?_eq_some_iff.mp hold).1
    rw [hold] at hitem
    cases hitem
    exact ⟨new, by simp [hbound], hnew⟩
  · exact ⟨item, by simp [hsame, hitem], hrefl item⟩

theorem getElem?_append_continues {α : Type} {R : α → α → Prop} (hrefl : ∀ a, R a a) {items : List α} (more : List α)
    {other : Nat} {item : α} (hitem : items[other]? = some item) :
    ∃ later, (items ++ more)[other]? = some later ∧ R item later := by
  have hbound := (List.getElem?_eq_some_iff.mp hitem).1
  exact ⟨item, by rw [List.getElem?_append_left hbound, hitem], hrefl item⟩

theorem setLoad_extends {session : Session σ} {load : Nat} {old new : Load}
    (hold : session.loads[load]? = some old) (hnew : old.Continues new) :
    Extends session (session.setLoad load new) :=
  ⟨getElem?_set_continues Load.Continues.refl hold hnew, fun {_ state} h => ⟨state, h, .refl state⟩⟩

theorem setCall_extends {session : Session σ} {call : Nat} {old new : Call}
    (hold : session.calls[call]? = some old) (hnew : old.Continues new) :
    Extends session (session.setCall call new) :=
  ⟨fun {_ state} h => ⟨state, h, .refl state⟩, getElem?_set_continues Call.Continues.refl hold hnew⟩

theorem enqueue_extends (session : Session σ) (events : List Event) : Extends session (session.enqueue events) :=
  .of_eq rfl rfl

/-- A load that is not over may become anything that keeps what watches it. -/
theorem Load.continues_of_open {old new : Load} (hopen : old.stage.isOver = false)
    (hcancelled : old.cancelled = true → new.cancelled = true)
    (hwatchers : ∃ calls : List Nat, new.watchers = old.watchers ++ calls.map Event.relay) : old.Continues new :=
  ⟨fun hover => by simp [hopen] at hover, hcancelled, hwatchers⟩

/-- A call that is not over may become anything that has begun. -/
theorem Call.continues_of_open {old new : Call} (hopen : old.stage.isOver = false)
    (hbegun : ∀ work, new.stage = .unstarted work → old.stage = .unstarted work) : old.Continues new :=
  ⟨fun hover => by simp [hopen] at hover, hbegun⟩

theorem Change.extends {before after : Session σ} (h : Change cause before after) : Extends before after := by
  cases h with
  | aside => exact .of_eq rfl rfl
  | called work events =>
    exact ⟨fun {_ state} h => ⟨state, h, .refl state⟩, getElem?_append_continues Call.Continues.refl _⟩
  | launched call work hcall hquiet =>
    -- the load is entered first; then the call is seen to have begun
    have hentered : Extends before
        { before with loads := before.loads ++ [Load.mk (.ready work) false [.resume call]] } :=
      ⟨getElem?_append_continues Load.Continues.refl _, fun {_ state} h => ⟨state, h, .refl state⟩⟩
    refine (hentered.trans (enqueue_extends _ _)).trans (setCall_extends hcall ?_)
    exact Call.continues_of_open rfl (by simp)
  | moved load state stage cancelled events hload hopen hstage hcancelled hevents =>
    refine (setLoad_extends hload ?_).trans (enqueue_extends _ _)
    exact Load.continues_of_open hopen hcancelled ⟨[], by simp⟩
  | finished load state ending hcause hload hopen hending =>
    refine (setLoad_extends hload ?_).trans (enqueue_extends _ _)
    exact Load.continues_of_open hopen id ⟨[], by simp⟩
  | returned call state ending hcall hopen =>
    exact setCall_extends hcall (Call.continues_of_open hopen (by simp))
  | committed call load component hcause hcall hnewest hload =>
    have hcommitted : Extends before (before.commit component) := .of_eq rfl rfl
    exact hcommitted.trans (setCall_extends hcall (Call.continues_of_open rfl (by simp)))
  | watched call callState load loadState hcall hown hnewest hload hopen =>
    refine (setLoad_extends hload ?_).trans (setCall_extends hcall ?_)
    · exact Load.continues_of_open hopen id ⟨[call], by simp⟩
    · exact Call.continues_of_open hown.isOver (by simp)
  | told call load informed cancelled cancelled' hcall =>
    refine (setCall_extends hcall ?_).trans (enqueue_extends _ _)
    exact Call.continues_of_open rfl (by simp)
  | warned call state hcall hopen =>
    exact setCall_extends hcall (Call.continues_of_open hopen fun _ => id)

theorem Changes.extends {before after : Session σ} (h : Changes cause before after) : Extends before after := by
  induction h with
  | refl => exact .refl _
  | tail _ hchange ih => exact ih.trans hchange.extends

theorem dequeue_extends (session : Session σ) (move : Move) : Extends session (session.dequeue move) := by
  cases move <;> exact .of_eq rfl rfl

theorem take_extends (answer : σ → Request → Reply × σ) (session : Session σ) (move : Move) :
    Extends session (take answer session move) := by
  rcases take_changes answer session move with ⟨name, value, rfl⟩ | hchanges
  · exact .of_eq rfl rfl
  · exact (dequeue_extends session move).trans hchanges.extends

theorem play_extends (answer : σ → Request → Reply × σ) (session : Session σ) (moves : List Move) :
    Extends session (play answer session moves) := by
  induction moves generalizing session with
  | nil => exact .refl session
  | cons move moves ih => exact (take_extends answer session move).trans (ih _)

end Showcase.Session
