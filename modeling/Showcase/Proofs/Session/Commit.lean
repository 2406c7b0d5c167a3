import Showcase.Proofs.Session.Coherence

/-!
# Taking over components

A session takes over a component when the call whose own load succeeded goes on while that load is the newest. No other
move changes the component, the values change with it or because they are given, and the loads whose components are
taken over come in the order in which they were started.
-/

namespace Showcase.Session

open Network

variable {σ : Type} {cause : Option Event}

/-- A move lets the call go on whose own load succeeded with a component and is the newest. -/
structure Commits (session : Session σ) (move : Move) (load : Nat) (component : Component) : Prop where
  resumed : ∃ call, session.cause move = some (.resume call) ∧ session.calls[call]? = some ⟨.awaiting load, false⟩
  newest : session.isNewest load = true
  succeeded : session.endingOf? load = some (.finished (.ok component))

/-- The component and the values are as before. -/
def Keeps (before after : Session σ) : Prop :=
  after.component = before.component ∧ after.bindings = before.bindings

theorem dequeue_keeps (session : Session σ) (move : Move) : Keeps session (session.dequeue move) := by
  cases move <;> exact ⟨rfl, rfl⟩

/-! ## What changes the component -/

/-- Only a call that goes on changes the component or the values. -/
theorem Change.keeps {before after : Session σ} (h : Change cause before after)
    (hcause : ∀ call, cause ≠ some (.resume call)) : Keeps before after := by
  cases h with
  | committed call load component hresumed => exact absurd hresumed (hcause call)
  | _ => exact ⟨rfl, rfl⟩

theorem Changes.keeps {before after : Session σ} (h : Changes cause before after)
    (hcause : ∀ call, cause ≠ some (.resume call)) : Keeps before after := by
  induction h with
  | refl => exact ⟨rfl, rfl⟩
  | tail _ hchange ih =>
    rcases hchange.keeps hcause with ⟨hcomponent, hbindings⟩
    exact ⟨hcomponent.trans ih.1, hbindings.trans ih.2⟩

/-- A call that goes on changes the component and the values by committing. -/
theorem Resumption.keeps {session after : Session σ} {call : Nat} (h : Resumption session call after)
    (hidle : ∀ load component, session.calls[call]? = some ⟨.awaiting load, false⟩ → session.isNewest load = true →
      session.endingOf? load ≠ some (.finished (.ok component))) : Keeps session after := by
  cases h with
  | commits load component hcall hnewest hload => exact absurd hload (hidle load component hcall hnewest)
  | _ => exact ⟨rfl, rfl⟩

theorem resumeCall_commits {session : Session σ} {call load : Nat} {component : Component}
    (hcall : session.calls[call]? = some ⟨.awaiting load, false⟩) (hnewest : session.isNewest load = true)
    (hload : session.endingOf? load = some (.finished (.ok component))) :
    session.resumeCall call =
      (session.commit component).setCall call ⟨.ended (.finished (.ok component)), false⟩ := by
  simp only [resumeCall, hcall, Bool.false_eq_true, if_false, hload, resumeOwn, hnewest, if_true]
  exact endCall_eq (session.commit component) hcall _

/-! ## Moves -/

/-- What a move that commits leaves behind. -/
theorem Commits.take_eq {session : Session σ} {move : Move} {load : Nat} {component : Component}
    (h : session.Commits move load component) (answer : σ → Request → Reply × σ) :
    ∃ call, session.calls[call]? = some ⟨.awaiting load, false⟩ ∧
      take answer session move =
        ((session.dequeue move).commit component).setCall call ⟨.ended (.finished (.ok component)), false⟩ := by
  rcases h.resumed with ⟨call, hcause, hcall⟩
  refine ⟨call, hcall, ?_⟩
  rw [take_of_cause answer hcause]
  refine resumeCall_commits (by rw [dequeue_calls, hcall]) ?_ ?_
  · rw [isNewest_congr (dequeue_loads session move), h.newest]
  · rw [endingOf?_congr (dequeue_loads session move), h.succeeded]

/-- Committing assigns the component and the values together. -/
theorem Commits.assigns {session : Session σ} {move : Move} {load : Nat} {component : Component}
    (h : session.Commits move load component) (answer : σ → Request → Reply × σ) :
    (take answer session move).component = some component ∧
      (take answer session move).bindings = component.labels := by
  rcases h.take_eq answer with ⟨call, -, htake⟩
  rw [htake]
  exact ⟨rfl, rfl⟩

/-- A move that does not commit keeps the component, and gives a value or keeps the values. -/
theorem keeps_of_not_commits (answer : σ → Request → Reply × σ) {session : Session σ} {move : Move}
    (h : ∀ load component, ¬session.Commits move load component) :
    (take answer session move).component = session.component ∧
      ((take answer session move).bindings = session.bindings ∨
        ∃ name value, move = .bind name value ∧
          (take answer session move).bindings = session.bindings.put name value) := by
  rcases take_changes answer session move with ⟨name, value, rfl⟩ | hchanges
  · exact ⟨rfl, .inr ⟨name, value, rfl, rfl⟩⟩
  -- taking an event from the queue changes neither, so what follows it is compared with the session without the event
  suffices hkeeps : Keeps (session.dequeue move) (take answer session move) by
    have hdequeue := dequeue_keeps session move
    exact ⟨hkeeps.1.trans hdequeue.1, .inl (hkeeps.2.trans hdequeue.2)⟩
  by_cases hresume : ∃ call, session.cause move = some (.resume call)
  · rcases hresume with ⟨call, hcause⟩
    rw [take_of_cause answer hcause]
    refine (resumeCall_resumption (session.dequeue move) call).keeps ?_
    intro load component hcall hnewest hload
    rw [dequeue_calls] at hcall
    rw [isNewest_congr (dequeue_loads session move)] at hnewest
    rw [endingOf?_congr (dequeue_loads session move)] at hload
    exact h load component ⟨⟨call, hcause, hcall⟩, hnewest, hload⟩
  · exact hchanges.keeps fun call hcause => hresume ⟨call, hcause⟩

/-! ## The order of commits -/

theorem Commits.callerOf? {session : Session σ} (hc : Coherent session) {move : Move} {load : Nat}
    {component : Component} (h : session.Commits move load component) :
    ∃ call, session.callerOf? load = some call ∧ session.outcomeOf? call = none := by
  rcases h.resumed with ⟨call, -, hcall⟩
  exact ⟨call, hc.awaited hcall, by simp [outcomeOf?, hcall]⟩

theorem Commits.lt {session : Session σ} {move : Move} {load : Nat} {component : Component}
    (h : session.Commits move load component) : load < session.loads.length := by
  have hnewest := isNewest_iff.mp h.newest
  omega

/-- A load whose component is taken over was started after every load whose component was taken over before. -/
theorem Commits.strictly_later {session : Session σ} (hc : Coherent session) (answer : σ → Request → Reply × σ)
    {move later : Move} {load newer : Nat} {component component' : Component} (more : List Move)
    (h : session.Commits move load component)
    (h' : (play answer session (move :: more)).Commits later newer component') : load < newer := by
  have hextends := play_extends answer session (move :: more)
  have hle := hextends.length_le
  have hnewest := isNewest_iff.mp h.newest
  have hnewest' := isNewest_iff.mp h'.newest
  apply Nat.lt_of_le_of_ne (by omega)
  intro hsame
  subst hsame
  -- the call that committed is over, so it does not wait for its load a second time
  rcases h.take_eq answer with ⟨call, hcall, htake⟩
  have hbound := (List.getElem?_eq_some_iff.mp hcall).1
  have hover : (take answer session move).outcomeOf? call = some (.finished (.ok component)) := by
    rw [htake]
    simp [outcomeOf?, commit, dequeue_calls, hbound]
  have hstill := (play_extends answer (take answer session move) more).outcomeOf? hover
  rcases h'.callerOf? (hc.play answer (move :: more)) with ⟨other, hother, hopen⟩
  rw [hextends.callerOf? (hc.awaited hcall)] at hother
  cases hother
  rw [← play_cons, hopen] at hstill
  cases hstill

/-- A load that was superseded, was cancelled or failed is never taken over. -/
theorem not_commits_of_lost {session : Session σ} (hc : Coherent session) (answer : σ → Request → Reply × σ)
    {load : Nat} (hload : load < session.loads.length)
    (hlost : session.isNewest load = false ∨ session.isCancelled load = true ∨
      ∃ failure, session.endingOf? load = some (.finished (.error failure)))
    (more : List Move) (move : Move) (component : Component) :
    ¬(play answer session more).Commits move load component := by
  intro h
  have hextends := play_extends answer session more
  rcases hlost with hlate | hcancelled | ⟨failure, hfailed⟩
  · have hlate' := hextends.not_isNewest hload hlate
    rw [h.newest] at hlate'
    cases hlate'
  · -- a cancelled load ends by cancellation, if at all
    have hending := (hc.play answer more).cancelled_of_isCancelled h.succeeded (hextends.isCancelled hcancelled)
    cases hending
  · have hfailed' := hextends.endingOf? hfailed
    rw [h.succeeded] at hfailed'
    cases hfailed'

end Showcase.Session
