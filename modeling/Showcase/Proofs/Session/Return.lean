import Showcase.Proofs.Session.Turns

/-!
# What calls return

A call is meant to return the component that the session then holds, from its own load or a newer one. It does so
exactly when the call that started the newest load has returned its component by then. A call whose load succeeded but
was overtaken returns what the session held before, and a call that joins the newest load before that load's own call
goes on returns a component that the session does not hold yet.
-/

namespace Showcase.Session

open Network

variable {σ : Type} {cause : Option Event}

/-- The call that started the newest load has returned its component. -/
def IsSettled (session : Session σ) : Prop :=
  ∃ owner component, session.callerOf? session.newest = some owner ∧
    session.outcomeOf? owner = some (.finished (.ok component))

/-- A component is that of a load or of a newer one, and the session holds it. -/
structure IsCurrent (session : Session σ) (load : Nat) (component : Component) : Prop where
  origin : ∃ origin, load ≤ origin ∧ session.endingOf? origin = some (.finished (.ok component))
  held : session.component = some component

/-- No two loads ended with the same component. -/
def HasDistinctComponents (session : Session σ) : Prop :=
  ∀ first second component, session.endingOf? first = some (.finished (.ok component)) →
    session.endingOf? second = some (.finished (.ok component)) → first = second

/-! ## Returning -/

/-- Only a call that goes on returns a component. -/
theorem Change.outcomeOf?_ok {before after : Session σ} (h : Change cause before after) {call : Nat}
    {component : Component} (hcause : cause ≠ some (.resume call))
    (houtcome : after.outcomeOf? call = some (.finished (.ok component))) :
    before.outcomeOf? call = some (.finished (.ok component)) := by
  rcases outcomeOf?_eq_some.mp houtcome with ⟨state, hstate, hstage⟩
  cases h.callOrigin hstate with
  | kept hold => exact outcomeOf?_eq_some.mpr ⟨state, hold, hstage⟩
  | entered => cases hstage
  | launched => cases hstage
  | watched => cases hstage
  | told => cases hstage
  | returned stage cancelled ending hold hopen hresumed =>
    cases hstage
    exact absurd (hresumed component rfl) hcause
  | committed load own hresumed => exact absurd hresumed hcause
  | warned stage cancelled hold hopen =>
    cases hstage
    cases hopen

theorem Changes.outcomeOf?_ok {before after : Session σ} (h : Changes cause before after) {call : Nat}
    {component : Component} (hcause : cause ≠ some (.resume call))
    (houtcome : after.outcomeOf? call = some (.finished (.ok component))) :
    before.outcomeOf? call = some (.finished (.ok component)) := by
  induction h with
  | refl => exact houtcome
  | tail _ hchange ih => exact ih (hchange.outcomeOf?_ok hcause houtcome)

/-- A call that returns a component has just gone on. -/
theorem resumption_of_returns (answer : σ → Request → Reply × σ) {session : Session σ} {move : Move} {call : Nat}
    {component : Component} (hbefore : session.outcomeOf? call = none)
    (hafter : (take answer session move).outcomeOf? call = some (.finished (.ok component))) :
    Resumption (session.dequeue move) call (take answer session move) := by
  by_cases hcause : session.cause move = some (.resume call)
  · rw [take_of_cause answer hcause]
    exact resumeCall_resumption (session.dequeue move) call
  · have hdequeued : (session.dequeue move).outcomeOf? call ≠ some (.finished (.ok component)) := by
      simp [outcomeOf?_congr (dequeue_calls session move), hbefore]
    rcases take_changes answer session move with ⟨name, value, rfl⟩ | hchanges
    · exact absurd hafter hdequeued
    · exact absurd (hchanges.outcomeOf?_ok hcause hafter) hdequeued

/-- How a call returns a component: it commits, or it leaves the component of the session as it is, being overtaken
itself or joining the newest load. -/
theorem Resumption.returns {session after : Session σ} {call : Nat} {component : Component}
    (h : Resumption session call after) (hbefore : session.outcomeOf? call = none)
    (hafter : after.outcomeOf? call = some (.finished (.ok component))) :
    (∃ load, session.calls[call]? = some ⟨.awaiting load, false⟩ ∧ session.isNewest load = true ∧
      after.loads = session.loads ∧ after.component = some component) ∨
    (∃ load own, session.calls[call]? = some ⟨.awaiting load, false⟩ ∧ session.isNewest load = false ∧
      session.endingOf? load = some (.finished (.ok own)) ∧ component = session.component.getD own ∧
      after.loads = session.loads ∧ after.component = session.component) ∨
    (session.endingOf? session.newest = some (.finished (.ok component)) ∧ after.loads = session.loads ∧
      after.component = session.component) := by
  cases h with
  | idle => simp [hbefore] at hafter
  | commits load own hcall hnewest hload =>
    have hbound := (List.getElem?_eq_some_iff.mp hcall).1
    have hsame : own = component := by simpa [outcomeOf?, commit, hbound] using hafter
    subst hsame
    exact .inl ⟨load, hcall, hnewest, rfl, rfl⟩
  | overtaken load own hcall hlate hload =>
    have hbound := (List.getElem?_eq_some_iff.mp hcall).1
    have hsame : session.component.getD own = component := by simpa [outcomeOf?, hbound] using hafter
    exact .inr (.inl ⟨load, own, hcall, hlate, hload, hsame.symm, rfl, rfl⟩)
  | joins state ending hcall hcancelled hown hnewest =>
    have hbound := (List.getElem?_eq_some_iff.mp hcall).1
    have hsame : ending = .finished (.ok component) := by simpa [outcomeOf?, hbound] using hafter
    exact .inr (.inr ⟨hsame ▸ hnewest, rfl, rfl⟩)
  | fails state ending lastError hcall hopen hfailing =>
    have hbound := (List.getElem?_eq_some_iff.mp hcall).1
    exact absurd (by simpa [outcomeOf?, hbound] using hafter) (hfailing.ne_ok component)
  | follows callState loadState hcall hown hload hopen =>
    have hbound := (List.getElem?_eq_some_iff.mp hcall).1
    simp [outcomeOf?, hbound] at hafter

/-! ## Returning what the session holds -/

theorem IsSettled.endingOf?_newest {session : Session σ} (hc : Coherent session) (h : session.IsSettled) :
    ∃ component, session.component = some component ∧
      session.endingOf? session.newest = some (.finished (.ok component)) := by
  rcases h with ⟨owner, component, howner, houtcome⟩
  have hlt := callerOf?_lt howner
  have hlast : session.newest + 1 = session.loads.length := by
    simp only [newest] at hlt ⊢
    omega
  exact ⟨component, hc.current hlast howner houtcome⟩

/-- In a settled session the component of the newest load is the one that the session holds. -/
theorem IsSettled.isCurrent {session : Session σ} (hc : Coherent session) (h : session.IsSettled) {load call : Nat}
    {component : Component} (hcaller : session.callerOf? load = some call)
    (hnewest : session.endingOf? session.newest = some (.finished (.ok component))) :
    session.IsCurrent load component := by
  rcases h.endingOf?_newest hc with ⟨held, hheld, hending⟩
  rw [hnewest] at hending
  cases hending
  have hlt := callerOf?_lt hcaller
  exact ⟨⟨session.newest, by simp only [newest]; omega, hnewest⟩, hheld⟩

/-- A session that holds the component of the newest load, and of no other, is settled. -/
theorem isSettled_of_held {session : Session σ} (hc : Coherent session) (hdistinct : session.HasDistinctComponents)
    {component : Component} (hheld : session.component = some component)
    (hnewest : session.endingOf? session.newest = some (.finished (.ok component))) : session.IsSettled := by
  rcases hc.held hheld with ⟨load, owner, hload, howner, houtcome⟩
  have hsame := hdistinct _ _ _ hload hnewest
  subst hsame
  exact ⟨owner, component, howner, houtcome⟩

/-! ## Being overtaken -/

section

variable {session after : Session σ} {pending : List Event} {call load : Nat} {own : Component}

/-- A call whose load succeeded and was overtaken goes on before any newer load has ended. -/
theorem endingOf?_newer_of_overtaken (hc : Coherent session) (hp : Prompt session pending)
    (hcall : session.calls[call]? = some ⟨.awaiting load, false⟩)
    (hload : session.endingOf? load = some (.finished (.ok own))) {newer : Nat} (hlt : load < newer) :
    session.endingOf? newer = none := by
  have hkept : session.isCancelled load = false := by
    rcases endingOf?_eq_some.mp hload with ⟨state, hstate, hstage⟩
    have hmarked := hc.marked hstate hstage
    simpa [isCancelled, hstate] using hmarked
  exact (hp _ _ _ hcall hload hkept).1 newer hlt

/-- It leaves a session that is not settled: the newest load has not ended. -/
theorem not_isSettled_of_overtaken (hc : Coherent session) (hc' : Coherent after) (hp : Prompt session pending)
    (hcall : session.calls[call]? = some ⟨.awaiting load, false⟩) (hlate : session.isNewest load = false)
    (hload : session.endingOf? load = some (.finished (.ok own))) (hloads : after.loads = session.loads) :
    ¬after.IsSettled := by
  intro hsettled
  rcases hsettled.endingOf?_newest hc' with ⟨held, -, hnewest⟩
  have hlater : load < after.newest := by
    have hlt := endingOf?_lt hload
    simp only [isNewest, beq_eq_false_iff_ne, ne_eq] at hlate
    simp only [newest, hloads]
    omega
  rw [endingOf?_congr hloads, endingOf?_newer_of_overtaken hc hp hcall hload hlater] at hnewest
  cases hnewest

/-- It leaves no component of its own load or of a newer one, as no call has returned that of its own load. -/
theorem not_isCurrent_of_overtaken (hc : Coherent session) (hp : Prompt session pending)
    (hcall : session.calls[call]? = some ⟨.awaiting load, false⟩)
    (hload : session.endingOf? load = some (.finished (.ok own))) (hbefore : session.outcomeOf? call = none)
    (hloads : after.loads = session.loads) (hcomponent : after.component = session.component)
    (hdistinct : after.HasDistinctComponents) (component : Component) : ¬after.IsCurrent load component := by
  intro hcurrent
  rcases hcurrent.origin with ⟨origin, hle, horigin⟩
  have hsame : origin = load := by
    refine Nat.le_antisymm (Nat.not_lt.mp fun hlt => ?_) hle
    rw [endingOf?_congr hloads, endingOf?_newer_of_overtaken hc hp hcall hload hlt] at horigin
    cases horigin
  subst hsame
  -- what the session holds has been returned by the call of its load, which would be this one
  have hheld := hcurrent.held
  rw [hcomponent] at hheld
  rcases hc.held hheld with ⟨committed, owner, hcommitted, howner, houtcome⟩
  have hsame := hdistinct _ _ _ horigin (by rw [endingOf?_congr hloads, hcommitted])
  subst hsame
  rw [hc.awaited hcall] at howner
  cases howner
  rw [hbefore] at houtcome
  cases houtcome

end

/-! ## What is returned -/

theorem Resumption.returns_current {session after : Session σ} {call load : Nat} {component : Component}
    (h : Resumption session call after) (hc : Coherent session) (hc' : Coherent after) {pending : List Event}
    (hp : Prompt session pending) (hcaller : after.callerOf? load = some call)
    (hbefore : session.outcomeOf? call = none)
    (hafter : after.outcomeOf? call = some (.finished (.ok component))) :
    (after.IsSettled → after.IsCurrent load component) ∧
    (after.HasDistinctComponents → after.IsCurrent load component → after.IsSettled) ∧
    (¬after.IsSettled → after.component = session.component ∧
      (after.endingOf? after.newest = some (.finished (.ok component)) ∨
        ∃ own, after.endingOf? load = some (.finished (.ok own)) ∧ component = session.component.getD own)) := by
  have hown : ∀ {own}, after.loads = session.loads → session.calls[call]? = some ⟨.awaiting own, false⟩ →
      own = load := by
    intro own hloads hcall
    have howner : after.callerOf? own = some call := by
      rw [callerOf?_congr hloads]
      exact hc.awaited hcall
    exact hc'.single howner hcaller
  rcases h.returns hbefore hafter with
    ⟨own, hcall, hnewest, hloads, hcomponent⟩ |
    ⟨own, result, hcall, hlate, hload, hresult, hloads, hcomponent⟩ |
    ⟨hnewest, hloads, hcomponent⟩
  · -- the call commits: its own load is the newest, and the session is settled with it
    have hsame := hown hloads hcall
    subst hsame
    have hlast : own = after.newest := by
      rw [← isNewest_congr hloads] at hnewest
      exact eq_newest hnewest
    have hsettled : after.IsSettled := ⟨call, component, hlast ▸ hcaller, hafter⟩
    rcases hsettled.endingOf?_newest hc' with ⟨held, hheld, hending⟩
    rw [hcomponent] at hheld
    cases hheld
    exact ⟨fun hsettled => hsettled.isCurrent hc' hcaller hending, fun _ _ => hsettled,
      fun hunsettled => absurd hsettled hunsettled⟩
  · -- the call is overtaken: no newer load has ended, and its own component was not taken over
    have hsame := hown hloads hcall
    subst hsame
    have hending : after.endingOf? own = some (.finished (.ok result)) := by rw [endingOf?_congr hloads, hload]
    have hunsettled := not_isSettled_of_overtaken hc hc' hp hcall hlate hload hloads
    refine ⟨fun hsettled => absurd hsettled hunsettled, ?_, fun _ => ⟨hcomponent, .inr ⟨result, hending, hresult⟩⟩⟩
    intro hdistinct hcurrent
    exact absurd hcurrent (not_isCurrent_of_overtaken hc hp hcall hload hbefore hloads hcomponent hdistinct component)
  · -- the call joins the newest load
    have hending : after.endingOf? after.newest = some (.finished (.ok component)) := by
      rw [endingOf?_congr hloads, show after.newest = session.newest by simp [newest, hloads], hnewest]
    exact ⟨fun hsettled => hsettled.isCurrent hc' hcaller hending,
      fun hdistinct hcurrent => isSettled_of_held hc' hdistinct hcurrent.held hending,
      fun _ => ⟨hcomponent, .inl hending⟩⟩

/-- When events happen in order, a call that returns a component returns the one that the session then holds, of its own
load or of a newer one, if the call that started the newest load has returned its component, and only then if the loads
ended with distinct components. Otherwise it leaves the component of the session as it was, and returns the one of the
newest load or, being overtaken, the one that the session held before. -/
theorem returns_current_iff_settled (answer : σ → Request → Reply × σ) (host : σ) {moves : List Move} {move : Move}
    (hmoves : ∀ move ∈ moves, move.isInOrder = true) (hmove : move.isInOrder = true) (call load : Nat)
    (component : Component) :
    let session := play answer (.on host) moves
    let after := take answer session move
    after.callerOf? load = some call → session.outcomeOf? call = none →
    after.outcomeOf? call = some (.finished (.ok component)) →
    (after.IsSettled → after.IsCurrent load component) ∧
    (after.HasDistinctComponents → after.IsCurrent load component → after.IsSettled) ∧
    (¬after.IsSettled → after.component = session.component ∧
      (after.endingOf? after.newest = some (.finished (.ok component)) ∨
        ∃ own, after.endingOf? load = some (.finished (.ok own)) ∧ component = session.component.getD own)) := by
  intro session after hcaller hbefore hafter
  have hc : Coherent session := (coherent_on host).play answer moves
  have hp : Prompt session [] := (prompt_on host).play (coherent_on host) answer hmoves
  have hsame : (session.dequeue move).component = session.component := by cases move <;> rfl
  have hopen : (session.dequeue move).outcomeOf? call = none := by
    rw [outcomeOf?_congr (dequeue_calls session move), hbefore]
  rw [← hsame]
  exact (resumption_of_returns answer hbefore hafter).returns_current (hc.dequeue move) (hc.take answer move)
    (hp.dequeue hmove) hcaller hopen hafter

/-! ## Runs with both outcomes -/

/-- A component that shows nothing. -/
def blank (name : String) : Component :=
  { name := name, category := "", description := none, html := "", css := "", script := none, labels := [],
    thumbnail := none, layout := .static }

/-- A host that answers nothing. -/
def silent (_ : Unit) (_ : Request) : Reply × Unit := (.failed "", ())

/-- Two loads overlap. The call of the older one follows the newer one and returns its component before the session holds
it; the call of the newer one returns what the session then holds. -/
theorem returns_current_of_overlapping_loads :
    let moves : List Move := [.load (.done (.ok (blank "Old"))), .load (.done (.ok (blank "New"))), .happen 0, .happen 0]
    let followed := take silent (play silent (.on ()) moves) (.happen 0)
    let committed := take silent (play silent (.on ()) (moves ++ [.happen 0])) (.happen 0)
    followed.component = none ∧ committed.IsCurrent 1 (blank "New") := by
  intro moves followed committed
  have hunsettled : ¬followed.IsSettled := by
    rintro ⟨owner, component, howner, hreturned⟩
    obtain rfl := Option.some.inj (howner.symm.trans (show _ = some 1 from rfl))
    cases hreturned.symm.trans (show _ = none from rfl)
  exact ⟨((returns_current_iff_settled silent () (by simp [moves, Move.isInOrder]) rfl 0 0 (blank "New") rfl rfl
      rfl).2.2 hunsettled).1,
    (returns_current_iff_settled silent () (by simp [moves, Move.isInOrder]) rfl 1 1 (blank "New") rfl rfl rfl).1
      ⟨1, blank "New", rfl, rfl⟩⟩

/-- A call whose load has succeeded when a newer load starts returns the component of an older load. -/
theorem not_returns_current :
    ¬∀ (moves : List Move) (move : Move) (call load : Nat) (component : Component),
      (∀ move ∈ moves, move.isInOrder = true) → move.isInOrder = true →
      let session := play silent (.on ()) moves
      let after := take silent session move
      after.callerOf? load = some call → session.outcomeOf? call = none →
      after.outcomeOf? call = some (.finished (.ok component)) → after.IsCurrent load component := by
  intro h
  have hcurrent := h
    [.load (.done (.ok (blank "Old"))), .happen 0, .happen 0, .load (.done (.ok (blank "Own"))), .happen 0,
      .load (.done (.ok (blank "New")))]
    (.happen 0) 1 1 (blank "Old") (by simp [Move.isInOrder]) rfl rfl rfl rfl
  rcases hcurrent.origin with ⟨origin, hle, horigin⟩
  have hlt : origin < 3 := endingOf?_lt horigin
  obtain rfl | rfl : origin = 1 ∨ origin = 2 := by omega
  · -- the call's own load ended with its own component
    have hown := horigin.symm.trans (show _ = some (Ending.finished (.ok (blank "Own"))) from rfl)
    simp [blank] at hown
  · -- the newer load has not ended
    cases horigin.symm.trans (show _ = none from rfl)

end Showcase.Session
