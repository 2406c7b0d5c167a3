import Showcase.Proofs.Session.Return
import Showcase.Proofs.Session.Undisturbed

/-!
# Sessions at rest

A call notes the typed failure of its own load also when a newer load has started since. When events happen in order and
no call is cancelled, it does so before the newer load ends: once the call that started the newest load is over, the
session holds what that load came to, and no older failure is noted any more.
-/

namespace Showcase.Session

open Network

variable {σ : Type} {cause : Option Event}

/-! ## What notes a failure -/

theorem Change.lastError {before after : Session σ} (h : Change cause before after)
    (hcause : ∀ call, cause ≠ some (.resume call)) : after.lastError = before.lastError := by
  cases h with
  | aside host opened lastError surface hnoted => exact hnoted hcause
  | committed call load component hresumed => exact absurd hresumed (hcause call)
  | _ => rfl

theorem Changes.lastError {before after : Session σ} (h : Changes cause before after)
    (hcause : ∀ call, cause ≠ some (.resume call)) : after.lastError = before.lastError := by
  induction h with
  | refl => rfl
  | tail _ hchange ih => exact (hchange.lastError hcause).trans ih

/-- A call that goes on notes a failure or takes it back only if its own load has ended with a result. -/
theorem Resumption.lastError {session after : Session σ} {call : Nat} (h : Resumption session call after) :
    after.lastError = session.lastError ∨
      ∃ load result, session.calls[call]? = some ⟨.awaiting load, false⟩ ∧
        session.endingOf? load = some (.finished result) := by
  cases h with
  | commits load component hcall hnewest hload => exact .inr ⟨load, _, hcall, hload⟩
  | fails state ending lastError hcall hopen hfailing =>
    cases hfailing with
    | failed load error hload => exact .inr ⟨load, _, hcall, hload⟩
    | cancelled => exact .inl rfl
    | stopped => exact .inl rfl
    | broke => exact .inl rfl
  | _ => exact .inl rfl

theorem take_lastError (answer : σ → Request → Reply × σ) (session : Session σ) (move : Move) :
    (take answer session move).lastError = session.lastError ∨
      ∃ (call load : Nat) (result : Fallible Component), session.calls[call]? = some ⟨.awaiting load, false⟩ ∧
        session.endingOf? load = some (.finished result) := by
  have hdequeue : (session.dequeue move).lastError = session.lastError := by cases move <;> rfl
  rcases take_changes answer session move with ⟨name, value, rfl⟩ | hchanges
  · exact .inl rfl
  rw [← hdequeue]
  by_cases hresume : ∃ call, session.cause move = some (.resume call)
  · rcases hresume with ⟨call, hcause⟩
    rw [take_of_cause answer hcause]
    rcases (resumeCall_resumption (session.dequeue move) call).lastError with hsame | ⟨load, result, hcall, hload⟩
    · exact .inl hsame
    · rw [dequeue_calls] at hcall
      rw [endingOf?_congr (dequeue_loads session move)] at hload
      exact .inr ⟨call, load, result, hcall, hload⟩
  · exact .inl (hchanges.lastError fun call hcause => hresume ⟨call, hcause⟩)

/-! ## What is noted -/

/-- The failure that is noted is the one that a load ended with, and none after a success. -/
def IsNoted (lastError : Option EngineError) : Ending → Prop
  | .finished (.ok _) => lastError = none
  | .finished (.error (.engine error)) => lastError = some error
  | _ => True

/-- The call that started the newest load, once it is over, has ended as that load did, and has noted it. -/
def Noted (session : Session σ) : Prop :=
  ∀ call ending, session.callerOf? session.newest = some call → session.outcomeOf? call = some ending →
    session.endingOf? session.newest = some ending ∧ IsNoted session.lastError ending

/-- A call starts its load before it is over. -/
theorem Changes.outcomeOf?_eq_none {before after : Session σ} (h : Changes cause before after) (hc : Coherent before)
    {call load : Nat} (hcaller : after.callerOf? load = some call) (hnew : ¬load < before.loads.length) :
    before.outcomeOf? call = none := by
  induction h with
  | refl => exact absurd (callerOf?_lt hcaller) hnew
  | @tail earlier later hchanges hchange ih =>
    by_cases hold : load < earlier.loads.length
    · exact ih ((Changes.coherent hchanges hc).callerOf?_of_extends hchange.extends hold hcaller)
    · rcases hchange.callerOf?_of_new hcaller hold with ⟨-, -, work, hunstarted⟩
      apply Option.eq_none_iff_forall_ne_some.mpr
      intro ending hending
      have hover := (Changes.extends hchanges).outcomeOf? hending
      simp [outcomeOf?, hunstarted] at hover

theorem outcomeOf?_eq_none_of_take {session : Session σ} (hc : Coherent session) (answer : σ → Request → Reply × σ)
    {move : Move} {call load : Nat} (hcaller : (take answer session move).callerOf? load = some call)
    (hnew : ¬load < session.loads.length) : session.outcomeOf? call = none := by
  rcases take_changes answer session move with ⟨name, value, rfl⟩ | hchanges
  · exact absurd (callerOf?_lt hcaller) hnew
  · rw [← outcomeOf?_congr (dequeue_calls session move)]
    exact hchanges.outcomeOf?_eq_none (hc.dequeue move) hcaller (by rwa [dequeue_loads])

/-- The call that started the newest load ends as that load did, and notes it. -/
theorem Resumption.noted {session after : Session σ} {call : Nat} {ending : Ending} (h : Resumption session call after)
    (hc : Coherent session) (hu : Undisturbed session) (hcaller : session.callerOf? session.newest = some call)
    (hbefore : session.outcomeOf? call = none) (hafter : after.outcomeOf? call = some ending) :
    session.endingOf? session.newest = some ending ∧ IsNoted after.lastError ending := by
  have hlast := isNewest_newest (callerOf?_lt hcaller)
  -- the call waits for the newest load, which is its own, and follows none
  have hown : ∀ {own : Nat} {cancelled : Bool}, session.calls[call]? = some ⟨.awaiting own, cancelled⟩ →
      own = session.newest := by
    intro own cancelled hcall
    cases hc.awaiting_newest hcaller hcall rfl
    rfl
  have hnone : ∀ {load : Nat} {informed cancelled : Bool},
      session.calls[call]? ≠ some ⟨.following load informed, cancelled⟩ := by
    intro load informed cancelled hcall
    cases hc.awaiting_newest hcaller hcall rfl
  have hreturns : ∀ {state : Call} {result : Ending}, session.calls[call]? = some state →
      after.calls = session.calls.set call { state with stage := .ended result } → result = ending := by
    intro state result hcall hcalls
    have hbound := (List.getElem?_eq_some_iff.mp hcall).1
    simpa [outcomeOf?, hcalls, hbound] using hafter
  cases h with
  | idle =>
    rw [hbefore] at hafter
    cases hafter
  | commits own component hcall hnewest hload =>
    cases hreturns hcall rfl
    exact ⟨hown hcall ▸ hload, rfl⟩
  | overtaken own component hcall hlate =>
    rw [hown hcall, hlast] at hlate
    cases hlate
  | joins state joined hcall hcancelled hsuperseded =>
    rcases state with ⟨stage, cancelled⟩
    cases hsuperseded with
    | awaiting own hlate =>
      rw [hown hcall, hlast] at hlate
      cases hlate
    | following => exact absurd hcall hnone
  | fails state failed lastError hcall hopen hfailing =>
    cases hreturns hcall rfl
    cases hfailing with
    | cancelled stage =>
      have hquiet := hu.calls _ (List.mem_of_getElem? hcall)
      cases hquiet
    | stopped own hnewest hload => exact absurd hload (hu.newest_ne_cancelled hc hnewest)
    | failed own error hload => exact ⟨hown hcall ▸ hload, rfl⟩
    | broke stage own failure hstage hload hunexpected =>
      rcases hstage with rfl | ⟨informed, rfl⟩
      · refine ⟨hown hcall ▸ hload, ?_⟩
        cases failure with
        | engine error => exact absurd rfl (hunexpected error)
        | _ => trivial
      · exact absurd hcall hnone
  | follows callState loadState hcall =>
    have hbound := (List.getElem?_eq_some_iff.mp hcall).1
    simp [outcomeOf?, hbound] at hafter

theorem Resumption.length {session after : Session σ} {call : Nat} (h : Resumption session call after) :
    after.loads.length = session.loads.length := by
  cases h with
  | follows => simp
  | _ => rfl

/-- As long as events happen in order, a call whose own load has a result goes on before a newer load ends. -/
theorem Prompt.eq_newest {session : Session σ} (hp : Prompt session []) (hc : Coherent session) {call load : Nat}
    {result : Fallible Component} {ending : Ending} (hcall : session.calls[call]? = some ⟨.awaiting load, false⟩)
    (hload : session.endingOf? load = some (.finished result))
    (hending : session.endingOf? session.newest = some ending) : load = session.newest := by
  have hflag : session.isCancelled load = false := by
    apply Bool.eq_false_iff.mpr
    intro hcancelled
    cases hc.cancelled_of_isCancelled hload hcancelled
  have hnewer := (hp call load _ hcall hload hflag).1
  have hlt := endingOf?_lt hload
  apply Decidable.byContradiction
  intro hother
  have hnone := hnewer session.newest (by simp only [newest] at hother ⊢; omega)
  rw [hending] at hnone
  cases hnone

/-- A call that goes on late finds that no newer load has ended, so it does not note its failure over a newer one. -/
theorem Noted.take {session : Session σ} (hn : Noted session) (hc : Coherent session) (hu : Undisturbed session)
    (hp : Prompt session []) (answer : σ → Request → Reply × σ) {move : Move}
    (hmove : move.isCancelling = false) : Noted (take answer session move) := by
  intro call ending hcaller hafter
  have hextends := take_extends answer session move
  -- a call that is over has started its load in an earlier move
  have hold : (Session.take answer session move).newest < session.loads.length := by
    apply Decidable.byContradiction
    intro hnew
    have hopen := outcomeOf?_eq_none_of_take hc answer hcaller hnew
    have hlength := (hu.resumption answer hmove hopen hafter).length
    have hlt := callerOf?_lt hcaller
    rw [hlength, dequeue_loads] at hlt
    exact hnew hlt
  have hnewest : (Session.take answer session move).newest = session.newest := by
    have hle := hextends.length_le
    simp only [newest] at hold ⊢
    omega
  rw [hnewest] at hold hcaller ⊢
  have hcaller' := hc.callerOf?_of_extends hextends hold hcaller
  rcases hbefore : session.outcomeOf? call with _ | earlier
  · -- the call ends now
    have hdequeue : (session.dequeue move).newest = session.newest := newest_congr (dequeue_loads session move)
    obtain ⟨hending, hnoted⟩ := (hu.resumption answer hmove hbefore hafter).noted (hc.dequeue move) (hu.dequeue move)
      (by rw [hdequeue, callerOf?_congr (dequeue_loads session move), hcaller'])
      (by rw [outcomeOf?_congr (dequeue_calls session move), hbefore]) hafter
    rw [hdequeue, endingOf?_congr (dequeue_loads session move)] at hending
    exact ⟨hextends.endingOf? hending, hnoted⟩
  · -- the call had ended before
    have hsame := hextends.outcomeOf? hbefore
    rw [hafter] at hsame
    cases hsame
    obtain ⟨hending, hnoted⟩ := hn call ending hcaller' hbefore
    refine ⟨hextends.endingOf? hending, ?_⟩
    rcases take_lastError answer session move with hkept | ⟨other, load, result, hother, hload⟩
    · rw [hkept]
      exact hnoted
    · -- the call that goes on would be the one that is over
      have hlast := hp.eq_newest hc hother hload hending
      have howner := hc.awaited hother
      rw [hlast, hcaller'] at howner
      cases howner
      simp [outcomeOf?, hother] at hbefore

theorem noted_on (host : σ) : Noted (.on host) := by
  intro call ending hcaller
  simp [on, callerOf?] at hcaller

theorem Noted.play {session : Session σ} (hn : Noted session) (hc : Coherent session) (hu : Undisturbed session)
    (hp : Prompt session []) (answer : σ → Request → Reply × σ) {moves : List Move}
    (hmoves : ∀ move ∈ moves, move.isInOrder = true ∧ move.isCancelling = false) :
    Noted (play answer session moves) := by
  induction moves generalizing session with
  | nil => exact hn
  | cons move moves ih =>
    obtain ⟨horder, hgoes⟩ := hmoves move List.mem_cons_self
    exact ih (hn.take hc hu hp answer hgoes) (hc.take answer move) (hu.take hc answer hgoes) (hp.take hc answer horder)
      fun later hlater => hmoves later (List.mem_cons_of_mem move hlater)

/-! ## Runs that take nothing over -/

/-- What a move makes of the values unless it takes over a component. -/
def Move.rebind (bindings : Bindings) : Move → Bindings
  | bind name value => bindings.put name value
  | _ => bindings

theorem take_of_not_commits (answer : σ → Request → Reply × σ) {session : Session σ} {move : Move}
    (h : ∀ load component, ¬session.Commits move load component) :
    (take answer session move).component = session.component ∧
      (take answer session move).bindings = move.rebind session.bindings := by
  rcases keeps_of_not_commits answer h with ⟨hcomponent, hbindings⟩
  refine ⟨hcomponent, ?_⟩
  cases move with
  | bind name value => rfl
  | _ =>
    rcases hbindings with hkept | ⟨name, value, hmove, -⟩
    · exact hkept
    · cases hmove

/-- From the start of a load on that is the newest at the end and fails, nothing is taken over. -/
theorem play_of_failed (answer : σ → Request → Reply × σ) {session : Session σ} {moves : List Move} {failure : Failure}
    (hfailed : (play answer session moves).endingOf? (play answer session moves).newest =
      some (.finished (.error failure)))
    (hlength : (play answer session moves).loads.length = session.loads.length) :
    (play answer session moves).component = session.component ∧
      (play answer session moves).bindings = moves.foldl Move.rebind session.bindings := by
  induction moves generalizing session with
  | nil => exact ⟨rfl, rfl⟩
  | cons move moves ih =>
    rw [play_cons] at hfailed hlength ⊢
    have hextends := take_extends answer session move
    have hlater := play_extends answer (take answer session move) moves
    have hle := hextends.length_le
    have hle' := hlater.length_le
    have hnone : ∀ load component, ¬session.Commits move load component := by
      -- the load that would be taken over is the one that fails
      intro load component hcommits
      have hlast := isNewest_iff.mp hcommits.newest
      have hsucceeded := hlater.endingOf? (hextends.endingOf? hcommits.succeeded)
      rw [show load = (play answer (take answer session move) moves).newest by simp only [newest]; omega,
        hfailed] at hsucceeded
      cases hsucceeded
    have hkept := take_of_not_commits answer hnone
    obtain ⟨hcomponent, hbindings⟩ := ih hfailed (by omega)
    rw [hcomponent, hbindings, hkept.1, hkept.2]
    exact ⟨rfl, rfl⟩

/-! ## Sessions at rest -/

/-- After a run in which events happen in order, no call is cancelled and loads fail only with typed failures, once all
calls are over: if the newest load succeeded, the session holds its component and no failure is noted; if it failed, its
failure is noted, and since the load started the component is the same and the values are, but for those that were
given. -/
theorem at_rest (answer : σ → Request → Reply × σ) (host : σ) (moves : List Move)
    (hmoves : ∀ move ∈ moves, move.isInOrder = true ∧ move.isCancelling = false) :
    let session := play answer (.on host) moves
    session.FailsTyped → (∀ call ∈ session.calls, call.stage.isOver = true) → session.loads ≠ [] →
    (∃ component, session.endingOf? session.newest = some (.finished (.ok component)) ∧
      session.component = some component ∧ session.lastError = none) ∨
    (∃ error, session.endingOf? session.newest = some (.finished (.error (.engine error))) ∧
      session.lastError = some error ∧
      ∀ earlier later, moves = earlier ++ later →
        let started := play answer (.on host) earlier
        started.loads.length = session.loads.length →
        session.component = started.component ∧ session.bindings = later.foldl Move.rebind started.bindings) := by
  intro session htyped hover hstarted
  have hc : Coherent session := (coherent_on host).play answer moves
  have hu : Undisturbed session :=
    (undisturbed_on host).play (coherent_on host) answer fun move hmove => (hmoves move hmove).2
  have hn : Noted session :=
    (noted_on host).play (coherent_on host) (undisturbed_on host) (prompt_on host) answer hmoves
  have hlt : session.newest < session.loads.length := newest_lt (List.length_pos_iff.mpr hstarted)
  -- the newest load has a caller, which is over
  obtain ⟨call, hcaller⟩ := hc.callerOf?_isSome hlt
  obtain ⟨state, hstate, -⟩ := hc.begun hcaller
  obtain ⟨ending, hstage⟩ := CallStage.isOver_iff.mp (hover state (List.mem_of_getElem? hstate))
  have houtcome : session.outcomeOf? call = some ending := outcomeOf?_eq_some.mpr ⟨state, hstate, hstage⟩
  obtain ⟨hending, hnoted⟩ := hn call ending hcaller houtcome
  have hlast := isNewest_newest hlt
  cases ending with
  | cancelled => exact absurd hending (hu.newest_ne_cancelled hc hlast)
  | finished result =>
    cases result with
    | ok component => exact .inl ⟨component, hending, (hc.current (isNewest_iff.mp hlast) hcaller houtcome).1, hnoted⟩
    | error failure =>
      obtain ⟨error, rfl⟩ := htyped _ _ hending
      refine .inr ⟨error, hending, hnoted, ?_⟩
      intro earlier later hsplit started hlength
      have hplay : session = play answer started later := by
        simp only [session, started, hsplit, play, List.foldl_append]
      rw [hplay] at hending hlength ⊢
      exact play_of_failed answer hending hlength.symm

/-- A load that fails leaves the component that was loaded before it, and its failure is noted. -/
theorem at_rest_after_failure :
    let moves : List Move := [.load (.done (.ok (blank "Kept"))), .happen 0, .happen 0,
      .load (.done (.error (.engine (.of .parse "Unreadable")))), .bind "title" "Given", .happen 0, .happen 0]
    let session := play silent (.on ()) moves
    session.lastError = some (.of .parse "Unreadable") ∧ session.component = some (blank "Kept") ∧
      session.bindings = [("title", "Given")] := by
  intro moves session
  have hfirst : session.endingOf? 0 = some (.finished (.ok (blank "Kept"))) := rfl
  have hsecond : session.endingOf? 1 = some (.finished (.error (.engine (.of .parse "Unreadable")))) := rfl
  have htyped : session.FailsTyped := by
    intro load failure hending
    have hlt : load < 2 := endingOf?_lt hending
    obtain rfl | rfl : load = 0 ∨ load = 1 := by omega
    · cases hending.symm.trans hfirst
    · cases hending.symm.trans hsecond
      exact ⟨_, rfl⟩
  have hcalls : session.calls = [⟨.ended (.finished (.ok (blank "Kept"))), false⟩,
      ⟨.ended (.finished (.error (.engine (.of .parse "Unreadable")))), false⟩] := rfl
  have hloads : session.loads ≠ [] := List.ne_nil_of_length_eq_add_one (show session.loads.length = 1 + 1 from rfl)
  have hrest := at_rest silent () moves (by simp [moves, Move.isInOrder, Move.isCancelling]) htyped
    (by rw [hcalls]; simp [CallStage.isOver]) hloads
  rcases hrest with ⟨component, hending, -⟩ | ⟨error, hending, hnoted, hkept⟩
  · cases hending.symm.trans hsecond
  · cases hending.symm.trans hsecond
    obtain ⟨hcomponent, hbindings⟩ := hkept
      [.load (.done (.ok (blank "Kept"))), .happen 0, .happen 0,
        .load (.done (.error (.engine (.of .parse "Unreadable"))))]
      [.bind "title" "Given", .happen 0, .happen 0] rfl rfl
    exact ⟨hnoted, hcomponent, hbindings⟩

end Showcase.Session
