import Mathlib.Order.Interval.Finset.Nat
import Showcase.Proofs.Session.Return
import Showcase.Proofs.Session.Undisturbed

/-!
# Superseded calls

A call whose load was cancelled in favour of a newer one follows the newest load, and looks for the newest again as often
as the one that it follows is not the newest any more. As long as no call is cancelled and loads fail only with typed
failures, it ends as a load does that was started later and is the newest by then, and it looks at each such load once
at most: `superseded_settles`.
-/

namespace Showcase.Session

open Network

variable {σ : Type} {cause : Option Event}

/-! ## The end of a superseded call -/

/-- A call whose own load was cancelled ends as the newest load did. -/
theorem Resumption.joins_newest {session after : Session σ} {call load : Nat} {ending : Ending}
    (h : Resumption session call after) (hc : Coherent session) (hu : Undisturbed session) (ht : session.FailsTyped)
    (hcaller : session.callerOf? load = some call) (hflag : session.isCancelled load = true)
    (hbefore : session.outcomeOf? call = none) (hafter : after.outcomeOf? call = some ending) :
    session.endingOf? session.newest = some ending ∧ after.loads = session.loads := by
  -- the call's own load has no result, so the call neither commits nor is overtaken
  have hlost : ∀ {own : Nat} {result : Fallible Component},
      session.calls[call]? = some ⟨.awaiting own, false⟩ → session.endingOf? own ≠ some (.finished result) := by
    intro own result hcall hresult
    have hsame := hc.single (hc.awaited hcall) hcaller
    subst hsame
    cases hc.cancelled_of_isCancelled hresult hflag
  cases h with
  | idle =>
    rw [hbefore] at hafter
    cases hafter
  | commits own component hcall hnewest hload => exact absurd hload (hlost hcall)
  | overtaken own component hcall hlate hload => exact absurd hload (hlost hcall)
  | joins state joined hcall hcancelled hown hnewest =>
    have hbound := (List.getElem?_eq_some_iff.mp hcall).1
    have hsame : joined = ending := by simpa [outcomeOf?, hbound] using hafter
    exact ⟨hsame ▸ hnewest, rfl⟩
  | fails state failed lastError hcall hopen hfailing =>
    cases hfailing with
    | cancelled stage =>
      have hquiet := hu.calls _ (List.mem_of_getElem? hcall)
      cases hquiet
    | stopped own hnewest hload => exact absurd hload (hu.newest_ne_cancelled hc hnewest)
    | failed own error hload => exact absurd hload (hlost hcall)
    | broke stage own failure hstage hload hunexpected =>
      rcases ht own failure hload with ⟨error, herror⟩
      exact absurd herror (hunexpected error)
  | follows callState loadState hcall =>
    have hbound := (List.getElem?_eq_some_iff.mp hcall).1
    simp [outcomeOf?, hbound] at hafter

/-! ## Rounds -/

/-- Whether a call that goes on looks for the newest load: its own load was cancelled in favour of a newer one, or the
load that it follows is not the newest any more and did not fail in an unexpected way. -/
def beginsRound (session : Session σ) (call : Nat) : Bool :=
  match session.calls[call]? with
  | some ⟨.awaiting load, false⟩ =>
    match session.endingOf? load with
    | some .cancelled => !session.isNewest load
    | _ => false
  | some ⟨.following load _, false⟩ =>
    match session.endingOf? load with
    | some (.finished (.error (.engine _))) => !session.isNewest load
    | some (.finished (.error _)) => false
    | some _ => !session.isNewest load
    | none => false
  | _ => false

/-- The loads that a call looks at in a run, one for each round, in order. -/
def roundsOf (answer : σ → Request → Reply × σ) (call : Nat) : Session σ → List Move → List Nat
  | _, [] => []
  | session, move :: moves =>
    let later := roundsOf answer call (take answer session move) moves
    if session.cause move = some (.resume call) ∧ session.beginsRound call = true then session.newest :: later
    else later

theorem beginsRound_congr {first second : Session σ} (hloads : first.loads = second.loads)
    (hcalls : first.calls = second.calls) (call : Nat) : first.beginsRound call = second.beginsRound call := by
  simp only [beginsRound, endingOf?, isNewest, hloads, hcalls]

/-- A call begins a round only when it waits for a load that is not the newest. -/
theorem waits_of_beginsRound {session : Session σ} {call : Nat} (h : session.beginsRound call = true) :
    ∃ load, session.isNewest load = false ∧ (session.calls[call]? = some ⟨.awaiting load, false⟩ ∨
      ∃ informed, session.calls[call]? = some ⟨.following load informed, false⟩) := by
  unfold beginsRound at h
  split at h
  · rename_i load hcall
    split at h
    · exact ⟨load, by simpa using h, .inl hcall⟩
    · cases h
  · rename_i load informed hcall
    split at h
    · exact ⟨load, by simpa using h, .inr ⟨informed, hcall⟩⟩
    · cases h
    · exact ⟨load, by simpa using h, .inr ⟨informed, hcall⟩⟩
    · cases h
  · cases h

/-- A call that begins a round follows the newest load. -/
theorem resumeCall_of_beginsRound {session : Session σ} {call : Nat} (h : session.beginsRound call = true) :
    session.resumeCall call = session.follow call := by
  unfold beginsRound at h
  split at h
  · rename_i load hcall
    split at h
    · rename_i hload
      simp only [resumeCall, hcall, Bool.false_eq_true, if_false, hload, resumeOwn]
      rw [if_neg (by simpa using h)]
    · cases h
  · rename_i load informed hcall
    simp only [resumeCall, hcall, Bool.false_eq_true, if_false, resumeFollowing]
    split at h
    · rename_i error hload
      rw [hload]
      exact if_neg (by simpa using h)
    · cases h
    · rename_i ending herror hunexpected hload
      rw [hload]
      dsimp only
      rw [if_neg (by simpa using h)]
      split
      · rfl
      · rename_i failure _
        exact absurd rfl (hunexpected failure)
      · rfl
    · cases h
  · cases h

/-! ## Rounds lead to newer loads -/

/-- A call is over, or waits for a load that is not older than a given one. -/
def HasReached (session : Session σ) (call load : Nat) : Prop :=
  ∃ state, session.calls[call]? = some state ∧ (state.stage.isOver = true ∨
    ∃ later, load ≤ later ∧ (state.stage = .awaiting later ∨ ∃ informed, state.stage = .following later informed))

/-- A load that a call waits for has started. -/
theorem Coherent.lt_of_waits {session : Session σ} (hc : Coherent session) {call load : Nat} {state : Call}
    (hcall : session.calls[call]? = some state)
    (hstage : state.stage = .awaiting load ∨ ∃ informed, state.stage = .following load informed) :
    load < session.loads.length := by
  rcases state with ⟨stage, cancelled⟩
  rcases hstage with rfl | ⟨informed, rfl⟩
  · exact callerOf?_lt (hc.awaited hcall)
  · exact (hc.followed hcall).1

/-- A call that has reached a load waits for none that is older. -/
theorem HasReached.le_of_waits {session : Session σ} {call load other : Nat} {state : Call}
    (hreached : session.HasReached call load) (hcall : session.calls[call]? = some state)
    (hstage : state.stage = .awaiting other ∨ ∃ informed, state.stage = .following other informed) : load ≤ other := by
  rcases hreached with ⟨same, hsame, hwaits⟩
  rw [hcall] at hsame
  cases hsame
  rcases hstage with hstage | ⟨informed, hstage⟩ <;> rw [hstage] at hwaits
  · rcases hwaits with hover | ⟨later, hle, hlater | ⟨_, hlater⟩⟩
    · cases hover
    · cases hlater
      exact hle
    · cases hlater
  · rcases hwaits with hover | ⟨later, hle, hlater | ⟨_, hlater⟩⟩
    · cases hover
    · cases hlater
    · cases hlater
      exact hle

theorem Change.hasReached {before after : Session σ} (h : Change cause before after) (hc : Coherent before)
    {call load : Nat} (hreached : before.HasReached call load) : after.HasReached call load := by
  rcases hreached with ⟨state, hstate, hwaits⟩
  rcases h.extends.calls hstate with ⟨now, hnow, hcontinues⟩
  -- a call that has reached a load has begun
  have hbegun : ∀ work, state.stage ≠ .unstarted work := by
    intro work hstage
    rw [hstage] at hwaits
    rcases hwaits with hover | ⟨later, -, hlater | ⟨informed, hlater⟩⟩
    · cases hover
    · cases hlater
    · cases hlater
  have hsame : ∀ {old : Call}, before.calls[call]? = some old → old = state := by
    intro old hold
    rw [hstate] at hold
    exact (Option.some.inj hold).symm
  refine ⟨now, hnow, ?_⟩
  cases h.callOrigin hnow with
  | kept hold =>
    cases hsame hold
    exact hwaits
  | entered work => exact absurd (hcontinues.begun work rfl) (hbegun work)
  | launched work hold =>
    cases hsame hold
    exact absurd rfl (hbegun work)
  | returned => exact .inl rfl
  | committed => exact .inl rfl
  | watched stage cancelled newest hold hown hnewest =>
    cases hsame hold
    rcases hwaits with hover | ⟨later, hle, hlater⟩
    · rw [hown.isOver] at hover
      cases hover
    · have hlt := hc.lt_of_waits hstate hlater
      have hlast := isNewest_iff.mp hnewest
      exact .inr ⟨newest, by omega, .inr ⟨false, rfl⟩⟩
  | told newest informed cancelled cancelled' hold =>
    cases hsame hold
    rcases hwaits with hover | ⟨later, hle, hlater | ⟨_, hlater⟩⟩
    · cases hover
    · cases hlater
    · cases hlater
      exact .inr ⟨newest, hle, .inr ⟨true, rfl⟩⟩
  | warned stage cancelled hold =>
    cases hsame hold
    exact hwaits

theorem Changes.hasReached {before after : Session σ} (h : Changes cause before after) (hc : Coherent before)
    {call load : Nat} (hreached : before.HasReached call load) : after.HasReached call load := by
  induction h with
  | refl => exact hreached
  | tail hearlier hchange ih => exact hchange.hasReached (Changes.coherent hearlier hc) ih

theorem HasReached.take {session : Session σ} {call load : Nat} (hreached : session.HasReached call load)
    (hc : Coherent session) (answer : σ → Request → Reply × σ) (move : Move) :
    (take answer session move).HasReached call load := by
  rcases take_changes answer session move with ⟨name, value, rfl⟩ | hchanges
  · exact hreached
  have hdequeued : (session.dequeue move).HasReached call load := by
    simpa only [HasReached, dequeue_calls] using hreached
  exact hchanges.hasReached (hc.dequeue move) hdequeued

/-- A call that follows the newest load has reached it. -/
theorem follow_hasReached {session : Session σ} {call : Nat} {state : Call} (hcall : session.calls[call]? = some state)
    (hloads : session.newest < session.loads.length) : (session.follow call).HasReached call session.newest := by
  have hbound := (List.getElem?_eq_some_iff.mp hcall).1
  simp only [follow, List.getElem?_eq_getElem hloads]
  split
  · rename_i ending hended
    rw [endCall_eq session hcall]
    exact ⟨⟨.ended ending, state.cancelled⟩, by simp [hbound], .inl rfl⟩
  · rename_i hopen
    rw [moveCall_eq (session.setLoad _ _) hcall]
    refine ⟨⟨.following session.newest false, state.cancelled⟩, by simp [hbound], ?_⟩
    exact .inr ⟨session.newest, Nat.le_refl _, .inr ⟨false, rfl⟩⟩

/-- A round is about a load that was started after the call's own. -/
theorem Coherent.own_of_beginsRound {session : Session σ} (hc : Coherent session) {call : Nat}
    (h : session.beginsRound call = true) :
    session.newest < session.loads.length ∧ ∃ own, own < session.newest ∧ session.callerOf? own = some call := by
  rcases waits_of_beginsRound h with ⟨load, hlate, hcall | ⟨informed, hcall⟩⟩
  · have hcaller := hc.awaited hcall
    have hlt := callerOf?_lt hcaller
    exact ⟨newest_lt hlt, load, lt_newest hlate hlt, hcaller⟩
  · rcases hc.followed hcall with ⟨hlt, own, hown, hcaller⟩
    exact ⟨newest_lt hlt, own, Nat.lt_trans hown (lt_newest hlate hlt), hcaller⟩

/-- After a round the call has reached the load that it looked at. -/
theorem take_hasReached {session : Session σ} (hc : Coherent session) (answer : σ → Request → Reply × σ) {move : Move}
    {call : Nat} (hcause : session.cause move = some (.resume call)) (hround : session.beginsRound call = true) :
    (take answer session move).HasReached call session.newest := by
  have hsame := dequeue_loads session move
  have hround' : (session.dequeue move).beginsRound call = true := by
    rw [beginsRound_congr hsame (dequeue_calls session move), hround]
  have hnewest : (session.dequeue move).newest = session.newest := newest_congr hsame
  rw [take_of_cause answer hcause, handle, resumeCall_of_beginsRound hround', ← hnewest]
  have hloads := ((hc.dequeue move).own_of_beginsRound hround').1
  rcases waits_of_beginsRound hround' with ⟨load, -, hcall | ⟨informed, hcall⟩⟩
  · exact follow_hasReached hcall hloads
  · exact follow_hasReached hcall hloads

/-- What a call looks at from a point on is newer than what it has reached there. -/
theorem HasReached.lt_of_mem_roundsOf {session : Session σ} (hc : Coherent session)
    (answer : σ → Request → Reply × σ) {call load : Nat} (hreached : session.HasReached call load) (moves : List Move) :
    ∀ newer ∈ roundsOf answer call session moves, load < newer := by
  induction moves generalizing session with
  | nil => simp [roundsOf]
  | cons move moves ih =>
    have hlater := ih (hc.take answer move) (hreached.take hc answer move)
    intro newer hnewer
    simp only [roundsOf] at hnewer
    split at hnewer
    · rename_i hround
      rcases List.mem_cons.mp hnewer with rfl | hmem
      · -- the call waits for a load at least as new, which is not the newest
        rcases waits_of_beginsRound hround.2 with ⟨other, hlate, hcall⟩
        have hbounds : load ≤ other ∧ other < session.loads.length := by
          rcases hcall with hcall | ⟨informed, hcall⟩
          · exact ⟨hreached.le_of_waits hcall (.inl rfl), hc.lt_of_waits hcall (.inl rfl)⟩
          · exact ⟨hreached.le_of_waits hcall (.inr ⟨informed, rfl⟩), hc.lt_of_waits hcall (.inr ⟨informed, rfl⟩)⟩
        exact Nat.lt_of_le_of_lt hbounds.1 (lt_newest hlate hbounds.2)
      · exact hlater newer hmem
    · exact hlater newer hnewer

/-- Each round is about a newer load than the one before. -/
theorem pairwise_roundsOf {session : Session σ} (hc : Coherent session) (answer : σ → Request → Reply × σ) (call : Nat)
    (moves : List Move) : (roundsOf answer call session moves).Pairwise (· < ·) := by
  induction moves generalizing session with
  | nil => exact .nil
  | cons move moves ih =>
    have hlater := ih (hc.take answer move)
    simp only [roundsOf]
    split
    · rename_i hround
      have hreached := take_hasReached hc answer hround.1 hround.2
      exact .cons (hreached.lt_of_mem_roundsOf (hc.take answer move) answer moves) hlater
    · exact hlater

/-- Each round is about a load that was started after the call's own. -/
theorem own_of_mem_roundsOf {session : Session σ} (hc : Coherent session) (answer : σ → Request → Reply × σ)
    {call : Nat} (moves : List Move) {newer : Nat} (hnewer : newer ∈ roundsOf answer call session moves) :
    newer < (play answer session moves).loads.length ∧
      ∃ own, own < newer ∧ (play answer session moves).callerOf? own = some call := by
  induction moves generalizing session with
  | nil => simp [roundsOf] at hnewer
  | cons move moves ih =>
    have hextends := play_extends answer session (move :: moves)
    simp only [roundsOf] at hnewer
    split at hnewer
    · rename_i hround
      rcases List.mem_cons.mp hnewer with rfl | hmem
      · rcases hc.own_of_beginsRound hround.2 with ⟨hlt, own, hown, hcaller⟩
        exact ⟨Nat.lt_of_lt_of_le hlt hextends.length_le, own, hown, hextends.callerOf? hcaller⟩
      · exact ih (hc.take answer move) hmem
    · exact ih (hc.take answer move) hnewer

/-- Ever greater numbers between two bounds are no more than there are between them. -/
theorem length_le_of_pairwise {items : List Nat} {low high : Nat} (hsorted : items.Pairwise (· < ·))
    (hitems : ∀ item ∈ items, low < item ∧ item < high) : items.length ≤ high - low - 1 := by
  have hdistinct : items.Nodup := hsorted.imp Nat.ne_of_lt
  have hwithin : items.toFinset ⊆ Finset.Ioo low high := by
    intro item hitem
    exact Finset.mem_Ioo.mpr (hitems item (List.mem_toFinset.mp hitem))
  calc items.length = items.toFinset.card := (List.toFinset_card_of_nodup hdistinct).symm
    _ ≤ (Finset.Ioo low high).card := Finset.card_le_card hwithin
    _ = high - low - 1 := Nat.card_Ioo low high

/-! ## Superseded calls -/

/-- A load that still runs when a newer one has started was cancelled in its favour. -/
theorem Coherent.isCancelled_of_superseded {session : Session σ} (hc : Coherent session) {load : Nat}
    (hstarted : load < session.loads.length) (hrunning : session.endingOf? load = none)
    (hlate : session.isNewest load = false) : session.isCancelled load = true := by
  have hstate := List.getElem?_eq_getElem hstarted
  have hnewer := lt_newest hlate hstarted
  rcases hc.superseded hstate (by simp only [newest] at hnewer; omega) with hover | hcancelled
  · rcases LoadStage.isOver_iff.mp hover with ⟨ending, hstage⟩
    rw [endingOf?_eq_some.mpr ⟨_, hstate, hstage⟩] at hrunning
    cases hrunning
  · exact isCancelled_iff.mpr ⟨_, hstate, hcancelled⟩

/-- A call is not over before its load is. -/
theorem Undisturbed.outcomeOf?_eq_none {session : Session σ} (hu : Undisturbed session) (hc : Coherent session)
    {call load : Nat} (hcaller : session.callerOf? load = some call) (hrunning : session.endingOf? load = none) :
    session.outcomeOf? call = none := by
  apply Option.eq_none_iff_forall_ne_some.mpr
  intro ending hending
  rcases outcomeOf?_eq_some.mp hending with ⟨state, hstate, hstage⟩
  rcases hc.patient hcaller hstate hrunning with hawaiting | hcancelled
  · rw [hstage] at hawaiting
    cases hawaiting
  · rw [hu.calls state (List.mem_of_getElem? hstate)] at hcancelled
    cases hcancelled

/-- A call whose load was superseded and that ends with a move ends as the newest load did, which was started later. -/
theorem ends_with_newest {session : Session σ} (hu : Undisturbed session) (hc : Coherent session)
    (answer : σ → Request → Reply × σ) {move : Move} (hmove : move.isCancelling = false)
    (htyped : (take answer session move).FailsTyped) {call load : Nat} {ending : Ending}
    (hcaller : session.callerOf? load = some call) (hflag : session.isCancelled load = true)
    (hbefore : session.outcomeOf? call = none) (hafter : (take answer session move).outcomeOf? call = some ending) :
    load < (take answer session move).newest ∧
      (take answer session move).endingOf? (take answer session move).newest = some ending ∧
      ∃ result, ending = .finished result := by
  have hsame := dequeue_loads session move
  have hu' := hu.dequeue move
  have hc' := hc.dequeue move
  have htyped' : (session.dequeue move).FailsTyped := (htyped.of_extends (take_extends answer session move)).congr hsame
  obtain ⟨hnewest, hloads⟩ := (hu.resumption answer hmove hbefore hafter).joins_newest hc' hu' htyped'
    (by rw [callerOf?_congr hsame, hcaller]) (by rw [isCancelled_congr hsame, hflag])
    (by rw [outcomeOf?_congr (dequeue_calls session move), hbefore]) hafter
  -- the move of the call that ends leaves the loads as they were
  have hloads' : (take answer session move).loads = (session.dequeue move).loads := hloads
  refine ⟨?_, ?_, ?_⟩
  · rw [newest_congr hloads', newest_congr hsame]
    exact lt_newest (hu.newest load hflag) (callerOf?_lt hcaller)
  · rw [newest_congr hloads', endingOf?_congr hloads', hnewest]
  · cases ending with
    | finished result => exact ⟨result, rfl⟩
    | cancelled => exact absurd hnewest (hu'.newest_ne_cancelled hc' (isNewest_newest (endingOf?_lt hnewest)))

/-- A call starts no more than one load, so all of its rounds are about loads that were started after this one. -/
theorem newer_of_mem_roundsOf {session : Session σ} (hc : Coherent session)
    (answer : σ → Request → Reply × σ) {call load : Nat} (moves : List Move)
    (hcaller : (play answer session moves).callerOf? load = some call) :
    ∀ newer ∈ roundsOf answer call session moves, load < newer ∧ newer < (play answer session moves).loads.length := by
  intro newer hnewer
  obtain ⟨hlt, own, hown, howner⟩ := own_of_mem_roundsOf hc answer moves hnewer
  rw [← (hc.play answer moves).single howner hcaller]
  exact ⟨hown, hlt⟩

/-- In a run in which no call is cancelled and loads fail only with typed failures, in whatever order its events happen:
a call whose load was still running when a newer one started is not over then. It ends only once a load is over that was
started later and is the newest by then, with the component or the failure of that load, and never by cancellation. On
its way it looks at ever newer loads, all of them started after its own, so it goes round at most once for each of
these. -/
theorem superseded_settles (answer : σ → Request → Reply × σ) (host : σ) (earlier later : List Move) (move : Move)
    (hmoves : ∀ other ∈ earlier ++ later ++ [move], other.isCancelling = false) (call load : Nat) :
    let seen := play answer (.on host) earlier
    let session := play answer seen later
    let after := take answer session move
    let rounds := roundsOf answer call (.on host) (earlier ++ later ++ [move])
    after.FailsTyped → seen.callerOf? load = some call → seen.endingOf? load = none → seen.isNewest load = false →
    seen.outcomeOf? call = none ∧
    (∀ ending, session.outcomeOf? call = none → after.outcomeOf? call = some ending →
      load < after.newest ∧ after.endingOf? after.newest = some ending ∧ ∃ result, ending = .finished result) ∧
    rounds.Pairwise (· < ·) ∧ (∀ newer ∈ rounds, load < newer ∧ newer < after.loads.length) ∧
    rounds.length ≤ after.loads.length - load - 1 := by
  intro seen session after rounds htyped hcaller hrunning hlate
  have hcSeen : Coherent seen := (coherent_on host).play answer earlier
  have hc : Coherent session := hcSeen.play answer later
  have huSeen : Undisturbed seen :=
    (undisturbed_on host).play (coherent_on host) answer fun other hother => hmoves other (by simp [hother])
  have hu : Undisturbed session := huSeen.play hcSeen answer fun other hother => hmoves other (by simp [hother])
  have hcaller' : session.callerOf? load = some call := (play_extends answer seen later).callerOf? hcaller
  refine ⟨huSeen.outcomeOf?_eq_none hcSeen hcaller hrunning, ?_, ?_⟩
  · intro ending hbefore hafter
    -- a load that is superseded while it runs keeps the mark of it
    have hflag : seen.isCancelled load = true :=
      hcSeen.isCancelled_of_superseded (callerOf?_lt hcaller) hrunning hlate
    have hflag' : session.isCancelled load = true := (play_extends answer seen later).isCancelled hflag
    exact ends_with_newest hu hc answer (hmoves move (by simp)) htyped hcaller' hflag' hbefore hafter
  · have hend : play answer (.on host) (earlier ++ later ++ [move]) = after := by
      simp only [play, List.foldl_append, List.foldl_cons, List.foldl_nil, after, session, seen]
    have hcallerAfter : after.callerOf? load = some call := (take_extends answer session move).callerOf? hcaller'
    have hsorted : rounds.Pairwise (· < ·) := pairwise_roundsOf (coherent_on host) answer call _
    have hbounds : ∀ newer ∈ rounds, load < newer ∧ newer < after.loads.length := by
      rw [← hend] at hcallerAfter ⊢
      exact newer_of_mem_roundsOf (coherent_on host) answer _ hcallerAfter
    exact ⟨hsorted, hbounds, length_le_of_pairwise hsorted hbounds⟩

/-- A call whose load was cancelled in favour of a second one ends with the component of the second. -/
theorem settles_with_second_load :
    let session := play silent (.on ()) [.load (.done (.ok (blank "First"))), .load (.done (.ok (blank "Second")))]
    let after := play silent session [.happen 0, .happen 0, .happen 0]
    after.outcomeOf? 0 = some (.finished (.ok (blank "Second"))) ∧
      after.endingOf? 1 = some (.finished (.ok (blank "Second"))) := by
  intro session after
  have hafter : after.outcomeOf? 0 = some (.finished (.ok (blank "Second"))) := rfl
  have htyped : after.FailsTyped := by
    intro load failure hending
    have hlt : load < 2 := endingOf?_lt hending
    obtain rfl | rfl : load = 0 ∨ load = 1 := by omega
    · cases hending.symm.trans (show after.endingOf? 0 = some .cancelled from rfl)
    · cases hending.symm.trans (show after.endingOf? 1 = some (.finished (.ok (blank "Second"))) from rfl)
  have hsettles := superseded_settles silent () [.load (.done (.ok (blank "First"))), .load (.done (.ok (blank "Second")))]
    [.happen 0, .happen 0] (.happen 0) (by simp [Move.isCancelling]) 0 0 htyped rfl rfl rfl
  exact ⟨hafter, (hsettles.2.1 _ rfl hafter).2.1⟩

end Showcase.Session
