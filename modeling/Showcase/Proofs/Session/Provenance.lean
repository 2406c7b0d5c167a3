import Showcase.Proofs.Component.Source
import Showcase.Proofs.Component.Upload
import Showcase.Proofs.Session.Commit
import Showcase.Proofs.Session.Undisturbed
import Showcase.Proofs.Template.Detection

/-!
# Where the component of a session comes from

A session only takes over what its loads come to, and a load comes to what its work, as it was started, can come to. So the
component of a session was read from one of the sources that its calls were started with, and all its variables stay
bound, whatever values are given afterwards.
-/

namespace Showcase.Session

open Network

variable {σ : Type} {expected : Fallible Component → Prop} {session : Session σ}

/-! ## Loads -/

/-- What a load has still to do, as one computation; a load that was cancelled and is over has nothing to do. -/
def LoadStage.left? : LoadStage → Option (Remote Component)
  | ready rest => some rest
  | gated gate rest => some (.wait gate rest)
  | sending requests resume => some (.together requests resume)
  | gathering rest => some rest
  | ended (.finished result) => some (.done result)
  | ended .cancelled => none

/-- A stage from which a load comes to nothing but what is expected. -/
def LoadStage.Yields (expected : Fallible Component → Prop) (stage : LoadStage) : Prop :=
  ∀ rest, stage.left? = some rest → rest.Yields expected

/-- A load that comes to nothing but what is expected; one that was cancelled and still runs comes to nothing. -/
def Load.Yields (expected : Fallible Component → Prop) (load : Load) : Prop :=
  load.cancelled = false ∨ load.stage.isOver = true → load.stage.Yields expected

theorem Load.Yields.of_open {load : Load} (h : load.Yields expected) {rest : Remote Component}
    (hrest : load.stage.left? = some rest) (hgoes : load.cancelled = false) : rest.Yields expected :=
  h (.inl hgoes) rest hrest

/-- Working up to the next wait leaves what is expected. -/
theorem advance_yields (answer : σ → Request → Reply × σ) (opened : List String) {work : Remote Component}
    (h : work.Yields expected) (host : σ) : (advance answer opened work host).1.Yields expected := by
  induction work generalizing host with
  | done result =>
    rintro rest ⟨⟩
    exact h
  | send request resume ih => exact ih _ (h _) _
  | together requests resume ih =>
    rintro rest ⟨⟩
    exact h
  | wait gate rest ih =>
    unfold advance
    split
    · exact ih h host
    · rintro rest' ⟨⟩
      exact h

/-! ## What a session can come to -/

/-- Calls that have not begun and loads of a session come to nothing but what is expected. -/
structure Yielding (expected : Fallible Component → Prop) (session : Session σ) : Prop where
  calls : ∀ state ∈ session.calls, ∀ work, state.stage = .unstarted work → work.Yields expected
  loads : ∀ state ∈ session.loads, state.Yields expected

namespace Yielding

theorem of_same {after : Session σ} (h : Yielding expected session) (hcalls : after.calls = session.calls)
    (hloads : after.loads = session.loads) : Yielding expected after :=
  ⟨hcalls ▸ h.calls, hloads ▸ h.loads⟩

theorem enqueue (h : Yielding expected session) (events : List Event) : Yielding expected (session.enqueue events) :=
  h.of_same rfl rfl

theorem setCall (h : Yielding expected session) (call : Nat) {state : Call}
    (hstate : ∀ work, state.stage = .unstarted work → work.Yields expected) :
    Yielding expected (session.setCall call state) where
  calls := fun other hother => (List.mem_or_eq_of_mem_set hother).elim (h.calls other) fun hsame => hsame ▸ hstate
  loads := h.loads

theorem setLoad (h : Yielding expected session) (load : Nat) {state : Load} (hstate : state.Yields expected) :
    Yielding expected (session.setLoad load state) where
  calls := h.calls
  loads := fun other hother => (List.mem_or_eq_of_mem_set hother).elim (h.loads other) fun hsame => hsame ▸ hstate

theorem started (h : Yielding expected session) {state : Load} (hstate : state.Yields expected) :
    Yielding expected { session with loads := session.loads ++ [state] } where
  calls := h.calls
  loads := fun other hother =>
    (List.mem_append.mp hother).elim (h.loads other) fun hnew => List.mem_singleton.mp hnew ▸ hstate

/-- A session without loads and calls comes to nothing. -/
theorem of_empty (hcalls : session.calls = []) (hloads : session.loads = []) : Yielding expected session where
  calls := by simp [hcalls]
  loads := by simp [hloads]

theorem called (h : Yielding expected session) {work : Remote Component} (hwork : work.Yields expected) :
    Yielding expected { session with calls := session.calls ++ [Call.mk (.unstarted work) false] } where
  calls := by
    intro state hstate
    rcases List.mem_append.mp hstate with hold | hnew
    · exact h.calls state hold
    · rw [List.mem_singleton.mp hnew]
      rintro _ ⟨⟩
      exact hwork
  loads := h.loads

/-- A call that is past its beginning has no work of its own. -/
theorem setCall_begun (h : Yielding expected session) (call : Nat) {state : Call}
    (hbegun : ∀ work, state.stage ≠ .unstarted work) : Yielding expected (session.setCall call state) :=
  h.setCall call fun work hwork => absurd hwork (hbegun work)

end Yielding

theorem cancelLoad_yielding (h : Yielding expected session) (load : Nat) :
    Yielding expected (session.cancelLoad load) := by
  unfold cancelLoad
  split
  · exact h
  · rename_i state hload
    -- a load that is cancelled while it runs does not count any more
    have hstopped : ∀ stage : LoadStage, stage.isOver = false →
        Load.Yields expected { state with stage := stage, cancelled := true } := by
      intro stage hopen hcounts
      simp [hopen] at hcounts
    split
    · exact h
    · exact (h.setLoad load (hstopped _ rfl)).enqueue _
    · rename_i hended hgated
      exact h.setLoad load (hstopped _ (LoadStage.isOver_eq_false hended))

theorem stepLoad_yielding (answer : σ → Request → Reply × σ) (h : Yielding expected session) (load : Nat) :
    Yielding expected (session.stepLoad answer load) := by
  unfold stepLoad
  split
  · exact h
  · rename_i state hload
    have hstate := h.loads state (List.mem_of_getElem? hload)
    split
    · exact h
    · exact h
    · rename_i rest hstage
      split
      · refine (h.setLoad load ?_).enqueue _
        rintro - _ ⟨⟩
      · rename_i hgoes
        rw [Bool.not_eq_true] at hgoes
        have hrest : rest.Yields expected := hstate.of_open (by rw [hstage]; rfl) hgoes
        have hadvanced := advance_yields answer session.opened hrest session.host
        have hother : ∀ host, Yielding expected { session with host := host } := fun _ => h.of_same rfl rfl
        split
        · rename_i ending host hdone
          rw [hdone] at hadvanced
          exact ((hother host).setLoad load fun _ => hadvanced).enqueue _
        · rename_i gate rest' host hdone
          rw [hdone] at hadvanced
          exact (hother host).setLoad load fun _ => hadvanced
        · rename_i stage host hended hgated hdone
          rw [hdone] at hadvanced
          exact ((hother host).setLoad load fun _ => hadvanced).enqueue _
    · rename_i requests resume hstage
      split
      · -- the load was cancelled, so the replies that it goes on with do not count
        rename_i hcancelled
        refine (h.setLoad load fun hcounts => ?_).enqueue _
        simp [hcancelled, LoadStage.isOver] at hcounts
      · rename_i hgoes
        rw [Bool.not_eq_true] at hgoes
        have hresume : (Remote.together requests resume).Yields expected := hstate.of_open (by rw [hstage]; rfl) hgoes
        have hother : Yielding expected { session with host := (Remote.answerAll answer session.host requests).2 } :=
          h.of_same rfl rfl
        refine (hother.setLoad load ?_).enqueue _
        rintro - _ ⟨⟩
        exact hresume _ (Remote.length_answerAll answer session.host requests)
    · rename_i rest hstage
      refine (h.setLoad load fun hcounts => ?_).enqueue _
      rintro _ ⟨⟩
      exact hstate (by simpa [hstage, LoadStage.isOver] using hcounts) rest (by rw [hstage]; rfl)

theorem passGate_yielding (gate : String) (h : Yielding expected session) (load : Nat) :
    Yielding expected (passGate gate session load) := by
  unfold passGate
  split
  · rename_i state hload
    have hstate := h.loads state (List.mem_of_getElem? hload)
    split
    · rename_i own rest hstage
      split
      · refine (h.setLoad load fun hcounts => ?_).enqueue _
        rintro _ ⟨⟩
        have hwaits : (Remote.wait own rest).Yields expected :=
          hstate (by simpa [hstage, LoadStage.isOver] using hcounts) _ (by rw [hstage]; rfl)
        exact hwaits
      · exact h
    · exact h
  · exact h

theorem openGate_yielding (h : Yielding expected session) (gate : String) :
    Yielding expected (session.openGate gate) := by
  unfold openGate
  generalize List.range session.loads.length = loads
  have hopened : Yielding expected { session with opened := gate :: session.opened } := h.of_same rfl rfl
  generalize { session with opened := gate :: session.opened } = opened at hopened ⊢
  induction loads generalizing opened with
  | nil => exact hopened
  | cons load loads ih => exact ih _ (passGate_yielding gate hopened load)

/-! ## Calls -/

theorem beginCall_yielding (h : Yielding expected session) (call : Nat) :
    Yielding expected (session.beginCall call) := by
  unfold beginCall
  split
  · rename_i work cancelled hcall
    cases cancelled with
    | true =>
      rw [if_pos rfl, endCall_eq session hcall]
      exact h.setCall_begun call fun _ => nofun
    | false =>
      -- the load that is started has the work of its call
      have hwork : work.Yields expected := h.calls _ (List.mem_of_getElem? hcall) work rfl
      have hquiet := cancelLoad_yielding h session.newest
      rw [if_neg Bool.false_ne_true, startLoad_eq hcall]
      have hstarted : Load.Yields expected ⟨.ready work, false, [.resume call]⟩ := by
        rintro - _ ⟨⟩
        exact hwork
      exact ((hquiet.started hstarted).enqueue _).setCall_begun call fun _ => nofun
  · exact h

theorem Resumption.yielding {call : Nat} {after : Session σ} (hafter : Resumption session call after)
    (h : Yielding expected session) : Yielding expected after := by
  cases hafter with
  | idle => exact h
  | commits load component =>
    have hcommitted : Yielding expected (session.commit component) := h.of_same rfl rfl
    exact hcommitted.setCall_begun call fun _ => nofun
  | overtaken load component => exact h.setCall_begun call fun _ => nofun
  | joins state ending => exact h.setCall_begun call fun _ => nofun
  | fails state ending lastError =>
    have hnoted : Yielding expected { session with lastError := lastError } := h.of_same rfl rfl
    exact hnoted.setCall_begun call fun _ => nofun
  | follows callState loadState hcall hown hload =>
    have hsame : Load.Yields expected { loadState with watchers := loadState.watchers ++ [.relay call] } :=
      h.loads loadState (List.mem_of_getElem? hload)
    exact (h.setLoad _ hsame).setCall_begun call fun _ => nofun

theorem relayCall_yielding (h : Yielding expected session) (call : Nat) :
    Yielding expected (session.relayCall call) := by
  unfold relayCall
  split
  · rename_i load cancelled hcall
    have htold : Yielding expected (session.setCall call ⟨.following load true, cancelled⟩) :=
      h.setCall_begun call fun _ => nofun
    exact htold.enqueue _
  · exact h

theorem cancelCall_yielding (h : Yielding expected session) (call : Nat) :
    Yielding expected (session.cancelCall call) := by
  unfold cancelCall
  split
  · exact h
  · rename_i state hcall
    -- a call that is flagged keeps its work
    have hflagged : Yielding expected (session.setCall call { state with cancelled := true }) :=
      h.setCall call (h.calls state (List.mem_of_getElem? hcall))
    split
    · exact h
    · exact hflagged
    · exact cancelLoad_yielding hflagged _
    · rename_i load informed hstage
      have htold : Yielding expected (session.setCall call ⟨.following load true, true⟩) :=
        h.setCall_begun call fun _ => nofun
      split
      · exact hflagged
      · exact htold.enqueue _

/-! ## Runs -/

/-- The work that a move starts, if it starts any. -/
def Move.work? : Move → Option (Remote Component)
  | start work => some work
  | load work => some work
  | _ => none

theorem take_yielding (answer : σ → Request → Reply × σ) (h : Yielding expected session) {move : Move}
    (hmove : ∀ work, move.work? = some work → work.Yields expected) : Yielding expected (take answer session move) := by
  cases move with
  | start work => exact (h.called (hmove work rfl)).enqueue _
  | load work => exact beginCall_yielding (h.called (hmove work rfl)) _
  | cancel call => exact cancelCall_yielding h call
  | openGate gate => exact openGate_yielding h gate
  | bind name value => exact h.of_same rfl rfl
  | preview =>
    simp only [take, preview]
    split <;> exact h.of_same rfl rfl
  | previewLive libraries patience =>
    simp only [take, previewLive]
    split <;> exact h.of_same rfl rfl
  | happen place =>
    simp only [take, happen]
    split
    · exact h
    · rename_i event hevent
      have hdequeued : Yielding expected { session with queue := session.queue.eraseIdx place } := h.of_same rfl rfl
      cases event with
      | begin call => exact beginCall_yielding hdequeued call
      | step load => exact stepLoad_yielding answer hdequeued load
      | resume call => exact (resumeCall_resumption _ call).yielding hdequeued
      | relay call => exact relayCall_yielding hdequeued call

/-- The component of a session is expected, and each of its variables is bound. -/
def Holds (expected : Fallible Component → Prop) (session : Session σ) : Prop :=
  ∀ component, session.component = some component →
    expected (.ok component) ∧ ∀ name ∈ component.labels.names, session.bindings.has name = true

theorem Commits.meets {move : Move} {load : Nat} {component : Component} (h : session.Commits move load component)
    (hyielding : Yielding expected session) : expected (.ok component) := by
  obtain ⟨state, hload, hstage⟩ := endingOf?_eq_some.mp h.succeeded
  have hstate := hyielding.loads state (List.mem_of_getElem? hload)
  exact hstate (.inr (by rw [hstage]; rfl)) _ (by rw [hstage]; rfl)

theorem take_holds (answer : σ → Request → Reply × σ) (hyielding : Yielding expected session)
    (h : Holds expected session) (move : Move) : Holds expected (take answer session move) := by
  intro component hcomponent
  by_cases hcommits : ∃ load component, session.Commits move load component
  · -- the component and its variables are taken over together
    obtain ⟨load, taken, hcommits⟩ := hcommits
    obtain ⟨htaken, hbindings⟩ := hcommits.assigns answer
    obtain rfl : taken = component := Option.some.inj (htaken.symm.trans hcomponent)
    rw [hbindings]
    exact ⟨hcommits.meets hyielding, fun name hname => Bindings.has_iff.mpr hname⟩
  · push Not at hcommits
    obtain ⟨hkept, hbindings⟩ := keeps_of_not_commits answer hcommits
    rw [hkept] at hcomponent
    obtain ⟨hexpected, hbound⟩ := h component hcomponent
    refine ⟨hexpected, fun name hname => ?_⟩
    obtain hsame | ⟨given, value, -, hgiven⟩ := hbindings
    · rw [hsame]
      exact hbound name hname
    · rw [hgiven]
      exact Bindings.has_put (hbound name hname) given value

theorem play_holds (answer : σ → Request → Reply × σ) (hyielding : Yielding expected session)
    (h : Holds expected session) {moves : List Move}
    (hmoves : ∀ move ∈ moves, ∀ work, move.work? = some work → work.Yields expected) :
    Holds expected (play answer session moves) := by
  refine (play_induction (P := fun session => Yielding expected session ∧ Holds expected session) answer session moves
    ?_ ⟨hyielding, h⟩).2
  rintro session move hmove ⟨hyielding, hholds⟩
  exact ⟨take_yielding answer hyielding (hmoves move hmove), take_holds answer hyielding hholds move⟩

/-- Every template has its variables detected in the order of its placeholders, so that none of these is open under the
variables. And in a session whose calls read sources, however the calls run: the component was read from one of the sources,
and where it is the component of a static bundle whose metadata say nothing about variables, nothing is open, whatever
values were given. -/
theorem nothing_open_of_plain (answer : σ → Request → Reply × σ) (host : σ) (surface : Preview.Surface)
    (moves : List Move) (sources : List Component.Source)
    (hmoves : ∀ move ∈ moves, ∀ work, move.work? = some work → ∃ source ∈ sources, source.IsReadBy work) :
    (∀ html : String, ∃ slots last, Template.Outlines html.toList slots last ∧ Template.Detects html slots) ∧
    let session := play answer { on host with surface := surface } moves
    ∀ component, session.component = some component →
      (∃ source ∈ sources, ∃ received, source.Gives received component) ∧
      ∀ (source : Component.Source) (received : List Reply), source.Gives received component →
        source.IsPlain received → session.unresolved = [] := by
  constructor
  · intro html
    obtain ⟨slots, last, houtlines⟩ := Template.exists_outlines html.toList
    exact ⟨slots, last, houtlines, houtlines.detects⟩
  intro session component hcomponent
  -- what the work of a move can come to is what its source can come to
  have hyields : ∀ move ∈ moves, ∀ work, move.work? = some work → work.Yields fun result =>
      ∃ source ∈ sources, ∃ received, source.work.replay received = some (result, []) := by
    intro move hmove work hwork
    obtain ⟨source, hsource, hreads⟩ := hmoves move hmove work hwork
    refine Remote.yields_of_replay fun received result hresult => ⟨source, hsource, received, ?_⟩
    rw [← hreads received, hresult]
  have hempty : Holds (fun result => ∃ source ∈ sources, ∃ received, source.work.replay received = some (result, []))
      { on host with surface := surface } := by
    rintro component ⟨⟩
  obtain ⟨horigin, hbound⟩ := play_holds answer (.of_empty rfl rfl) hempty hyields component hcomponent
  refine ⟨horigin, fun source received hgives hplain => ?_⟩
  rw [unresolved, hcomponent]
  refine Template.unresolved_eq_nil fun name hname => hbound name ?_
  rw [hplain.labels_eq hgives]
  exact hname

/-- A page with a placeholder is uploaded, and a value is given to a name that no placeholder has. -/
theorem nothing_open_of_bundle :
    let session := play Component.unreachable { on () with surface := .page }
      [.load (.done (Component.ofUpload Component.bundle)), .happen 0, .happen 0, .bind "name" "Ann"]
    ∃ component, session.component = some component ∧ Template.placeholders component.html = ["title"] ∧
      session.unresolved = [] := by
  intro session
  have hopen := (nothing_open_of_plain Component.unreachable () .page
    [.load (.done (Component.ofUpload Component.bundle)), .happen 0, .happen 0, .bind "name" "Ann"]
    [.uploaded Component.bundle] (by simp [Move.work?, Component.Source.IsReadBy, Component.Source.work])).2
  have hpage : Component.selectUploaded Component.bundle Listing.pageNames Listing.pageEndings =
      some ⟨"index.html", "<p>\x7b\x7btitle\x7d\x7d</p>"⟩ := by decide
  have hstyle : Component.selectUploaded Component.bundle Listing.styleNames Listing.styleEndings =
      some ⟨"style.css", "p \x7b\x7d"⟩ := by decide
  have hmetadata : Component.selectUploaded Component.bundle [Listing.metadataName] [] = none := by decide
  have hplain : (Component.Source.uploaded Component.bundle).IsPlain [] :=
    .uploaded hpage hstyle fun file hfile => absurd (hfile.symm.trans hmetadata) (Option.some_ne_none file)
  refine ⟨_, rfl, ?_, (hopen _ rfl).2 (.uploaded Component.bundle) [] rfl hplain⟩
  decide +kernel

end Showcase.Session
