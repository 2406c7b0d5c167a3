import Mathlib.Data.Nat.Find
import Showcase.Proofs.Preview.Payload
import Showcase.Proofs.Preview.Snapshot

/-!
# Following a live preview

The renderer of live previews looks at an observable surface until a snapshot shows that the component was rendered or
that an error was published, and gives up when its budget of looks is used up. `follow_of_final` and `follow_exhausted`
say what the two ways to stop come to; the main statements lift them to a whole rendering, whatever the renderer did
before:

* `live_preview_follows` — how often the surface is read and written, and what the rendering comes to, as long as every
  error that is published is described or counts as none.
* `live_preview_returns_iff` — without that assumption a rendering comes to a result exactly if the first snapshot that
  ends it does not publish an error that is not described; `not_live_preview_returns` has such an error.
-/

namespace Showcase.Preview

variable {patience : Patience} {document : String} {run : Run} {surface : Surface}

/-! ## One look -/

theorem follow_of_undecided {attempts : Nat} (hsurface : run.surface = some surface)
    (hsnapshot : IsSnapshot (surface.snapshot 0)) (hundecided : ¬IsFinal (surface.snapshot 0)) :
    follow patience document (attempts + 1) run =
      follow patience document attempts
        ⟨⟨shownPhase (surface.snapshot 0), run.progress.error⟩, some surface.read.2, run.sleeps + 1⟩ := by
  rw [follow, hsurface]
  simp only [Option.getD_some, surface.read_eq, phaseOf_eq hsnapshot]
  rcases shownPhase_cases (surface.snapshot 0) with hphase | hphase | hphase | hphase
  · rw [hphase]
    rfl
  · rw [hphase]
    rfl
  · exact absurd (.inl hphase) hundecided
  · exact absurd (.inr hphase) hundecided

theorem follow_of_rendered {attempts : Nat} (hsurface : run.surface = some surface)
    (hsnapshot : IsSnapshot (surface.snapshot 0)) (hrendered : shownPhase (surface.snapshot 0) = .rendered) :
    follow patience document (attempts + 1) run =
      (.ok ⟨.rendered, some document, none⟩, ⟨⟨.rendered, run.progress.error⟩, some surface.read.2, run.sleeps⟩) := by
  rw [follow, hsurface]
  simp only [Option.getD_some, surface.read_eq, phaseOf_eq hsnapshot, hrendered]
  rfl

theorem follow_of_errored {attempts : Nat} (hsurface : run.surface = some surface)
    (hsnapshot : IsSnapshot (surface.snapshot 0)) (herrored : shownPhase (surface.snapshot 0) = .errored) :
    follow patience document (attempts + 1) run =
      match publishedError (surface.snapshot 0) with
      | .error failure => (.error failure, ⟨⟨.errored, run.progress.error⟩, some surface.read.2, run.sleeps⟩)
      | .ok error =>
        (.ok ⟨.errored, some document, some error⟩,
          ⟨⟨.errored, some error⟩, some surface.read.2, run.sleeps⟩) := by
  rw [follow, hsurface]
  simp only [Option.getD_some, surface.read_eq, phaseOf_eq hsnapshot, herrored]
  rfl

/-! ## Looking until something is final -/

/-- A run that looked at its surface so many times without coming to an end. -/
def Run.waited (run : Run) (surface : Surface) : Nat → Run
  | 0 => run
  | count + 1 =>
    ⟨⟨shownPhase (surface.snapshot count), run.progress.error⟩, some (surface.after (count + 1)),
      run.sleeps + (count + 1)⟩

theorem Run.waited_surface (hsurface : run.surface = some surface) (count : Nat) :
    (run.waited surface count).surface = some (surface.after count) := by
  cases count with
  | zero => exact hsurface
  | succ count => rfl

theorem Run.waited_error (count : Nat) : (run.waited surface count).progress.error = run.progress.error := by
  cases count <;> rfl

/-- Looks that decide nothing only use up the budget. -/
theorem follow_of_waited (hsurface : run.surface = some surface) (count later : Nat)
    (hwaits : ∀ index < count, IsSnapshot (surface.snapshot index) ∧ ¬IsFinal (surface.snapshot index)) :
    follow patience document (count + later) run = follow patience document later (run.waited surface count) := by
  induction count generalizing later with
  | zero => rw [Nat.zero_add, Run.waited]
  | succ count ih =>
    have hearlier : ∀ index < count, IsSnapshot (surface.snapshot index) ∧ ¬IsFinal (surface.snapshot index) :=
      fun index hindex => hwaits index (by omega)
    obtain ⟨hsnapshot, hundecided⟩ := hwaits count (by omega)
    -- the last of these looks is the first one at a surface that was read before
    rw [← Nat.add_zero count, ← surface.snapshot_after count 0] at hsnapshot hundecided
    rw [Nat.add_right_comm, Nat.add_assoc, ih (later + 1) hearlier,
      follow_of_undecided (Run.waited_surface hsurface count) hsnapshot hundecided, Run.waited_error,
      surface.snapshot_after, Nat.add_zero]
    cases count <;> rfl

/-- What a run comes to when a snapshot is final: it shows the component, or it has the error that was published. -/
def Run.endAt (run : Run) (surface : Surface) (document : String) (index : Nat) : Fallible Outcome × Run :=
  let ended (phase : Phase) (error : Option PreviewError) : Run :=
    ⟨⟨phase, error⟩, some (surface.after (index + 1)), run.sleeps + index⟩
  if shownPhase (surface.snapshot index) = .rendered then
    (.ok ⟨.rendered, some document, none⟩, ended .rendered run.progress.error)
  else
    match publishedError (surface.snapshot index) with
    | .error failure => (.error failure, ended .errored run.progress.error)
    | .ok error => (.ok ⟨.errored, some document, some error⟩, ended .errored (some error))

theorem Run.waited_sleeps (count : Nat) : (run.waited surface count).sleeps = run.sleeps + count := by
  cases count <;> rfl

/-- Of snapshots that are final one is the first. -/
theorem exists_firstFinal {budget : Nat} (h : ∃ index < budget, IsFinal (surface.snapshot index)) :
    ∃ index < budget, IsFirstFinal surface index := by
  classical
  have hfinal : ∃ index, IsFinal (surface.snapshot index) := h.imp fun _ => And.right
  obtain ⟨index, hindex, hhere⟩ := h
  refine ⟨Nat.find hfinal, ?_, Nat.find_spec hfinal, fun earlier hearlier => Nat.find_min hfinal hearlier⟩
  exact Nat.lt_of_le_of_lt (Nat.find_min' hfinal hhere) hindex

theorem IsFirstFinal.unique {index other : Nat} (h : IsFirstFinal surface index) (hother : IsFirstFinal surface other) :
    index = other := by
  rcases Nat.lt_trichotomy index other with hlt | heq | hgt
  · exact absurd h.1 (hother.2 index hlt)
  · exact heq
  · exact absurd hother.1 (h.2 other hgt)

/-- A run ends at the first snapshot that is final, and looks no further. -/
theorem follow_of_final (hsurface : run.surface = some surface) {index budget : Nat} (hbudget : index < budget)
    (hfirst : IsFirstFinal surface index) (hsnapshots : ∀ earlier ≤ index, IsSnapshot (surface.snapshot earlier)) :
    follow patience document budget run = run.endAt surface document index := by
  obtain ⟨left, rfl⟩ : ∃ left, budget = index + (left + 1) := ⟨budget - index - 1, by omega⟩
  have hwaits : ∀ earlier < index, IsSnapshot (surface.snapshot earlier) ∧ ¬IsFinal (surface.snapshot earlier) :=
    fun earlier hearlier => ⟨hsnapshots earlier (by omega), hfirst.2 earlier hearlier⟩
  have hhere : (surface.after index).snapshot 0 = surface.snapshot index := surface.snapshot_after index 0
  have hsnapshot := hsnapshots index (by omega)
  have hfinal := hfirst.1
  -- the looks before decide nothing, and the next one is the first at a surface that was read so often
  rw [follow_of_waited hsurface index (left + 1) hwaits]
  rw [← hhere] at hsnapshot hfinal
  rcases hfinal with hrendered | herrored
  · rw [follow_of_rendered (Run.waited_surface hsurface index) hsnapshot hrendered, Run.waited_error, Run.waited_sleeps]
    rw [hhere] at hrendered
    rw [Run.endAt, if_pos hrendered]
    rfl
  · rw [follow_of_errored (Run.waited_surface hsurface index) hsnapshot herrored, Run.waited_error, Run.waited_sleeps]
    rw [hhere] at herrored ⊢
    rw [Run.endAt, if_neg (by rw [herrored]; decide)]
    cases publishedError (surface.snapshot index) <;> rfl

/-- What a final snapshot comes to, if an error that it publishes can be read. -/
theorem Run.endAt_of_reports (run : Run) (surface : Surface) (document : String) {index : Nat}
    (hfinal : IsFinal (surface.snapshot index)) {error : PreviewError}
    (hreports : shownPhase (surface.snapshot index) = .errored → Reports (surface.snapshot index) error) :
    ∃ outcome, run.endAt surface document index =
        (.ok outcome, ⟨⟨outcome.phase, outcome.error.or run.progress.error⟩, some (surface.after (index + 1)),
          run.sleeps + index⟩) ∧
      outcome.phase = shownPhase (surface.snapshot index) ∧ outcome.document = some document ∧
      (outcome.error.isSome = true ↔ outcome.phase = .errored) ∧
      (outcome.phase = .rendered → outcome.error = none) ∧ (outcome.phase = .errored → outcome.error = some error) := by
  rcases hfinal with hrendered | herrored
  · refine ⟨⟨.rendered, some document, none⟩, ?_, hrendered.symm, rfl, ?_, fun _ => rfl, ?_⟩
    · rw [endAt, if_pos hrendered]
      rfl
    · exact iff_of_false Bool.false_ne_true fun h => nomatch h
    · intro h
      cases h
  · refine ⟨⟨.errored, some document, some error⟩, ?_, herrored.symm, rfl, ?_, ?_, fun _ => rfl⟩
    · rw [endAt, if_neg (by rw [herrored]; decide), publishedError_eq_ok.mpr (hreports herrored)]
      rfl
    · exact iff_of_true rfl rfl
    · intro h
      cases h

/-- An error that cannot be read ends the run in a failure, with the phase of an error but none to show. -/
theorem Run.endAt_of_misreports (run : Run) (surface : Surface) (document : String) {index : Nat}
    (herrored : shownPhase (surface.snapshot index) = .errored)
    (hmisreports : ∀ error, ¬Reports (surface.snapshot index) error) :
    ∃ failure, run.endAt surface document index =
        (.error failure, ⟨⟨.errored, run.progress.error⟩, some (surface.after (index + 1)), run.sleeps + index⟩) ∧
      ∀ error, failure ≠ .engine error := by
  rw [endAt, if_neg (by rw [herrored]; decide)]
  rcases hpublished : publishedError (surface.snapshot index) with failure | error
  · refine ⟨failure, rfl, ?_⟩
    rintro error rfl
    exact publishedError_ne_engine _ error hpublished
  · exact absurd (publishedError_eq_ok.mp hpublished) (hmisreports error)

/-- The error of a run whose budget is used up. -/
def exhaustedError (patience : Patience) (run : Run) (surface : Surface) (budget : Nat) : PreviewError :=
  if (run.waited surface budget).progress.phase = .waiting then timeoutError patience else unfinishedError

/-- A run that finds nothing final in its budget writes an error in the place of the component. -/
theorem follow_exhausted (hsurface : run.surface = some surface) (haccepts : surface.Accepts) {budget : Nat}
    (hwaits : ∀ index < budget, IsSnapshot (surface.snapshot index) ∧ ¬IsFinal (surface.snapshot index)) :
    let error := exhaustedError patience run surface budget
    follow patience document budget run =
      (.ok ⟨.errored, some (errorDocument error), some error⟩,
        ⟨⟨.errored, some error⟩, some ((surface.after budget).showing (errorDocument error)), run.sleeps + budget⟩) := by
  intro error
  have hlast : follow patience document (budget + 0) run = follow patience document 0 (run.waited surface budget) :=
    follow_of_waited hsurface budget 0 hwaits
  rw [Nat.add_zero] at hlast
  rw [hlast, follow, Run.showError]
  have hwritten := Surface.write_of_accepts (haccepts.after budget) (errorDocument error)
  have herror : exhaustedError patience run surface budget = error := rfl
  rw [exhaustedError] at herror
  simp only [herror, Run.write, Run.erring, Run.waited_surface hsurface, hwritten, Run.waited_sleeps]
  rfl

/-! ## A whole rendering -/

/-- A renderer that has just written the document of a component. -/
def Run.begun (earlier : Run) (surface : Surface) (document : String) : Run :=
  ⟨⟨.waiting, none⟩, some (surface.showing document), earlier.sleeps⟩

section

variable {libraries : Libraries} {source css : String} {earlier : Run}

/-- A component that is located is written to the surface and followed there. What the renderer did before is
forgotten. -/
theorem render_of_located (hinterval : IsCounted patience.interval) (hsurface : earlier.surface = some surface)
    (hobservable : surface.observable = true) (haccepts : surface.Accepts) {prepared : Script.Prepared} (hsource : Script.prepare source = .ok prepared) :
    earlier.render libraries patience source css =
      let document := runtimeDocument libraries prepared css patience
      follow patience document patience.attempts.toNat (earlier.begun surface document) := by
  have hwritten := Surface.write_of_accepts haccepts (runtimeDocument libraries prepared css patience)
  simp only [Run.render, Run.begun, hsource, documentFor_of_isCounted libraries prepared css hinterval, Run.entering,
    hsurface, Run.write, hwritten, hobservable, if_true]

/-- A source without a component ends in an error that is written in its place. -/
theorem render_of_unlocated (libraries : Libraries) (patience : Patience) (css : String)
    (hsurface : earlier.surface = some surface) (haccepts : surface.Accepts)
    (hsource : ∀ prepared, Script.prepare source ≠ .ok prepared) :
    ∃ error, earlier.render libraries patience source css =
      (.ok ⟨.errored, some (errorDocument error), some error⟩,
        ⟨⟨.errored, some error⟩, some (surface.showing (errorDocument error)), earlier.sleeps⟩) := by
  unfold Script.prepare at hsource
  dsimp only at hsource
  cases hname : Script.componentName? (Script.withoutModuleSyntax source) with
  | some name => exact absurd (by rw [hname]) (hsource ⟨name, Script.withoutModuleSyntax source⟩)
  | none =>
    refine ⟨notFoundError "Could not find component function" (Script.excerpt source Script.excerptLength), ?_⟩
    simp only [Run.render, Script.prepare, hname, fail, EngineError.of, Run.showError, Run.erring, Run.write, hsurface,
      Surface.write_of_accepts haccepts]
    rfl

end

/-- The error of a budget that is used up: the runtime did not load if the last snapshot still waits, and the component
did not end rendering if it was compiling. -/
theorem exhaustedError_eq {run : Run} (hwaiting : run.progress.phase = .waiting) (budget : Nat) :
    exhaustedError patience run surface budget =
      if budget = 0 ∨ shownPhase (surface.snapshot (budget - 1)) = .waiting then timeoutError patience
      else unfinishedError := by
  refine if_congr ?_ rfl rfl
  cases budget with
  | zero => exact iff_of_true hwaiting (.inl rfl)
  | succ budget => exact (or_iff_right (Nat.succ_ne_zero budget)).symm

/-- A rendering of a located component ends at the first snapshot that is final, or when the budget is used up. -/
theorem render_cases (libraries : Libraries) {patience : Patience} (hinterval : IsCounted patience.interval)
    {source : String} (css : String) {earlier : Run}
    (hsurface : earlier.surface = some surface) (hobservable : surface.observable = true) (haccepts : surface.Accepts)
    {prepared : Script.Prepared} (hsource : Script.prepare source = .ok prepared)
    (hsnapshots : ∀ index < patience.attempts.toNat, IsSnapshot (surface.snapshot index)) :
    let budget := patience.attempts.toNat
    let document := runtimeDocument libraries prepared css patience
    let rendering := earlier.render libraries patience source css
    (∃ index < budget, IsFirstFinal surface index ∧
      rendering = (earlier.begun surface document).endAt (surface.showing document) document index) ∨
    ((∀ index < budget, ¬IsFinal (surface.snapshot index)) ∧ ∃ error,
      (if budget = 0 ∨ shownPhase (surface.snapshot (budget - 1)) = .waiting then timeoutError patience
        else unfinishedError) = error ∧
      rendering = (.ok ⟨.errored, some (errorDocument error), some error⟩,
        ⟨⟨.errored, some error⟩, some (((surface.showing document).after budget).showing (errorDocument error)),
          earlier.sleeps + budget⟩)) := by
  intro budget document rendering
  have hrender : rendering = _ := render_of_located hinterval hsurface hobservable haccepts hsource
  have hshown : (earlier.begun surface document).surface = some (surface.showing document) := rfl
  by_cases hfinal : ∃ index < budget, IsFinal (surface.snapshot index)
  · obtain ⟨index, hindex, hfirst⟩ := exists_firstFinal hfinal
    have hlooked : ∀ before ≤ index, IsSnapshot (surface.snapshot before) :=
      fun before hbefore => hsnapshots before (by omega)
    exact .inl ⟨index, hindex, hfirst, hrender.trans (follow_of_final hshown hindex hfirst hlooked)⟩
  · have hwaits : ∀ index < budget, IsSnapshot (surface.snapshot index) ∧ ¬IsFinal (surface.snapshot index) :=
      fun index hindex => ⟨hsnapshots index hindex, fun hhere => hfinal ⟨index, hindex, hhere⟩⟩
    refine .inr ⟨fun index hindex => (hwaits index hindex).2, _, ?_,
      hrender.trans (follow_exhausted hshown (haccepts.showing document) hwaits)⟩
    rw [exhaustedError_eq rfl]
    rfl

/-! ## Results -/

/-- A rendering comes to a result. The renderer is left in its phase and with its error, and there is an error exactly in
the errored phase. -/
def Returns (result : Fallible Outcome × Run) : Prop :=
  ∃ outcome, result.1 = .ok outcome ∧ result.2.progress = ⟨outcome.phase, outcome.error⟩ ∧
    (outcome.error.isSome = true ↔ outcome.phase = .errored)

/-- A rendering fails in no way that a caller can act on. The renderer is left in the errored phase with no error. -/
def FailsUntyped (result : Fallible Outcome × Run) : Prop :=
  (∃ failure, result.1 = .error failure ∧ ∀ error, failure ≠ .engine error) ∧ result.2.progress = ⟨.errored, none⟩

theorem FailsUntyped.not_returns {result : Fallible Outcome × Run} (h : FailsUntyped result) : ¬Returns result := by
  obtain ⟨⟨failure, hfailure, -⟩, -⟩ := h
  rintro ⟨outcome, houtcome, -⟩
  cases hfailure.symm.trans houtcome

theorem returns_error (document : String) (error : PreviewError) (shown : Option Surface) (sleeps : Nat) :
    Returns (.ok ⟨.errored, some document, some error⟩, ⟨⟨.errored, some error⟩, shown, sleeps⟩) :=
  ⟨_, rfl, rfl, iff_of_true rfl rfl⟩

/-- The first snapshot that ends a rendering publishes an error that cannot be read. -/
def Misreports (surface : Surface) (budget : Nat) : Prop :=
  ∃ index < budget, IsFirstFinal surface index ∧ shownPhase (surface.snapshot index) = .errored ∧
    ∀ error, ¬Reports (surface.snapshot index) error

/-- A final snapshot leads to a result unless it publishes an error that cannot be read. -/
theorem endAt_cases (run : Run) (surface : Surface) (document : String) {index : Nat}
    (hfinal : IsFinal (surface.snapshot index)) (herror : run.progress.error = none) :
    ((shownPhase (surface.snapshot index) = .errored → ¬∀ error, ¬Reports (surface.snapshot index) error) ∧
        Returns (run.endAt surface document index)) ∨
      (shownPhase (surface.snapshot index) = .errored ∧ (∀ error, ¬Reports (surface.snapshot index) error) ∧
        FailsUntyped (run.endAt surface document index)) := by
  by_cases hread : ∃ error, shownPhase (surface.snapshot index) = .errored → Reports (surface.snapshot index) error
  · obtain ⟨error, hread⟩ := hread
    obtain ⟨outcome, hend, -, -, hset, -⟩ := run.endAt_of_reports surface document hfinal hread
    refine .inl ⟨fun herrored hunread => hunread error (hread herrored), outcome, ?_, ?_, hset⟩
    · rw [hend]
    · rw [hend, herror, Option.or_none]
  · push Not at hread
    have herrored := (hread unknownError).1
    have hunread : ∀ error, ¬Reports (surface.snapshot index) error := fun error => (hread error).2
    obtain ⟨failure, hend, hfailure⟩ := run.endAt_of_misreports surface document herrored hunread
    refine .inr ⟨herrored, hunread, ⟨failure, ?_, hfailure⟩, ?_⟩
    · rw [hend]
    · rw [hend, herror]

/-! ## Published states -/

/-- The least source with a component. -/
def heroSource : String := "function Hero() \x7b return null; \x7d"

theorem prepare_heroSource : Script.prepare heroSource = .ok ⟨"Hero", heroSource⟩ := by rfl

/-- A document that publishes one state after the other, with no error. -/
def publishing (words : List String) : Surface :=
  { Surface.page with snapshots := words.map fun word => .ofMembers [("state", .ofString word)] }

theorem publishing_snapshot (words : List String) (index : Nat) :
    IsSnapshot ((publishing words).snapshot index) ∧ Reports ((publishing words).snapshot index) unknownError := by
  have hform : (publishing words).snapshot index = .null ∨
      ∃ word, (publishing words).snapshot index = .ofMembers [("state", .ofString word)] := by
    simp only [publishing, Surface.snapshot, List.getElem?_map, List.getLast?_map]
    cases words[index]? with
    | some word => exact .inr ⟨word, rfl⟩
    | none =>
      cases words.getLast? with
      | some word => exact .inr ⟨word, rfl⟩
      | none => exact .inl rfl
  have hblank : ∀ snapshot : Json, snapshot.get? "error" = none → Reports snapshot unknownError := by
    intro snapshot hnone
    refine .unknown fun value hvalue => ?_
    cases hnone.symm.trans hvalue
  rcases hform with hnull | ⟨word, hstate⟩
  · rw [hnull]
    exact ⟨.null, hblank _ rfl⟩
  · rw [hstate]
    exact ⟨.state rfl, hblank _ rfl⟩

/-! ## Main results -/

/-- A located component is rendered on an observable surface whose writes succeed, within a budget of looks, and every
snapshot describes its error or reports none. If one of the looks finds that the component was rendered or that an error
was published, the first of them is the last, the surface is written once, and the rendering comes to what was found.
Otherwise the budget is used up, and the surface is written again, with the error that the rendering comes to. The
renderer is left in the phase and with the error of its result, and there is an error exactly in the errored phase. -/
theorem live_preview_follows (libraries : Libraries) (patience : Patience) (hinterval : IsCounted patience.interval)
    (source css : String) (earlier : Run) {surface : Surface} (hsurface : earlier.surface = some surface) (hobservable : surface.observable = true)
    (haccepts : surface.Accepts) {prepared : Script.Prepared} (hsource : Script.prepare source = .ok prepared)
    (hsnapshots : ∀ index < patience.attempts.toNat,
      IsSnapshot (surface.snapshot index) ∧ ∃ error, Reports (surface.snapshot index) error) :
    let budget := patience.attempts.toNat
    let document := runtimeDocument libraries prepared css patience
    ∃ outcome run shown, earlier.render libraries patience source css = (.ok outcome, run) ∧
      run.surface = some shown ∧ run.progress = ⟨outcome.phase, outcome.error⟩ ∧
      (outcome.error.isSome = true ↔ outcome.phase = .errored) ∧
      (∀ index < budget, IsFirstFinal surface index →
        shown.reads = surface.reads + (index + 1) ∧ shown.writes = surface.writes + 1 ∧
          shown.document = some document ∧ outcome.document = some document ∧
          (shownPhase (surface.snapshot index) = .rendered → outcome.phase = .rendered ∧ outcome.error = none) ∧
          (shownPhase (surface.snapshot index) = .errored → outcome.phase = .errored ∧
            ∃ error, Reports (surface.snapshot index) error ∧ outcome.error = some error)) ∧
      ((∀ index < budget, ¬IsFinal (surface.snapshot index)) →
        ∃ error, shown.reads = surface.reads + budget ∧ shown.writes = surface.writes + 2 ∧
          outcome = ⟨.errored, some (errorDocument error), some error⟩ ∧
          shown.document = some (errorDocument error) ∧
          (budget = 0 ∨ shownPhase (surface.snapshot (budget - 1)) = .waiting →
            error = timeoutError patience ∧ error.kind = .runtimeTimeout) ∧
          (0 < budget → shownPhase (surface.snapshot (budget - 1)) = .compiling →
            error = unfinishedError ∧ error.kind = .compileError)) := by
  intro budget document
  rcases render_cases libraries hinterval css hsurface hobservable haccepts hsource
    (fun index hindex => (hsnapshots index hindex).1) with
    ⟨index, hindex, hfirst, hrender⟩ | ⟨hnone, error, herror, hrender⟩
  · -- the first snapshot that is final ends the rendering
    obtain ⟨-, error, hreports⟩ := hsnapshots index hindex
    obtain ⟨outcome, hend, hphase, hdocument, hset, hclear, hread⟩ :=
      (earlier.begun surface document).endAt_of_reports (surface.showing document) document
        hfirst.1 fun _ => hreports
    rw [hend] at hrender
    refine ⟨outcome, _, (surface.showing document).after (index + 1), hrender, rfl, ?_, hset, ?_, ?_⟩
    · rw [Run.begun, Option.or_none]
    · intro other hother hsame
      obtain rfl := hfirst.unique hsame
      refine ⟨(surface.showing document).after_reads (index + 1), (surface.showing document).after_writes (index + 1),
        (surface.showing document).after_document (index + 1), hdocument, ?_, ?_⟩
      · intro hrendered
        exact ⟨hphase.trans hrendered, hclear (hphase.trans hrendered)⟩
      · intro herrored
        exact ⟨hphase.trans herrored, error, hreports, hread (hphase.trans herrored)⟩
    · intro hnone
      exact absurd hfirst.1 (hnone index hindex)
  · -- the budget is used up, and the error is written in the place of the component
    refine ⟨_, _, _, hrender, rfl, rfl, iff_of_true rfl rfl, ?_, ?_⟩
    · intro index hindex hfirst
      exact absurd hfirst.1 (hnone index hindex)
    · intro _
      refine ⟨error, (surface.showing document).after_reads budget,
        congrArg (· + 1) ((surface.showing document).after_writes budget), rfl, rfl, ?_, ?_⟩
      · intro hwaiting
        obtain rfl : timeoutError patience = error := (if_pos hwaiting).symm.trans herror
        exact ⟨rfl, rfl⟩
      · intro hpositive hcompiling
        have hlate : ¬(budget = 0 ∨ shownPhase (surface.snapshot (budget - 1)) = .waiting) := by
          rintro (hzero | hwaiting)
          · omega
          · cases hwaiting.symm.trans hcompiling
        obtain rfl : unfinishedError = error := (if_neg hlate).symm.trans herror
        exact ⟨rfl, rfl⟩

/-- A component that is rendered at the third look, with a renderer whose last preview had failed. -/
theorem live_preview_follows_to_rendered :
    let surface := publishing ["starting", "compiling", "rendered"]
    let earlier : Run := ⟨⟨.errored, some unknownError⟩, some surface, 0⟩
    ∃ outcome run shown, earlier.render .standard .standard heroSource "" = (.ok outcome, run) ∧
      run.surface = some shown ∧ run.progress = ⟨.rendered, none⟩ ∧ shown.reads = 3 ∧ shown.writes = 1 ∧
      outcome.phase = .rendered ∧ outcome.error = none := by
  intro surface earlier
  have hsurface : earlier.surface = some surface := rfl
  obtain ⟨outcome, run, shown, hrender, hshown, hprogress, -, hfinal, -⟩ := live_preview_follows .standard .standard
    isCounted_standard heroSource "" earlier hsurface rfl ⟨rfl, rfl⟩ prepare_heroSource
    fun index _ => (publishing_snapshot _ index).imp_right fun h => ⟨unknownError, h⟩
  have hwaits : ∀ index < 2, ¬IsFinal ((publishing ["starting", "compiling", "rendered"]).snapshot index) := by decide
  have hfirst : IsFirstFinal surface 2 := ⟨.inl rfl, hwaits⟩
  obtain ⟨hreads, hwrites, -, -, hrendered, -⟩ := hfinal 2 (by decide) hfirst
  obtain ⟨hphase, herror⟩ := hrendered rfl
  refine ⟨outcome, run, shown, hrender, hshown, ?_, hreads, hwrites, hphase, herror⟩
  rw [hprogress, hphase, herror]

/-- A rendering on an observable surface whose writes succeed comes to a result, exactly if its source has no component or
the first snapshot that ends it does not publish an error that cannot be read. The renderer is then in the phase and has
the error of the result. Otherwise the rendering fails in no way that a caller can act on, and the renderer is left in the
errored phase with no error. -/
theorem live_preview_returns_iff (libraries : Libraries) (patience : Patience) (hinterval : IsCounted patience.interval)
    (source css : String) (earlier : Run) {surface : Surface} (hsurface : earlier.surface = some surface) (hobservable : surface.observable = true)
    (haccepts : surface.Accepts)
    (hsnapshots : ∀ index < patience.attempts.toNat, IsSnapshot (surface.snapshot index)) :
    let result := earlier.render libraries patience source css
    let misreports := (∃ prepared, Script.prepare source = .ok prepared) ∧ Misreports surface patience.attempts.toNat
    (Returns result ↔ ¬misreports) ∧ (misreports → FailsUntyped result) := by
  intro result misreports
  -- it is enough that one of the two goes with each way to end
  suffices hends : (¬misreports ∧ Returns result) ∨ (misreports ∧ FailsUntyped result) by
    rcases hends with ⟨hfine, hreturns⟩ | ⟨hmisreports, hfails⟩
    · exact ⟨iff_of_true hreturns hfine, fun h => absurd h hfine⟩
    · exact ⟨iff_of_false hfails.not_returns (not_not_intro hmisreports), fun _ => hfails⟩
  by_cases hlocated : ∃ prepared, Script.prepare source = .ok prepared
  · obtain ⟨prepared, hsource⟩ := hlocated
    rcases render_cases libraries hinterval css hsurface hobservable haccepts hsource hsnapshots with
      ⟨index, hindex, hfirst, hrender⟩ | ⟨hnone, error, -, hrender⟩
    · have hresult : result = _ := hrender
      rcases endAt_cases (earlier.begun surface _) (surface.showing _) _ hfirst.1 rfl with
        ⟨hreports, hreturns⟩ | ⟨herrored, hunread, hfails⟩
      · refine .inl ⟨?_, hresult ▸ hreturns⟩
        rintro ⟨-, other, -, hsame, herrored, hunread⟩
        obtain rfl := hfirst.unique hsame
        exact hreports herrored hunread
      · exact .inr ⟨⟨⟨prepared, hsource⟩, index, hindex, hfirst, herrored, hunread⟩, hresult ▸ hfails⟩
    · -- the budget is used up before anything is published
      have hresult : result = _ := hrender
      refine .inl ⟨?_, hresult ▸ returns_error _ _ _ _⟩
      rintro ⟨-, index, hindex, hfirst, -⟩
      exact hnone index hindex hfirst.1
  · -- without a component the error of the source is the result
    obtain ⟨error, hrender⟩ := render_of_unlocated libraries patience css hsurface haccepts
      fun prepared hprepared => hlocated ⟨prepared, hprepared⟩
    have hresult : result = _ := hrender
    exact .inl ⟨fun h => hlocated h.1, hresult ▸ returns_error _ _ _ _⟩

/-- An error of which nothing is published is an unknown one. -/
theorem live_preview_returns_unknown :
    let surface := publishing ["compiling", "errored"]
    let result := Run.render .standard .standard heroSource "" ⟨⟨.rendered, none⟩, some surface, 0⟩
    Returns result := by
  intro surface result
  have hsurface : (Run.mk ⟨.rendered, none⟩ (some surface) 0).surface = some surface := rfl
  obtain ⟨hreturns, -⟩ := live_preview_returns_iff .standard .standard isCounted_standard heroSource ""
    ⟨⟨.rendered, none⟩, some surface, 0⟩ hsurface rfl ⟨rfl, rfl⟩ fun index _ => (publishing_snapshot _ index).1
  refine hreturns.mpr ?_
  rintro ⟨-, index, -, -, -, hunread⟩
  exact hunread unknownError (publishing_snapshot _ index).2

/-- A document that publishes an error without saying what kind of error it is. -/
def misreporting : Surface :=
  { Surface.page with snapshots :=
      [.ofMembers [("state", .ofString "errored"), ("error", .ofMembers [("message", .ofString "boom")])]] }

/-- What a component publishes can keep its rendering from coming to a result: an error without a kind is neither shown
nor reported. -/
theorem not_live_preview_returns :
    ¬∀ (libraries : Libraries) (patience : Patience) (source css : String) (earlier : Run) (surface : Surface),
      earlier.surface = some surface → surface.observable = true → surface.Accepts →
      (∀ index < patience.attempts.toNat, IsSnapshot (surface.snapshot index)) →
      ∃ outcome, (earlier.render libraries patience source css).1 = .ok outcome ∧
        (outcome.phase = .errored → outcome.error.isSome = true) := by
  intro h
  obtain ⟨outcome, hreturns, -⟩ := h .standard .standard heroSource "" ⟨⟨.idle, none⟩, some misreporting, 0⟩ misreporting
    rfl rfl ⟨rfl, rfl⟩ (by
      intro index _
      cases index <;> exact .state rfl)
  cases hreturns

end Showcase.Preview
