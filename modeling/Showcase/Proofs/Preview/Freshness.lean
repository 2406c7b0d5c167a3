import Showcase.Preview.Static
import Showcase.Proofs.Preview.Snapshot

/-!
# Freshness of static previews

A static preview is written only when its inputs change, so a renderer has to know whether its surface still shows the
document of those inputs. Renderers are followed through any moves, with a note of the surface that was mounted since the
last write that succeeded.

* `Watched.Sound.play` — what a renderer that has rendered says about its surface, after any moves.
* `static_preview_fresh_iff` — the surface shows the document of the inputs unless it was mounted after the last write and
  shows something else; after a write that failed, the next update writes the document of the inputs that failed.
* `not_static_preview_fresh` — a surface that is mounted later does not show it.
-/

namespace Showcase.Preview

/-! ## Moves -/

/-- What can happen next to a renderer of static previews. -/
inductive StaticMove where
  | mount (surface : Surface)
  | render (html css : String) (bindings : Bindings)
  | update (html css : Option String) (bindings : Option Bindings)
  /-- Writes to the mounted surface begin to fail or to succeed. -/
  | disturb (writable : Bool) (failing : Nat)

/-- Whether a move hands inputs to the renderer. -/
def StaticMove.isRendering : StaticMove → Bool
  | render _ _ _ | update _ _ _ => true
  | mount _ | disturb _ _ => false

namespace StaticRenderer

variable {renderer : StaticRenderer} {html css : String} {bindings : Bindings}

/-- The document that the inputs of a renderer make. -/
def document (renderer : StaticRenderer) : Fallible String := staticDocument renderer.html renderer.css renderer.bindings

/-- The renderer with other inputs. -/
def withInputs (renderer : StaticRenderer) (html css : String) (bindings : Bindings) : StaticRenderer :=
  { renderer with html := html, css := css, bindings := bindings }

/-- Whether an update changes none of the inputs. -/
def Keeps (renderer : StaticRenderer) (html css : Option String) (bindings : Option Bindings) : Prop :=
  html.getD renderer.html = renderer.html ∧ css.getD renderer.css = renderer.css ∧
    (bindings.getD renderer.bindings).agree renderer.bindings = true

/-- Writes to the surface of a renderer begin to fail or to succeed. -/
def disturb (renderer : StaticRenderer) (writable : Bool) (failing : Nat) : StaticRenderer :=
  { renderer with
    surface := renderer.surface.map fun surface => { surface with writable := writable, failing := failing } }

/-! ## What rendering can come to -/

section

variable {surface : Surface} {document : String} {failure : Failure}

theorem render_of_unbuilt (hsurface : renderer.surface = some surface)
    (hdocument : staticDocument html css bindings = .error failure) :
    renderer.render html css bindings =
      (.error failure, { renderer.withInputs html css bindings with phase := .rendering }) := by
  simp only [render, hsurface, hdocument, withInputs]

theorem render_of_unwritten (hsurface : renderer.surface = some surface)
    (hdocument : staticDocument html css bindings = .ok document) (hwrite : (surface.write document).1 = .error failure) :
    renderer.render html css bindings =
      (.error failure,
        { renderer.withInputs html css bindings with surface := some (surface.write document).2, phase := .idle }) := by
  rw [← Prod.eta (surface.write document)] at hwrite
  simp only [render, hsurface, hdocument, withInputs]
  rw [← Prod.eta (surface.write document), hwrite]

theorem render_of_written (hsurface : renderer.surface = some surface)
    (hdocument : staticDocument html css bindings = .ok document) (hwrite : (surface.write document).1 = .ok ()) :
    renderer.render html css bindings =
      (.ok (some document),
        { renderer.withInputs html css bindings with surface := some (surface.showing document), phase := .rendered }) := by
  simp only [render, hsurface, hdocument, withInputs, surface.write_eq_ok.mp hwrite]

end

/-- What rendering inputs can come to: nothing without a surface, a document that cannot be made or written, or a surface
that shows it. -/
inductive Rendering (renderer : StaticRenderer) (html css : String) (bindings : Bindings) :
    Fallible (Option String) × StaticRenderer → Prop where
  | unmounted (hsurface : renderer.surface = none) :
    Rendering renderer html css bindings (.ok none, renderer.withInputs html css bindings)
  | unbuilt {surface : Surface} {failure : Failure} (hsurface : renderer.surface = some surface)
    (hdocument : staticDocument html css bindings = .error failure) :
    Rendering renderer html css bindings
      (.error failure, { renderer.withInputs html css bindings with phase := .rendering })
  | unwritten {surface : Surface} {document : String} {failure : Failure} (hsurface : renderer.surface = some surface)
    (hdocument : staticDocument html css bindings = .ok document) (hwrite : (surface.write document).1 = .error failure) :
    Rendering renderer html css bindings
      (.error failure,
        { renderer.withInputs html css bindings with surface := some (surface.write document).2, phase := .idle })
  | written {surface : Surface} {document : String} (hsurface : renderer.surface = some surface)
    (hdocument : staticDocument html css bindings = .ok document) (hwrite : (surface.write document).1 = .ok ()) :
    Rendering renderer html css bindings
      (.ok (some document),
        { renderer.withInputs html css bindings with surface := some (surface.showing document), phase := .rendered })

theorem rendering_render (renderer : StaticRenderer) (html css : String) (bindings : Bindings) :
    Rendering renderer html css bindings (renderer.render html css bindings) := by
  cases hsurface : renderer.surface with
  | none =>
    have hrender : renderer.render html css bindings = (.ok none, renderer.withInputs html css bindings) := by
      simp only [render, hsurface, withInputs]
    exact hrender ▸ .unmounted hsurface
  | some surface =>
    cases hdocument : staticDocument html css bindings with
    | error failure => exact render_of_unbuilt hsurface hdocument ▸ .unbuilt hsurface hdocument
    | ok document =>
      cases hwrite : (surface.write document).1 with
      | error failure => exact render_of_unwritten hsurface hdocument hwrite ▸ .unwritten hsurface hdocument hwrite
      | ok written => exact render_of_written hsurface hdocument hwrite ▸ .written hsurface hdocument hwrite

/-- An update is a rendering, or nothing at all because those inputs are rendered already. -/
theorem update_cases (renderer : StaticRenderer) (html css : Option String) (bindings : Option Bindings) :
    (renderer.phase = .rendered ∧ renderer.Keeps html css bindings ∧
        renderer.update html css bindings = (.ok none, renderer)) ∨
      renderer.update html css bindings =
        renderer.render (html.getD renderer.html) (css.getD renderer.css) (bindings.getD renderer.bindings) := by
  simp only [update]
  split
  · rename_i hsame
    exact .inl ⟨hsame.1, hsame.2, rfl⟩
  · exact .inr rfl

theorem update_of_not_rendered (renderer : StaticRenderer) (hphase : renderer.phase ≠ .rendered) (html css : Option String)
    (bindings : Option Bindings) :
    renderer.update html css bindings =
      renderer.render (html.getD renderer.html) (css.getD renderer.css) (bindings.getD renderer.bindings) :=
  (renderer.update_cases html css bindings).resolve_left fun h => hphase h.1

/-- With a surface, only an update that changes nothing comes to nothing. -/
theorem eq_of_update_eq_none {html css : Option String} {bindings : Option Bindings} {surface : Surface}
    {after : StaticRenderer} (hsurface : renderer.surface = some surface)
    (hupdate : renderer.update html css bindings = (.ok none, after)) :
    renderer.phase = .rendered ∧ renderer.Keeps html css bindings ∧ after = renderer := by
  rcases renderer.update_cases html css bindings with ⟨hphase, hkeeps, hskip⟩ | hrender
  · exact ⟨hphase, hkeeps, (Prod.mk.inj (hupdate.symm.trans hskip)).2⟩
  · have hrendering := renderer.rendering_render (html.getD renderer.html) (css.getD renderer.css)
      (bindings.getD renderer.bindings)
    rw [← hrender, hupdate] at hrendering
    cases hrendering with
    | unmounted hnone => cases hnone.symm.trans hsurface

end StaticRenderer

/-! ## Runs -/

/-- A renderer, and the surface that was mounted on it since its last write that succeeded, if there is one. -/
structure Watched where
  renderer : StaticRenderer
  mounted : Option Surface

namespace Watched

variable {watched : Watched}

/-- A renderer before its first rendering. -/
def on (surface : Option Surface) : Watched := ⟨.on surface, surface⟩

/-- What a renderer comes to: a write that succeeded is the last one from now on. -/
def answered (watched : Watched) (answer : Fallible (Option String) × StaticRenderer) : Watched :=
  ⟨answer.2, match answer.1 with
    | .ok (some _) => none
    | _ => watched.mounted⟩

/-- Make a move. -/
def take (watched : Watched) : StaticMove → Watched
  | .mount surface => ⟨watched.renderer.mount surface, some surface⟩
  | .render html css bindings => watched.answered (watched.renderer.render html css bindings)
  | .update html css bindings => watched.answered (watched.renderer.update html css bindings)
  | .disturb writable failing => ⟨watched.renderer.disturb writable failing, watched.mounted⟩

/-- Make moves one after the other. -/
def play (watched : Watched) (moves : List StaticMove) : Watched := moves.foldl take watched

/-- A renderer that has rendered has a surface and inputs that make a document. The surface shows it unless it was mounted
after the last write and shows something else. -/
def Sound (watched : Watched) : Prop :=
  watched.renderer.phase = .rendered → ∃ document shown, watched.renderer.document = .ok document ∧
    watched.renderer.surface = some shown ∧
    (shown.document = some document ↔ ∀ mounted, watched.mounted = some mounted → mounted.document = some document)

theorem sound_on (surface : Option Surface) : (on surface).Sound := by
  intro hphase
  cases hphase

theorem Sound.answered_render (hsound : watched.Sound) (html css : String) (bindings : Bindings) :
    (watched.answered (watched.renderer.render html css bindings)).Sound := by
  have hrendering := watched.renderer.rendering_render html css bindings
  generalize watched.renderer.render html css bindings = answer at hrendering
  intro hphase
  cases hrendering with
  | unmounted hsurface =>
    -- a renderer that has rendered keeps its surface
    obtain ⟨-, shown, -, hshown, -⟩ := hsound hphase
    cases hsurface.symm.trans hshown
  | unbuilt hsurface hdocument => cases hphase
  | unwritten hsurface hdocument hwrite => cases hphase
  | @written surface document hsurface hdocument hwrite =>
    refine ⟨document, surface.showing document, hdocument, rfl, iff_of_true rfl ?_⟩
    intro mounted hmounted
    cases hmounted

theorem Sound.take (hsound : watched.Sound) (move : StaticMove) : (watched.take move).Sound := by
  cases move with
  | mount surface =>
    intro hphase
    -- the phase and the inputs stay, whatever the new surface shows
    obtain ⟨document, -, hdocument, -, -⟩ := hsound hphase
    refine ⟨document, surface, hdocument, rfl, fun hshows mounted hmounted => ?_, fun h => h surface rfl⟩
    cases hmounted
    exact hshows
  | render html css bindings => exact hsound.answered_render html css bindings
  | update html css bindings =>
    rw [Watched.take]
    rcases watched.renderer.update_cases html css bindings with ⟨-, -, hskip⟩ | hrender
    · -- a skipped update comes to nothing, so it is no write either
      rw [hskip]
      exact hsound
    · rw [hrender]
      exact hsound.answered_render _ _ _
  | disturb writable failing =>
    intro hphase
    obtain ⟨document, shown, hdocument, hsurface, hshows⟩ := hsound hphase
    refine ⟨document, { shown with writable := writable, failing := failing }, hdocument, ?_, hshows⟩
    rw [Watched.take, StaticRenderer.disturb, hsurface]
    rfl

theorem Sound.play (hsound : watched.Sound) (moves : List StaticMove) : (watched.play moves).Sound := by
  induction moves generalizing watched with
  | nil => exact hsound
  | cons move moves ih => exact ih (hsound.take move)

/-- Mounts and disturbances leave the phase and the inputs of a renderer alone. -/
theorem play_quiet (watched : Watched) {moves : List StaticMove} (hquiet : ∀ move ∈ moves, move.isRendering = false) :
    ∃ surface, (watched.play moves).renderer = { watched.renderer with surface := surface } := by
  induction moves generalizing watched with
  | nil => exact ⟨watched.renderer.surface, rfl⟩
  | cons move moves ih =>
    obtain ⟨surface, hplayed⟩ := ih (watched.take move) fun other hother => hquiet other (List.mem_cons_of_mem move hother)
    refine ⟨surface, hplayed.trans ?_⟩
    cases move with
    | mount _ => rfl
    | disturb _ _ => rfl
    | render html css bindings => cases hquiet _ (List.mem_cons_self ..)
    | update html css bindings => cases hquiet _ (List.mem_cons_self ..)

/-- After a write that failed the renderer is idle, with the inputs that failed, until it is asked again. -/
theorem play_refused (watched : Watched) {html css document : String} {bindings : Bindings} {surface : Surface}
    {failure : Failure} (hsurface : watched.renderer.surface = some surface)
    (hdocument : staticDocument html css bindings = .ok document) (hwrite : (surface.write document).1 = .error failure)
    {later : List StaticMove} (hquiet : ∀ move ∈ later, move.isRendering = false) :
    ∃ other, ((watched.take (.render html css bindings)).play later).renderer = ⟨other, .idle, html, css, bindings⟩ := by
  obtain ⟨other, hplayed⟩ := (watched.take (.render html css bindings)).play_quiet hquiet
  refine ⟨other, hplayed.trans ?_⟩
  rw [Watched.take, StaticRenderer.render_of_unwritten hsurface hdocument hwrite]
  rfl

end Watched

/-! ## Main result -/

/-- After any moves, a renderer that has rendered has a surface, and its inputs make a document. The surface shows that
document exactly if none was mounted since the last write that succeeded, or the one that was shows it already. An update
is a rendering of the inputs with the changes, or it changes nothing and is skipped by a renderer that has rendered, which
is left as it was; with a surface, an update that comes to nothing was skipped. After a write that failed, every update is
a rendering of the inputs that failed with the changes, whatever was mounted in between, and it shows their document on a
surface whose writes succeed. -/
theorem static_preview_fresh_iff (surface : Option Surface) (moves : List StaticMove) :
    let watched := (Watched.on surface).play moves
    let renderer := watched.renderer
    (renderer.phase = .rendered →
      ∃ document shown, renderer.document = .ok document ∧ renderer.surface = some shown ∧
        (shown.document = some document ↔ ∀ mounted, watched.mounted = some mounted → mounted.document = some document)) ∧
    (∀ html css bindings,
      (renderer.phase = .rendered ∧ renderer.Keeps html css bindings ∧
          renderer.update html css bindings = (.ok none, renderer)) ∨
        renderer.update html css bindings =
          renderer.render (html.getD renderer.html) (css.getD renderer.css) (bindings.getD renderer.bindings)) ∧
    (∀ html css bindings shown after, renderer.surface = some shown →
      renderer.update html css bindings = (.ok none, after) →
        renderer.phase = .rendered ∧ renderer.Keeps html css bindings ∧ after = renderer) ∧
    ∀ html css bindings document shown failure, renderer.surface = some shown →
      staticDocument html css bindings = .ok document → (shown.write document).1 = .error failure →
      (renderer.render html css bindings).1 = .error failure ∧
        ∀ later, (∀ move ∈ later, move.isRendering = false) →
          let next := ((watched.take (.render html css bindings)).play later).renderer
          (∀ html' css' bindings', next.update html' css' bindings' =
            next.render (html'.getD html) (css'.getD css) (bindings'.getD bindings)) ∧
          ∀ shown', next.surface = some shown' → shown'.Accepts →
            next.update none none none =
              (.ok (some document), { next with surface := some (shown'.showing document), phase := .rendered }) := by
  intro watched renderer
  refine ⟨(Watched.sound_on surface).play moves, renderer.update_cases,
    fun _ _ _ _ _ => StaticRenderer.eq_of_update_eq_none, ?_⟩
  intro html css bindings document shown failure hsurface hdocument hwrite
  refine ⟨congrArg Prod.fst (StaticRenderer.render_of_unwritten hsurface hdocument hwrite), ?_⟩
  intro later hlater next
  -- moves that render nothing change the surface alone: the phase stays idle and the inputs those of the failed write
  obtain ⟨other, hplayed⟩ := watched.play_refused hsurface hdocument hwrite hlater
  have hnext : next = ⟨other, .idle, html, css, bindings⟩ := hplayed
  rw [hnext]
  have hagain := (StaticRenderer.mk other .idle html css bindings).update_of_not_rendered nofun
  refine ⟨hagain, ?_⟩
  intro shown' hshown' haccepts'
  have hwritten := Surface.write_eq_ok.mpr (Surface.write_of_accepts haccepts' document)
  exact (hagain none none none).trans (StaticRenderer.render_of_written hshown' hdocument hwritten)

/-- A document that could not be written is written by the next update, while the surface shows the one before. -/
theorem static_preview_fresh_after_retry :
    let watched := (Watched.on (some .frame)).play [.render "<p>old</p>" "" [], .disturb true 1]
    ∃ old new shown, watched.renderer.document = .ok old ∧ watched.renderer.surface = some shown ∧
      shown.document = some old ∧ staticDocument "<p>new</p>" "" [] = .ok new ∧
      (watched.renderer.render "<p>new</p>" "" []).1 = .error .detached ∧
      (((watched.take (.render "<p>new</p>" "" [])).play [.disturb true 0]).renderer.update none none none).1 =
        .ok (some new) := by
  intro watched
  obtain ⟨hshows, -, -, hretry⟩ :=
    static_preview_fresh_iff (some .frame) [.render "<p>old</p>" "" [], .disturb true 1]
  obtain ⟨old, shown, hold, hshown, hfresh⟩ := hshows rfl
  obtain ⟨new, hnew⟩ : ∃ new, staticDocument "<p>new</p>" "" [] = .ok new := ⟨_, rfl⟩
  have hfails : (shown.write new).1 = .error .detached := by
    cases hshown
    rfl
  obtain ⟨hrefused, hlater⟩ := hretry "<p>new</p>" "" [] new shown .detached hshown hnew hfails
  obtain ⟨-, hwrites⟩ := hlater [.disturb true 0] (by simp [StaticMove.isRendering])
  exact ⟨old, new, shown, hold, hshown, hfresh.mpr nofun, hnew, hrefused, congrArg Prod.fst (hwrites _ rfl ⟨rfl, rfl⟩)⟩

/-- A surface that is mounted on a renderer which has rendered shows nothing of it. -/
theorem not_static_preview_fresh :
    ¬∀ (surface : Option Surface) (moves : List StaticMove),
      let renderer := ((Watched.on surface).play moves).renderer
      renderer.phase = .rendered →
        ∃ document shown, renderer.document = .ok document ∧ renderer.surface = some shown ∧
          shown.document = some document := by
  intro h
  obtain ⟨document, shown, -, hsurface, hshows⟩ := h (some .frame) [.render "<p>old</p>" "" [], .mount .frame] rfl
  cases hsurface
  cases hshows

end Showcase.Preview
