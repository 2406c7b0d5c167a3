import Showcase.Component.Remote
import Showcase.Proofs.Network.Remote
import Showcase.Proofs.Transport.Absence

/-!
# The calls that make a component

A component is made by calls of a client that list directories and fetch contents, one after the other. What a computation
comes to is told by its calls and their results alone: `Proceeds` says so for any host, and its rules follow the way
computations are composed.
-/

namespace Showcase.Component

open Network

/-! ## Calls -/

/-- A call of a client, and what it came to. -/
inductive Call where
  | listing (path : String) (made : Fallible (List Entry))
  | content (url : String) (made : Fallible Json)

/-- Calls at a location, made one after the other, come to these results and take the host from one state to another. -/
inductive Made {σ : Type} (answer : σ → Request → Reply × σ) (client : Client) (location : SourceLocation) :
    σ → List Call → σ → Prop where
  | nil {state : σ} : Made answer client location state [] state
  | listing {state next after : σ} {path : String} {made : Fallible (List Entry)} {later : List Call}
    (hrun : (client.listDirectory location.owner location.repo path (some location.branch)).run answer state =
      (made, next)) (hlater : Made answer client location next later after) :
    Made answer client location state (.listing path made :: later) after
  | content {state next after : σ} {url : String} {made : Fallible Json} {later : List Call}
    (hrun : (client.fetch url).toRemote.run answer state = (made, next))
    (hlater : Made answer client location next later after) :
    Made answer client location state (.content url made :: later) after

variable {σ α β : Type} {client : Client} {location : SourceLocation}

theorem Made.append {answer : σ → Request → Reply × σ} {state next after : σ} {calls later : List Call}
    (hcalls : Made answer client location state calls next) (hlater : Made answer client location next later after) :
    Made answer client location state (calls ++ later) after := by
  induction hcalls with
  | nil => exact hlater
  | listing hrun _ ih => exact .listing hrun (ih hlater)
  | content hrun _ ih => exact .content hrun (ih hlater)

/-- A call that comes to no failure of parsing. -/
def Call.IsUnparsed : Call → Prop
  | listing _ made => ¬IsParseFailure made
  | content _ made => ¬IsParseFailure made

/-- A client does not parse what it reads. -/
theorem Made.isUnparsed {answer : σ → Request → Reply × σ} {state after : σ} {calls : List Call}
    (h : Made answer client location state calls after) : ∀ call ∈ calls, call.IsUnparsed := by
  induction h with
  | nil => exact nofun
  | @listing state _ _ path _ _ hrun _ ih =>
    have hlisting := client.not_isParseFailure_listDirectory location.owner location.repo path (some location.branch)
      answer state
    rw [hrun] at hlisting
    exact List.forall_mem_cons.mpr ⟨hlisting, ih⟩
  | @content state _ _ url _ _ hrun _ ih =>
    have hcontent := client.not_isParseFailure_fetch url answer state
    rw [hrun] at hcontent
    exact List.forall_mem_cons.mpr ⟨hcontent, ih⟩

/-! ## What calls come to -/

/-- With any host, a computation makes calls and nothing else, and the calls and what it comes to follow a course. -/
def Proceeds (client : Client) (location : SourceLocation) (work : Remote α)
    (course : List Call → Fallible α → Prop) : Prop :=
  ∀ (σ : Type) (answer : σ → Request → Reply × σ) (state : σ),
    ∃ calls, Made answer client location state calls (work.run answer state).2 ∧ course calls (work.run answer state).1

theorem Proceeds.done {result : Fallible α} {course : List Call → Fallible α → Prop} (h : course [] result) :
    Proceeds client location (.done result) course :=
  fun _ _ _ => ⟨[], .nil, h⟩

theorem Proceeds.mono {work : Remote α} {course other : List Call → Fallible α → Prop}
    (hwork : Proceeds client location work course) (h : ∀ calls result, course calls result → other calls result) :
    Proceeds client location work other := by
  intro σ answer state
  obtain ⟨calls, hmade, hcourse⟩ := hwork σ answer state
  exact ⟨calls, hmade, h calls _ hcourse⟩

/-- What goes on with a value makes its calls after those that led to the value. -/
theorem Proceeds.andThen {work : Remote α} {next : α → Remote β} {first : List Call → Fallible α → Prop}
    {course : List Call → Fallible β → Prop} (hwork : Proceeds client location work first)
    (hfailure : ∀ calls failure, first calls (.error failure) → course calls (.error failure))
    (hnext : ∀ calls value, first calls (.ok value) →
      Proceeds client location (next value) fun later result => course (calls ++ later) result) :
    Proceeds client location (work.andThen next) course := by
  intro σ answer state
  obtain ⟨calls, hmade, hfirst⟩ := hwork σ answer state
  rw [Remote.run_andThen]
  rcases hrun : work.run answer state with ⟨failure | value, after⟩
  · rw [hrun] at hmade hfirst
    exact ⟨calls, hmade, hfailure calls failure hfirst⟩
  · rw [hrun] at hmade hfirst
    -- what goes on starts in the state that the first calls led to
    obtain ⟨later, hlater, hcourse⟩ := hnext calls value hfirst σ answer after
    exact ⟨calls ++ later, hmade.append hlater, hcourse⟩

theorem Proceeds.attempt {work : Remote α} {course : List Call → Fallible α → Prop}
    (hwork : Proceeds client location work course) :
    Proceeds client location work.attempt fun calls result => ∃ made, result = .ok made ∧ course calls made := by
  intro σ answer state
  obtain ⟨calls, hmade, hcourse⟩ := hwork σ answer state
  rw [Remote.run_attempt]
  exact ⟨calls, hmade, _, rfl, hcourse⟩

theorem proceeds_fetch (client : Client) (location : SourceLocation) (url : String) :
    Proceeds client location (client.fetch url).toRemote fun calls result => calls = [.content url result] :=
  fun _ _ _ => ⟨_, .content rfl .nil, rfl⟩

theorem proceeds_listDirectory (client : Client) (location : SourceLocation) (path : String) :
    Proceeds client location (client.listDirectory location.owner location.repo path (some location.branch))
      fun calls result => calls = [.listing path result] :=
  fun _ _ _ => ⟨_, .listing rfl .nil, rfl⟩

/-- What is made of the listing of a directory that may be missing. -/
theorem listOrEmpty_eq (client : Client) (location : SourceLocation) (path : String) :
    listOrEmpty client location path =
      (client.listDirectory location.owner location.repo path (some location.branch)).attempt.andThen fun made =>
        .done (orEmpty made) := by
  unfold listOrEmpty
  congr 1
  funext made
  unfold orEmpty
  rcases made with failure | entries
  · cases failure with
    | engine error =>
      dsimp only
      split <;> rfl
    | _ => rfl
  · rfl

theorem proceeds_listOrEmpty (client : Client) (location : SourceLocation) (path : String) :
    Proceeds client location (listOrEmpty client location path) fun calls result =>
      ∃ made, calls = [.listing path made] ∧ result = orEmpty made := by
  rw [listOrEmpty_eq]
  refine (proceeds_listDirectory client location path).attempt.andThen ?_ ?_
  · rintro calls failure ⟨made, hmade, -⟩
    cases hmade
  · rintro calls value ⟨made, hmade, rfl⟩
    cases hmade
    exact .done ⟨value, rfl, rfl⟩

end Showcase.Component
