import Showcase.Preview.Document

/-!
# Live previews

A live preview runs the component itself. The renderer writes the document of the component and, on a surface that can
be observed, looks at what the document publishes until the component is shown, an error is published, or patience runs
out. An error that is not already shown by the document is written as a document of its own.
-/

namespace Showcase.Preview

/-- How far a live preview has come. -/
inductive Phase where
  | idle
  | waiting
  | compiling
  | rendered
  | errored
deriving DecidableEq, Repr

/-- The word for a phase. -/
def Phase.name : Phase → String
  | idle => "idle"
  | waiting => "waiting_for_runtime"
  | compiling => "compiling"
  | rendered => "rendered"
  | errored => "errored"

/-- The phase that a document publishes; anything unknown means that it still waits. -/
def Phase.ofPublished (word : String) : Phase :=
  if word == "compiling" then compiling
  else if word == "rendered" then rendered
  else if word == "errored" then errored
  else waiting

/-- What a live preview came to. -/
structure Outcome where
  phase : Phase
  document : Option String
  error : Option PreviewError
deriving DecidableEq, Repr

/-- What the renderer knows about its last preview. -/
structure Progress where
  phase : Phase
  error : Option PreviewError
deriving DecidableEq, Repr

/-- A renderer at work: its progress, the surface if there is one, and how often it has slept. -/
structure Run where
  progress : Progress
  surface : Option Surface
  sleeps : Nat

namespace Run

/-- The run in another phase. -/
def entering (run : Run) (phase : Phase) : Run := { run with progress := { run.progress with phase := phase } }

/-- The run with an error. -/
def erring (run : Run) (error : PreviewError) : Run := { run with progress := ⟨.errored, some error⟩ }

/-- Write a document to the surface, if there is one. -/
def write (run : Run) (document : String) : Fallible Unit × Run :=
  match run.surface with
  | none => (.ok (), run)
  | some surface => ((surface.write document).1, { run with surface := some (surface.write document).2 })

/-- Show an error as a document of its own. -/
def showError (run : Run) (error : PreviewError) : Fallible Outcome × Run :=
  let document := errorDocument error
  let (written, after) := (run.erring error).write document
  (written.map fun _ => ⟨.errored, some document, some error⟩, after)

end Run

/-! ## Following the document -/

/-- The error of a document that publishes none. -/
def unknownError : PreviewError := ⟨.compileError, "Preview Error", "Unknown preview error", none, none⟩

/-- The error of a component that began to render and did not end. -/
def unfinishedError : PreviewError :=
  ⟨.compileError, "Preview Error", "Component did not finish rendering", none, none⟩

/-- The error of a runtime that did not load in time. -/
def timeoutError (patience : Patience) : PreviewError :=
  ⟨.runtimeTimeout, "Runtime did not load",
    "React, ReactDOM or Framer Motion were not available after "
      ++ patience.interval.multipleText patience.attempts ++ "s", none, none⟩

/-- The phase that a snapshot shows. A snapshot that counts as false is taken for an empty one. -/
def phaseOf (snapshot : Json) : Fallible Phase :=
  if !snapshot.isTruthy then .ok .waiting
  else
    match snapshot with
    | .obj members =>
      match Json.member? members "state" with
      | some (.str word) => .ok (.ofPublished word.shown)
      | some (.arr _) => .error (.unusable .lookup "list")
      | some (.obj _) => .error (.unusable .lookup "dict")
      | _ => .ok .waiting
    | other => .error (.noMember other.kindName "get")

/-- The error that a snapshot publishes. An error that counts as false is taken for an unknown one. -/
def publishedError (snapshot : Json) : Fallible PreviewError :=
  match snapshot.get? "error" with
  | some (.obj []) | none => .ok unknownError
  | some (.obj members) => PreviewError.ofMembers members
  | some other => if other.isTruthy then .error (.unusable .spreading other.kindName) else .ok unknownError

/-- Look at the surface up to `attempts` times; the run ends there when the component is shown or an error is
published. -/
def follow (patience : Patience) (document : String) : (attempts : Nat) → Run → Fallible Outcome × Run
  | 0, run =>
    run.showError (if run.progress.phase = .waiting then timeoutError patience else unfinishedError)
  | attempts + 1, run =>
    let (snapshot, surface) := (run.surface.getD .frame).read
    let run := { run with surface := some surface }
    match phaseOf snapshot with
    | .error failure => (.error failure, run)
    | .ok .rendered => (.ok ⟨.rendered, some document, none⟩, run.entering .rendered)
    | .ok .errored =>
      match publishedError snapshot with
      | .error failure => (.error failure, run.entering .errored)
      | .ok error => (.ok ⟨.errored, some document, some error⟩, run.erring error)
    | .ok phase => follow patience document attempts { run.entering phase with sleeps := run.sleeps + 1 }

/-! ## Rendering -/

/-- The error of a source without a component. -/
def notFoundError (message excerpt : String) : PreviewError :=
  ⟨.componentNotFound, "Component Parsing Error", message, none, some (.text excerpt)⟩

/-- Render a source on the surface of a renderer. What the renderer knew of an earlier preview is forgotten first. -/
def Run.render (libraries : Libraries) (patience : Patience) (source css : String) (earlier : Run) :
    Fallible Outcome × Run :=
  let start : Run := { earlier with progress := ⟨.idle, none⟩ }
  match Script.prepare source with
  | .error (.engine error) =>
    let excerpt := match error.cause with
      | .notLocated excerpt => excerpt
      | _ => ""
    start.showError (notFoundError error.message excerpt)
  | .error failure => (.error failure, start)
  | .ok prepared =>
    match documentFor libraries prepared css patience with
    | .error failure => (.error failure, start)
    | .ok document =>
      let run := start.entering .waiting
      match run.surface with
      | none => (.ok ⟨.waiting, some document, none⟩, run)
      | some surface =>
        match run.write document with
        | (.error failure, after) => (.error failure, after)
        | (.ok (), after) =>
          if surface.observable then follow patience document patience.attempts.toNat after
          else (.ok ⟨.waiting, some document, none⟩, after)

/-- Render a source on a surface with a renderer of its own. -/
def renderLive (libraries : Libraries) (patience : Patience) (source css : String) (surface : Option Surface) :
    Fallible Outcome × Run :=
  Run.render libraries patience source css ⟨⟨.idle, none⟩, surface, 0⟩

end Showcase.Preview
