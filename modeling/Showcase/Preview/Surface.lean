import Showcase.Failure
import Showcase.Html.Escape
import Showcase.Json.Basic

/-!
# Surfaces

A preview is written to a surface, an isolated frame in which scripts run without access to the page around it. Every
write replaces the whole document. An observable surface also tells what the document in it has published.
-/

namespace Showcase.Preview

/-- What the frame of a preview is allowed to do. -/
def sandboxPolicy : String := "allow-scripts"

/-- The name under which a document publishes its state. -/
def stateGlobal : String := "__componentPreview"

/-- The expression that reads the published state. -/
def stateExpression : String := "() => window." ++ stateGlobal ++ " || null"

/-- A surface, with what has happened to it and what it is going to answer. -/
structure Surface where
  /-- Whether what it answers reflects what runs in it. -/
  observable : Bool
  /-- Whether it can be written at all. -/
  writable : Bool
  /-- How many of the next writes fail. -/
  failing : Nat
  /-- The document written last. -/
  document : Option String
  /-- How many writes succeeded. -/
  writes : Nat
  /-- The states to be published, the last of them for good. -/
  snapshots : List Json
  /-- How often the state was read. -/
  reads : Nat

namespace Surface

/-- A frame whose document is rendered elsewhere: it cannot be observed. -/
def frame : Surface := ⟨false, true, 0, none, 0, [], 0⟩

/-- A page that runs what is written to it. -/
def page : Surface := { frame with observable := true }

/-- A surface that cannot be written. -/
def unwritable : Surface := { frame with writable := false }

/-- Write a document. -/
def write (surface : Surface) (document : String) : Fallible Unit × Surface :=
  if !surface.writable then (.error .unwritable, surface)
  else if surface.failing > 0 then (.error .detached, { surface with failing := surface.failing - 1 })
  else (.ok (), { surface with document := some document, writes := surface.writes + 1 })

/-- The snapshots after one was read: the last one stays. -/
def afterRead : List Json → List Json
  | [] => []
  | [last] => [last]
  | _ :: later => later

/-- Read the published state; null if there is none. -/
def read (surface : Surface) : Json × Surface :=
  (surface.snapshots.head?.getD .null,
    { surface with snapshots := afterRead surface.snapshots, reads := surface.reads + 1 })

/-- The element that shows the document of a surface, empty before the first write. -/
def toFrame (surface : Surface) (title : String) : String :=
  match surface.document with
  | none => ""
  | some document =>
    "<iframe title=\"" ++ Html.escape title ++ "\" sandbox=\"" ++ sandboxPolicy ++ "\" srcdoc=\""
      ++ Html.escape document ++ "\"></iframe>"

end Surface

end Showcase.Preview
