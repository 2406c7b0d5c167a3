import Showcase.Component.Remote
import Showcase.Component.Upload
import Showcase.Preview.Dynamic
import Showcase.Preview.Static
import Showcase.Repository.Reference
import Showcase.Service.Answer
import Showcase.Service.Form
import Showcase.Settings.Basic
import Showcase.Variables.Content

/-!
# Building components

The requests behind the builder of components: find a repository, look around in it, read a component from it or from an
uploaded folder, and preview what was read.
-/

namespace Showcase.Service

open Network

/-! ## Repositories -/

/-- What is told about a text that refers to no repository. -/
def invalidReference : String := "Invalid GitHub URL. Use https://github.com/owner/repo or owner/repo"

/-- The repository that a text refers to. -/
def resolveRepository (form : ReferenceForm) : Answer :=
  match Repository.Reference.ofText? form.input with
  | none =>
    .ok [("success", .bool false), ("repository", .null), ("error", .ofString invalidReference)]
  | some reference =>
    .success [("repository", .ofMembers [("owner", .ofString reference.owner), ("repo", .ofString reference.repo)]),
      ("error", .null)]

/-- The client for a location. A token that came with it goes before the one that is set. -/
def clientFor (settings : Settings) (location : SourceLocation) : Client := settings.client location.token

/-- Entries as JSON. -/
def entriesJson (entries : List Entry) : Json := .arr (entries.map Entry.toJson)

/-- The directories at a location. -/
def browse (settings : Settings) (location : SourceLocation) : Remote Answer :=
  ((clientFor settings location).browse location.owner location.repo location.path (some location.branch)).andThen
    fun entries => .done (.ok (.success [("directories", entriesJson entries)]))

/-- What is told about the structure of a listing. -/
def verdictJson (verdict : Verdict) : Json :=
  .ofMembers [("valid", .bool verdict.valid), ("errors", .ofStrings verdict.errors),
    ("warnings", .ofStrings verdict.warnings), ("layout", .ofString verdict.layout.name)]

/-- The entries at a location. -/
def listing (settings : Settings) (location : SourceLocation) : Remote (List Entry) :=
  (clientFor settings location).listDirectory location.owner location.repo location.path (some location.branch)

/-- Whether there can be a component at a location. -/
def validate (settings : Settings) (location : SourceLocation) : Remote Answer :=
  (listing settings location).andThen fun entries =>
    let verdict := Listing.validate entries
    .done (.ok (.ok [("success", .bool verdict.valid), ("validation", verdictJson verdict),
      ("files", entriesJson entries)]))

/-- A component and the warnings about it. -/
def parsed (component : Component) (warnings : List String) : Answer :=
  .success [("component", component.toJson), ("warnings", .ofStrings warnings)]

/-- The component at a location. -/
def parse (settings : Settings) (location : SourceLocation) : Remote Answer :=
  (listing settings location).andThen fun entries =>
    (Component.ofListing (clientFor settings location) entries (some location)).andThen fun component =>
      .done (.ok (parsed component (Listing.validate entries).warnings))

/-! ## Texts -/

/-- The component of an uploaded folder. -/
def parseFolder (form : FolderForm) : Fallible Answer :=
  (Component.ofUpload form.files).map fun component => parsed component []

/-- The variables of a text. -/
def detectVariables (form : DetectionForm) : Fallible Answer :=
  let found : Fallible Bindings :=
    match form.mode with
    | .template => .ok (Template.labels form.text)
    | .source => Variables.ofSource form.text
  found.map fun labels => .success [("variables", .ofBindings labels)]

/-- A template with values in the place of its placeholders. -/
def substitute (form : SubstitutionForm) : Answer :=
  .success [("html", .ofString (Template.substitute form.html form.bindings)),
    ("unresolved", .ofStrings (Template.unresolved form.html form.bindings))]

/-! ## Previews -/

/-- The document of a static preview. -/
def staticPreview (form : PreviewForm) : Fallible Answer :=
  let renderer := Preview.StaticRenderer.on (some .frame)
  (renderer.render form.html form.css form.bindings).1.map fun document =>
    .success [("document", .ofOption document), ("sandbox", .ofString Preview.sandboxPolicy),
      ("unresolved", .ofStrings (Template.unresolved form.html form.bindings))]

/-- The document of a live preview. A source without a component has the document of an error. -/
def livePreview (settings : Settings) (form : LiveForm) : Fallible Answer :=
  (Preview.renderLive settings.libraries settings.patience form.source form.css (some .frame)).1.map fun outcome =>
    .ok [("success", .bool outcome.error.isNone),
      ("preview", .ofMembers [("state", .ofString outcome.phase.name), ("document", .ofOption outcome.document),
        ("error", (outcome.error.map Preview.PreviewError.toJson).getD .null)]),
      ("sandbox", .ofString Preview.sandboxPolicy)]

end Showcase.Service
