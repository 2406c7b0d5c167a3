import Showcase.Client
import Showcase.Component.Basic
import Showcase.Jsx.Convert
import Showcase.Listing.Path
import Showcase.Variables.Vocabulary

/-!
# Components in a repository

A component is read from the listing of its directory. A static bundle has its parts in that directory: page, style
sheet, script and metadata are fetched together, and only the first two have to be there. A framework project is
searched: its source is the first that is found in one of a few directories, its styles are all style sheets of a
directory beside it, and its metadata stand at its root. A directory that does not exist counts as empty.
-/

namespace Showcase

open Network

/-- Where a component is. -/
structure SourceLocation where
  owner : String
  repo : String
  path : String
  branch : String
  token : Option String
deriving DecidableEq, Repr

/-- The location that a JSON object describes. -/
def SourceLocation.ofMembers (defaultBranch : String) (members : List (JsonString × Json)) : Checked SourceLocation :=
  Checked.record SourceLocation.mk
    |>.field (Field.required members "owner" Field.filledText)
    |>.field (Field.required members "repo" Field.filledText)
    |>.field (Field.withDefault members "path" "" Field.text)
    |>.field (Field.withDefault members "branch" defaultBranch Field.text)
    |>.field (Field.optional members "token" Field.text)

namespace Component

/-! ## Contents of any kind -/

/-- A content that is scanned as a text; one that counts as false is empty. -/
def scannedText (content : Json) : Fallible String :=
  match content.text? with
  | some s => .ok s
  | none => if content.isTruthy then .error (.unusable .scanning content.kindName) else .ok ""

/-- Metadata of a content. -/
def metadataOf (content : Json) : Fallible Metadata :=
  match content.text? with
  | some s => .ok (Metadata.ofText s)
  | none => if content.isTruthy then .error (.noMember content.kindName "strip") else .ok MetadataOf.none

/-- The texts of contents, from the content with a number on. -/
def joinable : (index : Nat) → List Json → Fallible (List String)
  | _, [] => .ok []
  | index, content :: others => do
    match content.text? with
    | some s => pure (s :: (← joinable (index + 1) others))
    | none => .error (.unusable (.joining index) content.kindName)

/-- Check that contents of fields of a component are texts. -/
def checkedTexts (contents : List (String × Json)) : Fallible (List String) :=
  Fallible.ofChecked "ParsedComponent" <|
    contents.foldr (fun content rest =>
      (Checked.record List.cons |>.field ((Field.text content.2).under (.member content.1)) |>.field rest)) (.ok [])

/-! ## Static bundles -/

/-- Fetch a part that may be missing. -/
def fetchOptional (fetch : String → Fetch Json) (entry : Option Entry) : Fetch Json :=
  match entry.bind Entry.address? with
  | some url => fetch url
  | none => .ready (.ok (.ofString ""))

/-- A part that has to be there. -/
def requiredPart (name : String) : Fallible Json → Fallible Json
  | .ok content => .ok content
  | .error (.engine error) => .error (.engine error)
  | .error failure => fail .parse ("Failed to fetch " ++ name ++ ": " ++ failure.message)

/-- A part that may be missing; a failure, or what counts as false, is an empty text. -/
def optionalPart : Fallible Json → Json
  | .ok content => if content.isTruthy then content else .ofString ""
  | .error _ => .ofString ""

/-- The component of the fetched parts of a static bundle. -/
def ofParts (page style : Entry) (thumbnail : Option Entry) (html css script metadata : Fallible Json) :
    Fallible Component := do
  let html ← requiredPart page.name html
  let css ← requiredPart style.name css
  let script := optionalPart script
  let metadata ← metadataOf (optionalPart metadata)
  let scanned ← if metadata.labels.isSome then pure "" else scannedText html
  let shown := if script.isTruthy then [("script", script)] else []
  match ← checkedTexts ([("html", html), ("css", css)] ++ shown) with
  | html :: css :: script =>
    let component := ofStatic metadata html css script.head?
      ((filled? metadata.thumbnail).orElse fun _ => thumbnail.bind Entry.downloadUrl)
    pure { component with labels := metadata.labels.getD (Template.labels scanned) }
  | _ => fail .parse ""

/-- The component of a static bundle; `fetch` is how its contents are fetched. -/
def ofStaticListing (fetch : String → Fetch Json) (entries : List Entry) : Remote Component :=
  let page := Listing.selectFile entries Listing.pageNames Listing.pageEndings
  let style := Listing.selectFile entries Listing.styleNames Listing.styleEndings
  let script := Listing.selectFile entries Listing.scriptNames Listing.scriptEndings
  let metadata := Listing.selectFile entries [Listing.metadataName] []
  let thumbnail := Listing.selectFile entries Listing.thumbnailNames Listing.imageEndings
  match page, style with
  | some page, some style =>
    match page.address?, style.address? with
    | some pageUrl, some styleUrl =>
      (Fetch.all [fetch pageUrl, fetch styleUrl, fetchOptional fetch script, fetchOptional fetch metadata]).andThen fun
        | [html, css, script, metadata] => .done (ofParts page style thumbnail html css script metadata)
        | _ => .done (fail .parse "")
    | _, _ => .done (fail .parse "Missing required files (HTML and CSS files have no download URL)")
  | _, _ => .done (fail .parse "Missing required files (HTML and CSS files are required)")

/-! ## Framework projects -/

/-- The directories in which a source is looked for, in order. -/
def sourceDirectories : List String := ["src/app/components", "src/components", "src/app", "src"]

/-- The directory of styles beside the source. -/
def stylesDirectory : String := "styles"

/-- The style of a component without one. -/
def defaultStyle : String :=
  "/* No CSS files found - using defaults */\n* \x7b box-sizing: border-box; \x7d\n"
    ++ "body \x7b margin: 0; padding: 0; \x7d"

/-- The entries of a directory; a directory that does not exist has none. -/
def listOrEmpty (client : Client) (location : SourceLocation) (path : String) : Remote (List Entry) :=
  (client.listDirectory location.owner location.repo path (some location.branch)).attempt.andThen fun
    | .error (.engine error) => if error.cause = .notFound then .done (.ok []) else .done (.error (.engine error))
    | result => .done result

/-- The first source in one of several directories, with its content. -/
def findSource (client : Client) (location : SourceLocation) : List String → Remote (Option (Entry × Json))
  | [] => .done (.ok none)
  | directory :: others =>
    (listOrEmpty client location (Listing.joinPath location.path directory)).andThen fun entries =>
      match Listing.componentSource? entries with
      | none => findSource client location others
      | some entry =>
        match entry.address? with
        | none => findSource client location others
        | some url => (client.fetch url).toRemote.andThen fun content => .done (.ok (some (entry, content)))

/-- Fetch contents one after the other. -/
def fetchEach (client : Client) : List String → Remote (List Json)
  | [] => .done (.ok [])
  | url :: others =>
    (client.fetch url).toRemote.andThen fun content =>
      (fetchEach client others).andThen fun contents => .done (.ok (content :: contents))

/-- The style sheets of a project joined, or the default style. -/
def collectStyles (client : Client) (location : SourceLocation) (sources : List Entry) : Remote String :=
  match sources.find? fun entry => entry.isDirectory && entry.name == stylesDirectory with
  | none => .done (.ok defaultStyle)
  | some directory =>
    (listOrEmpty client location directory.path).andThen fun entries =>
      let urls := entries.filterMap fun entry =>
        if entry.isFile && Listing.hasEnding entry.name Listing.styleEndings then entry.address? else none
      (fetchEach client urls).andThen fun contents =>
        .done ((joinable 0 contents).map fun texts =>
          let css := "\n\n".intercalate texts
          if Text.allBlank css.toList then defaultStyle else css)

/-- The metadata at the root of a project. Metadata that cannot be fetched count as absent. -/
def rootMetadata (client : Client) (location : SourceLocation) : Remote Metadata :=
  (listOrEmpty client location location.path).andThen fun entries =>
    match (entries.find? fun entry => entry.isFile && entry.name == Listing.metadataName).bind Entry.address? with
    | none => .done (.ok MetadataOf.none)
    | some url =>
      (client.fetch url).toRemote.attempt.andThen fun
        | .ok content => .done (metadataOf content)
        | .error (.engine _) => .done (.ok MetadataOf.none)
        | .error failure => .done (.error failure)

/-- The component of a source with its styles and metadata. -/
def ofSource (entry : Entry) (source : Json) (css : String) (metadata : Metadata) : Fallible Component := do
  let name := Listing.withoutSourceEnding entry.name
  let text ← scannedText source
  let labels ← match metadata.labels with
    | some given => pure given
    | none => Variables.ofSource text
  let script ← match source with
    | .null => pure none
    | content => (checkedTexts [("script", content)]).map List.head?
  pure
    { name := (filled? metadata.name).getD name
      category := categoryOf metadata.category "hero"
      description := some ((filled? metadata.description).getD ("React component: " ++ name))
      html := Jsx.template text name
      css := css
      script := script
      labels := labels
      thumbnail := metadata.thumbnail
      layout := .framework }

/-- The component of a framework project. -/
def ofProject (client : Client) (location : SourceLocation) : Remote Component :=
  (listOrEmpty client location (Listing.joinPath location.path Listing.sourceDirectory)).andThen fun sources =>
    (findSource client location sourceDirectories).andThen fun
      | none => .done (fail .parse "No component file found in src/app/components/ or fallbacks")
      | some (entry, source) =>
        (collectStyles client location sources).andThen fun css =>
          (rootMetadata client location).andThen fun metadata => .done (ofSource entry source css metadata)

/-! ## Components -/

/-- The component of a listing. Without a location a framework project is read like a static bundle. -/
def ofListing (client : Client) (entries : List Entry) (location : Option SourceLocation) : Remote Component :=
  let verdict := Listing.validate entries
  if !verdict.valid then .done (.error (.engine (.invalidStructure verdict.errors verdict.warnings)))
  else
    match verdict.layout, location with
    | .framework, some location => ofProject client location
    | _, _ => ofStaticListing client.fetch entries

/-- The component at a location. -/
def atLocation (client : Client) (location : SourceLocation) : Remote Component :=
  (client.listDirectory location.owner location.repo location.path (some location.branch)).andThen fun entries =>
    ofListing client entries (some location)

end Component

end Showcase
