import Showcase.Component.Remote
import Showcase.Proofs.Network.Remote
import Showcase.Proofs.Record.Field

/-!
# Failures of a static bundle

The four parts of a static bundle are fetched together, so the same requests are made whatever becomes of them. The page
and the style sheet have to be there: when one of them fails, the first failure is the failure of the whole. The script
and the metadata may be missing, and one that failed counts as an empty text.
-/

namespace Showcase.Component

open Network

/-! ## Parts -/

/-- The text of a part that may be missing. -/
def textOrEmpty : Fallible String → String
  | .ok s => s
  | .error _ => ""

/-- The failure of a part that has to be there, seen from outside. -/
def requiredFailure (name : String) : Failure → Failure
  | .engine error => .engine error
  | failure => .engine (.of .parse ("Failed to fetch " ++ name ++ ": " ++ failure.message))

theorem requiredPart_error (name : String) (failure : Failure) :
    requiredPart name (.error failure) = .error (requiredFailure name failure) := by
  cases failure <;> rfl

theorem optionalPart_text (outcome : Fallible String) :
    optionalPart (outcome.map Json.ofString) = .ofString (textOrEmpty outcome) := by
  cases outcome with
  | error failure => rfl
  | ok s =>
    show (if !s.isEmpty then Json.ofString s else .ofString "") = .ofString s
    by_cases hempty : s.isEmpty = true
    · have hs : s = "" := String.isEmpty_iff.mp hempty
      simp [hs]
    · simp [hempty]

/-- Texts pass the check of a record's fields. -/
theorem checkedTexts_texts (texts : List (String × String)) :
    checkedTexts (texts.map fun part => (part.1, Json.ofString part.2)) = .ok (texts.map Prod.snd) := by
  rw [checkedTexts, Fallible.ofChecked_eq_ok]
  induction texts with
  | nil => rfl
  | cons part parts ih => simp [ih]

theorem metadataOf_text (s : String) : metadataOf (.ofString s) = .ok (Metadata.ofText s) := rfl

theorem scannedText_text (s : String) : scannedText (.ofString s) = .ok s := rfl

/-- The check of the parts of a bundle takes a script only when it is not empty. -/
theorem checkedTexts_parts (html css script : String) :
    checkedTexts ([("html", .ofString html), ("css", .ofString css)] ++
        if (Json.ofString script).isTruthy then [("script", .ofString script)] else []) =
      .ok (html :: css :: (filled? (some script)).toList) := by
  show checkedTexts ([("html", .ofString html), ("css", .ofString css)] ++
    if !script.isEmpty then [("script", .ofString script)] else []) = _
  by_cases hempty : script.isEmpty = true
  · simp only [hempty, Bool.not_true, Bool.false_eq_true, if_false, List.append_nil, filled?, if_true, Option.toList]
    exact checkedTexts_texts [("html", html), ("css", css)]
  · simp only [hempty, Bool.not_false, if_true, filled?, Option.toList]
    exact checkedTexts_texts [("html", html), ("css", css), ("script", script)]

/-- A bundle whose page and style sheet are texts is a component. -/
theorem ofParts_texts (page style : Entry) (thumbnail : Option Entry) (html css : String)
    (script metadata : Fallible String) :
    ofParts page style thumbnail (.ok (.ofString html)) (.ok (.ofString css)) (script.map Json.ofString)
        (metadata.map Json.ofString) =
      .ok (ofStatic (.ofText (textOrEmpty metadata)) html css (filled? (some (textOrEmpty script)))
        ((filled? (Metadata.ofText (textOrEmpty metadata)).thumbnail).orElse fun _ =>
          thumbnail.bind Entry.downloadUrl)) := by
  have hhead : ∀ text : String, (filled? (some text)).toList.head? = filled? (some text) := by
    intro text
    cases filled? (some text) <;> rfl
  unfold ofParts
  rw [optionalPart_text, optionalPart_text]
  generalize textOrEmpty script = scriptText
  simp only [requiredPart, metadataOf_text, bind, Except.bind, pure, Except.pure]
  generalize Metadata.ofText (textOrEmpty metadata) = read
  -- labels that the metadata give go before the placeholders of the page
  rcases hlabels : read.labels with _ | labels
  · simp only [Option.isSome_none, Bool.false_eq_true, if_false, scannedText_text]
    rw [checkedTexts_parts]
    simp only [hhead, ofStatic, hlabels]
  · simp only [Option.isSome_some, if_true]
    rw [checkedTexts_parts]
    simp only [hhead, ofStatic, hlabels, Option.getD_some]

/-! ## Fetches -/

/-- The fetches of a static bundle: of its page, its style sheet, its script and its metadata. -/
def staticFetches (fetch : String → Fetch Json) (entries : List Entry) (pageUrl styleUrl : String) :
    List (Fetch Json) :=
  [fetch pageUrl, fetch styleUrl,
    fetchOptional fetch (Listing.selectFile entries Listing.scriptNames Listing.scriptEndings),
    fetchOptional fetch (Listing.selectFile entries [Listing.metadataName] [])]

/-- Each of the fetches comes to a text or to a failure. -/
def ComeTo {σ : Type} (answer : σ → Request → Reply × σ) (state : σ) (fetches : List (Fetch Json))
    (outcomes : List (Fallible String)) : Prop :=
  Fetch.results fetches (Remote.answerAll answer state (Fetch.requests fetches)).1 =
    outcomes.map fun outcome => outcome.map Json.ofString

/-- The page and the style sheet that are selected from a listing, with their addresses. -/
structure Selects (entries : List Entry) (page style : Entry) (pageUrl styleUrl : String) : Prop where
  pageSelected : Listing.selectFile entries Listing.pageNames Listing.pageEndings = some page
  styleSelected : Listing.selectFile entries Listing.styleNames Listing.styleEndings = some style
  pageAddress : page.address? = some pageUrl
  styleAddress : style.address? = some styleUrl

section

variable {σ : Type} {entries : List Entry} {page style : Entry} {pageUrl styleUrl : String}

theorem ofListing_of_static (hvalid : (Listing.validate entries).valid = true)
    (hstatic : (Listing.validate entries).layout = .static) (client : Client) (location : Option SourceLocation) :
    ofListing client entries location = ofStaticListing client.fetch entries := by
  simp only [ofListing, hvalid, hstatic, Bool.not_true, Bool.false_eq_true, if_false]

/-- The requests of a static bundle are made whatever they are answered. -/
theorem requests_of_static (h : Selects entries page style pageUrl styleUrl) (fetch : String → Fetch Json)
    (answer : σ → Request → Reply × σ) (state : σ) (noted : List Request) :
    ((ofStaticListing fetch entries).run (Remote.noting answer) (state, noted)).2.2 =
      noted ++ Fetch.requests (staticFetches fetch entries pageUrl styleUrl) := by
  simp only [ofStaticListing, h.pageSelected, h.styleSelected, h.pageAddress, h.styleAddress]
  rw [Fetch.run_all_andThen, Remote.answerAll_noting]
  -- nothing is asked any more once the fetches are back
  split <;> rfl

/-- What a static bundle comes to is a matter of what its fetches come to. -/
theorem run_static (h : Selects entries page style pageUrl styleUrl) {fetch : String → Fetch Json}
    {answer : σ → Request → Reply × σ} {state : σ} {html css script metadata : Fallible String}
    (hcome : ComeTo answer state (staticFetches fetch entries pageUrl styleUrl) [html, css, script, metadata]) :
    ((ofStaticListing fetch entries).run answer state).1 =
      ofParts page style (Listing.selectFile entries Listing.thumbnailNames Listing.imageEndings)
        (html.map Json.ofString) (css.map Json.ofString) (script.map Json.ofString) (metadata.map Json.ofString) := by
  simp only [ComeTo, staticFetches] at hcome
  simp only [ofStaticListing, h.pageSelected, h.styleSelected, h.pageAddress, h.styleAddress]
  rw [Fetch.run_all_andThen, hcome]
  rfl

end

/-! ## Failures -/

theorem ofParts_html_error (page style : Entry) (thumbnail : Option Entry) (failure : Failure)
    (css script metadata : Fallible Json) :
    ofParts page style thumbnail (.error failure) css script metadata =
      .error (requiredFailure page.name failure) := by
  simp only [ofParts, requiredPart_error]
  rfl

theorem ofParts_css_error (page style : Entry) (thumbnail : Option Entry) (html : Json) (failure : Failure)
    (script metadata : Fallible Json) :
    ofParts page style thumbnail (.ok html) (.error failure) script metadata =
      .error (requiredFailure style.name failure) := by
  simp only [ofParts, requiredPart_error]
  rfl

/-- Whatever each of the fetches of a valid static listing comes to, a text or a failure: the requests are the same, in
the order of page, style sheet, script and metadata; the whole fails exactly if the page or the style sheet failed, with
the failure of the page if there is one, a typed failure as it is and any other as a failure to parse; and otherwise the
component is the one that comes out when each script or metadata that failed is an empty text. Metadata is taken to nest no
deeper than its reader can follow. -/
theorem static_failures {σ : Type} (fetch : String → Fetch Json) (answer : σ → Request → Reply × σ) (state : σ)
    {entries : List Entry} {page style : Entry} {pageUrl styleUrl : String}
    (hvalid : (Listing.validate entries).valid = true) (hstatic : (Listing.validate entries).layout = .static)
    (hselects : Selects entries page style pageUrl styleUrl) :
    let fetches := staticFetches fetch entries pageUrl styleUrl
    let work := ofStaticListing fetch entries
    (∀ client location, client.fetch = fetch → ofListing client entries location = work) ∧
    (∀ noted, (work.run (Remote.noting answer) (state, noted)).2.2 = noted ++ Fetch.requests fetches) ∧
    ∀ html css script metadata, ComeTo answer state fetches [html, css, script, metadata] →
      let parsed := (work.run answer state).1
      ((∃ failure, parsed = .error failure) ↔ (∃ failure, html = .error failure) ∨ ∃ failure, css = .error failure) ∧
      (∀ failure, html = .error failure → parsed = .error (requiredFailure page.name failure)) ∧
      (∀ text failure, html = .ok text → css = .error failure →
        parsed = .error (requiredFailure style.name failure)) ∧
      ∀ component, parsed = .ok component →
        ∀ {τ : Type} (fetch' : String → Fetch Json) (answer' : τ → Request → Reply × τ) (state' : τ),
          ComeTo answer' state' (staticFetches fetch' entries pageUrl styleUrl)
            [html, css, .ok (textOrEmpty script), .ok (textOrEmpty metadata)] →
          ((ofStaticListing fetch' entries).run answer' state').1 = .ok component := by
  intro fetches work
  refine ⟨?_, requests_of_static hselects fetch answer state, ?_⟩
  · rintro client location rfl
    exact ofListing_of_static hvalid hstatic client location
  intro html css script metadata hcome parsed
  have hparsed : parsed = _ := run_static hselects hcome
  -- the failure of the page comes first, then that of the style sheet; the other parts cannot make it fail
  cases html with
  | error failure =>
    have hfails : parsed = .error (requiredFailure page.name failure) := hparsed.trans (ofParts_html_error ..)
    rw [hfails]
    refine ⟨⟨fun _ => .inl ⟨failure, rfl⟩, fun _ => ⟨_, rfl⟩⟩, ?_, ?_, ?_⟩
    · intro other hother
      cases hother
      rfl
    · intro text other htext
      cases htext
    · intro component hcomponent
      cases hcomponent
  | ok html =>
    cases css with
    | error failure =>
      have hfails : parsed = .error (requiredFailure style.name failure) := hparsed.trans (ofParts_css_error ..)
      rw [hfails]
      refine ⟨⟨fun _ => .inr ⟨failure, rfl⟩, fun _ => ⟨_, rfl⟩⟩, ?_, ?_, ?_⟩
      · intro other hother
        cases hother
      · intro text other htext hother
        cases hother
        rfl
      · intro component hcomponent
        cases hcomponent
    | ok css =>
      have hreads := hparsed.trans (ofParts_texts page style _ html css script metadata)
      rw [hreads]
      refine ⟨?_, ?_, ?_, ?_⟩
      · constructor
        · rintro ⟨failure, hfails⟩
          cases hfails
        · rintro (⟨failure, hfails⟩ | ⟨failure, hfails⟩) <;> cases hfails
      · intro failure hfails
        cases hfails
      · intro text failure _ hfails
        cases hfails
      · -- the component is made of the texts alone
        rintro component hcomponent τ fetch' answer' state' hcome'
        rw [run_static hselects hcome', ← hcomponent]
        exact ofParts_texts page style _ html css (.ok (textOrEmpty script)) (.ok (textOrEmpty metadata))

/-- A file with an address. -/
def bundled (name : String) : Entry := ⟨name, name, .file, some name, none, none⟩

/-- The listing of a bundle with a script. -/
def scripted : List Entry := [bundled "index.html", bundled "style.css", bundled "script.js"]

/-- Fetches of a bundle of which the script comes to a given outcome. -/
def withScript (outcome : Fallible String) (url : String) : Fetch Json :=
  if url = "script.js" then .ready (outcome.map Json.ofString) else .ready (.ok (.ofString "text"))

/-- A host that answers nothing. -/
def unreachable (_ : Unit) (_ : Request) : Reply × Unit := (.failed "", ())

/-- A script that cannot be fetched is as good as an empty one. -/
theorem static_of_failed_script :
    ∃ component,
      ((ofStaticListing (withScript (fail .notFound "Not Found")) scripted).run unreachable ()).1 = .ok component ∧
        ((ofStaticListing (withScript (.ok "")) scripted).run unreachable ()).1 = .ok component := by
  have hselects : Selects scripted (bundled "index.html") (bundled "style.css") "index.html" "style.css" := by
    constructor <;> decide
  obtain ⟨hfails, -, -, hreads⟩ := (static_failures (withScript (fail .notFound "Not Found")) unreachable ()
    (by decide) (by decide) hselects).2.2 (.ok "text") (.ok "text") (fail .notFound "Not Found") (.ok "") rfl
  rcases hparsed : ((ofStaticListing (withScript (fail .notFound "Not Found")) scripted).run unreachable ()).1 with
    failure | component
  · rcases hfails.mp ⟨failure, hparsed⟩ with ⟨_, hpage⟩ | ⟨_, hstyle⟩
    · cases hpage
    · cases hstyle
  · exact ⟨component, rfl, hreads component hparsed (withScript (.ok "")) unreachable () rfl⟩

end Showcase.Component
