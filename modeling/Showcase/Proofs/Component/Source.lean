import Showcase.Component.Upload
import Showcase.Proofs.Component.Static
import Showcase.Proofs.Network.Replay

/-!
# Sources of components

A component is read from a directory of a repository or from an uploaded folder. From a static bundle whose metadata say
nothing about variables it comes with the variables that are detected in its page.
-/

namespace Showcase.Component

open Network

/-- Where a component is read from. -/
inductive Source where
  | listed (client : Client) (location : SourceLocation)
  | uploaded (files : List UploadedFile)

namespace Source

/-- Reading the component of a source. -/
def work : Source → Remote Component
  | listed client location => atLocation client location
  | uploaded files => .done (ofUpload files)

/-- A computation reads a source: it comes to the same, whatever replies it receives and at whatever gates it waits. -/
def IsReadBy (source : Source) (work : Remote Component) : Prop :=
  ∀ received, work.replay received = source.work.replay received

/-- A source gives a component in view of the replies that were received. -/
def Gives (source : Source) (received : List Reply) (component : Component) : Prop :=
  source.work.replay received = some (.ok component, [])

/-- In view of the replies that were received, a source is a static bundle whose metadata, if it has any, say nothing
about variables. -/
inductive IsPlain : Source → List Reply → Prop where
  | listed {client : Client} {location : SourceLocation} {received fetched : List Reply} {entries : List Entry}
      {page style : Entry} {pageUrl styleUrl : String} {html css script metadata : Fallible Json}
      (hlisted : (client.listDirectory location.owner location.repo location.path (some location.branch)).replay
        received = some (.ok entries, fetched))
      (hstatic : (Listing.validate entries).layout = .static)
      (hselects : Selects entries page style pageUrl styleUrl)
      (hfetched : Fetch.results (staticFetches client.fetch entries pageUrl styleUrl) fetched =
        [html, css, script, metadata])
      (hplain : ∀ said, metadataOf (optionalPart metadata) = .ok said → said.labels = none) :
      IsPlain (.listed client location) received
  | uploaded {files : List UploadedFile} {page style : UploadedFile}
      (hpage : selectUploaded files Listing.pageNames Listing.pageEndings = some page)
      (hstyle : selectUploaded files Listing.styleNames Listing.styleEndings = some style)
      (hplain : ∀ file, selectUploaded files [Listing.metadataName] [] = some file →
        (Metadata.ofText file.content).labels = none) :
      IsPlain (.uploaded files) []

end Source

/-! ## Labels of a static bundle -/

theorem bind_eq_ok {α β : Type} {value : Fallible α} {next : α → Fallible β} {result : β}
    (h : (value >>= next) = .ok result) : ∃ x, value = .ok x ∧ next x = .ok result := by
  cases value with
  | error failure => cases h
  | ok x => exact ⟨x, rfl, h⟩

theorem scannedText_of_text? {content : Json} {s : String} (h : content.text? = some s) : scannedText content = .ok s := by
  rw [scannedText, h]

/-- Of contents that pass the check each shows the text that it comes to. -/
theorem text?_of_checkedTexts {name : String} {content : Json} {others : List (String × Json)} {s : String}
    {texts : List String} (h : checkedTexts ((name, content) :: others) = .ok (s :: texts)) : content.text? = some s := by
  rw [checkedTexts, Fallible.ofChecked_eq_ok, List.foldr_cons] at h
  simp only [Checked.field_eq_ok, Checked.record_eq_ok, Checked.under_eq_ok] at h
  obtain ⟨_, _, ⟨_, text, rfl, htext, rfl⟩, -, hsame⟩ := h
  obtain ⟨rfl, -⟩ := List.cons.inj hsame
  exact Field.text_eq_ok.mp htext

/-- Where the metadata say nothing about variables, those of the page are detected. -/
theorem labels_of_ofParts {page style : Entry} {thumbnail : Option Entry} {html css script metadata : Fallible Json}
    {component : Component} (h : ofParts page style thumbnail html css script metadata = .ok component)
    (hplain : ∀ said, metadataOf (optionalPart metadata) = .ok said → said.labels = none) :
    component.labels = Template.labels component.html := by
  obtain ⟨content, -, h⟩ := bind_eq_ok h
  obtain ⟨sheet, -, h⟩ := bind_eq_ok h
  obtain ⟨said, hsaid, h⟩ := bind_eq_ok h
  rw [hplain said hsaid] at h
  obtain ⟨scanned, hscanned, h⟩ := bind_eq_ok h
  obtain ⟨texts, htexts, h⟩ := bind_eq_ok h
  split at h
  · rename_i shown sheetText others
    obtain rfl := Except.ok.inj h
    -- what is shown is what was scanned
    rw [scannedText_of_text? (text?_of_checkedTexts htexts)] at hscanned
    obtain rfl := Except.ok.inj hscanned
    rfl
  · cases h

/-- The replies to the fetches of a static bundle make the parts that its component is made of. -/
theorem ofParts_of_replay {entries : List Entry} {page style : Entry} {pageUrl styleUrl : String}
    (hselects : Selects entries page style pageUrl styleUrl) {fetch : String → Fetch Json} {fetched : List Reply}
    {component : Component} (hgives : (ofStaticListing fetch entries).replay fetched = some (.ok component, []))
    {html css script metadata : Fallible Json}
    (hfetched : Fetch.results (staticFetches fetch entries pageUrl styleUrl) fetched = [html, css, script, metadata]) :
    ofParts page style (Listing.selectFile entries Listing.thumbnailNames Listing.imageEndings) html css script metadata =
      .ok component := by
  simp only [ofStaticListing, hselects.pageSelected, hselects.styleSelected, hselects.pageAddress,
    hselects.styleAddress] at hgives
  rw [Remote.replay_all_andThen] at hgives
  rw [staticFetches] at hfetched
  generalize [fetch pageUrl, fetch styleUrl, _, _] = fetches at hgives hfetched
  split at hgives
  · -- nothing is asked after the fetches, so all replies were to them
    have hleft : fetched.drop (Fetch.requests fetches).length = [] := by
      split at hgives <;> exact (Prod.mk.inj (Option.some.inj hgives)).2
    rw [List.take_of_length_le (List.drop_eq_nil_iff.mp hleft), hfetched] at hgives
    exact (Prod.mk.inj (Option.some.inj hgives)).1
  · cases hgives

/-- A plain source gives a component whose variables are those of its page. -/
theorem Source.IsPlain.labels_eq {source : Source} {received : List Reply} {component : Component}
    (hplain : source.IsPlain received) (hgives : source.Gives received component) :
    component.labels = Template.labels component.html := by
  cases hplain with
  | @uploaded files page style hpage hstyle hplain =>
    have hsame : ofStaticUpload files page style = component := by
      simpa [Gives, work, Remote.replay, ofUpload, hpage, hstyle] using hgives
    have hlabels : ((selectUploaded files [Listing.metadataName] []).elim MetadataOf.none fun file =>
        Metadata.ofText file.content).labels = none := by
      cases hfile : selectUploaded files [Listing.metadataName] [] with
      | none => rfl
      | some file => exact hplain file hfile
    rw [← hsame]
    simp only [ofStaticUpload, ofStatic, hlabels, Option.getD_none]
  | @listed client location received fetched entries page style pageUrl styleUrl html css script metadata hlisted
      hstatic hselects hfetched hplain =>
    rw [Gives, work, atLocation, Remote.replay_andThen, hlisted] at hgives
    simp only [Option.bind_some, ofListing, hstatic] at hgives
    split at hgives
    · -- a listing that is not valid gives no component
      simp [Remote.replay] at hgives
    · exact labels_of_ofParts (ofParts_of_replay hselects hgives hfetched) hplain

end Showcase.Component
