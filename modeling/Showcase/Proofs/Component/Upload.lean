import Mathlib.Data.List.Forall2
import Mathlib.Data.Option.Basic
import Showcase.Component.Upload
import Showcase.Proofs.Component.Static
import Showcase.Proofs.Json.RoundTrip

/-!
# Uploaded and listed bundles

A static bundle is read in two ways: from the files of an uploaded folder, and from a listing whose files are fetched. The
two agree whenever the listing has the files of the folder in their order and their contents can be fetched: the same
files are selected, and of the same texts the same component is made. An empty script counts as none where it is fetched;
only the thumbnail may differ, since only a listing has addresses of images.
-/

namespace Showcase

open Network

variable {α β σ : Type}

/-! ## Selecting from lists that correspond -/

namespace Listing

variable {R : α → β → Prop} {nameOf : α → String} {otherName : β → String} {files : List α} {entries : List β}

theorem find?_rel {p : α → Bool} {q : β → Bool} (hsame : ∀ file entry, R file entry → p file = q entry)
    (h : List.Forall₂ R files entries) : Option.Rel R (files.find? p) (entries.find? q) := by
  induction h with
  | nil => exact .none
  | @cons file entry files entries hrelated _ ih =>
    have hboth := hsame file entry hrelated
    cases hfound : p file with
    | true =>
      rw [List.find?_cons_of_pos hfound, List.find?_cons_of_pos (hboth ▸ hfound)]
      exact .some hrelated
    | false =>
      rw [List.find?_cons_of_neg (by simp [hfound]), List.find?_cons_of_neg (by simp [← hboth, hfound])]
      exact ih

theorem findSome?_rel (hname : ∀ file entry, R file entry → otherName entry = nameOf file)
    (h : List.Forall₂ R files entries) (preferred : List String) :
    Option.Rel R (preferred.findSome? fun name => files.find? fun file => nameOf file == name)
      (preferred.findSome? fun name => entries.find? fun entry => otherName entry == name) := by
  induction preferred with
  | nil => exact .none
  | cons name others ih =>
    have hnamed : Option.Rel R (files.find? fun file => nameOf file == name)
        (entries.find? fun entry => otherName entry == name) :=
      find?_rel (fun file entry hrelated => by rw [hname file entry hrelated]) h
    rw [List.findSome?_cons, List.findSome?_cons]
    generalize (files.find? fun file => nameOf file == name) = found,
      (entries.find? fun entry => otherName entry == name) = listed at hnamed
    cases hnamed with
    | none => exact ih
    | some hrelated => exact .some hrelated

/-- From lists whose members have the same names one by one, members that correspond are selected. -/
theorem select_rel (hname : ∀ file entry, R file entry → otherName entry = nameOf file)
    (h : List.Forall₂ R files entries) (preferred endings : List String) :
    Option.Rel R (select nameOf files preferred endings) (select otherName entries preferred endings) := by
  have hpreferred := findSome?_rel hname h preferred
  unfold select
  generalize (preferred.findSome? fun name => files.find? fun file => nameOf file == name) = found,
    (preferred.findSome? fun name => entries.find? fun entry => otherName entry == name) = listed at hpreferred
  cases hpreferred with
  | some hrelated => exact .some hrelated
  | none => exact find?_rel (fun file entry hrelated => by rw [hname file entry hrelated]) h

/-- Something is selected where a file has a fitting ending. -/
theorem exists_select {preferred endings : List String} (h : ∃ file ∈ files, hasEnding (nameOf file) endings = true) :
    ∃ file, select nameOf files preferred endings = some file := by
  unfold select
  split
  · exact ⟨_, rfl⟩
  · exact Option.isSome_iff_exists.mp (List.find?_isSome.mpr h)

end Listing

/-! ## Contents that can be fetched -/

namespace Component

/-- The entry of a file: it has its name, and its content can be fetched, whatever is asked before. -/
structure Offers (client : Client) (answer : σ → Request → Reply × σ) (start : σ) (file : UploadedFile) (entry : Entry) :
    Prop where
  name : entry.name = file.name
  kind : entry.kind = .file
  content : ∃ url, entry.address? = some url ∧ ∀ asked : List Request,
    ((client.fetch url).toRemote.run answer (Remote.answerAll answer start asked).2).1 = .ok (.ofString file.content)

section

variable {client : Client} {answer : σ → Request → Reply × σ} {start : σ} {files : List UploadedFile}
  {entries : List Entry} (hoffers : List.Forall₂ (Offers client answer start) files entries)
include hoffers

theorem kind_of_offers {entry : Entry} (hentry : entry ∈ entries) : entry.kind = .file := by
  induction hoffers with
  | nil => cases hentry
  | cons hoffered _ ih =>
    rcases List.mem_cons.mp hentry with rfl | hlater
    · exact hoffered.kind
    · exact ih hlater

/-- The file that is selected from the folder is offered by the entry that is selected from the listing. -/
theorem selectFile_rel (preferred endings : List String) :
    Option.Rel (Offers client answer start) (selectUploaded files preferred endings)
      (Listing.selectFile entries preferred endings) := by
  have hfiles : entries.filter Entry.isFile = entries :=
    List.filter_eq_self.mpr fun entry hentry => by simp [Entry.isFile, kind_of_offers hoffers hentry]
  rw [Listing.selectFile, hfiles]
  exact Listing.select_rel (fun file entry hoffered => hoffered.name) hoffers preferred endings

/-- Where a file has a fitting ending, one is selected from the folder, and the entry that offers it from the listing. -/
theorem exists_offer {endings : List String} (h : ∃ file ∈ files, Listing.hasEnding file.name endings = true)
    (preferred : List String) :
    ∃ file entry, selectUploaded files preferred endings = some file ∧
      Listing.selectFile entries preferred endings = some entry ∧ Offers client answer start file entry := by
  have hselected := selectFile_rel hoffers preferred endings
  obtain ⟨file, hfile⟩ : ∃ file, selectUploaded files preferred endings = some file := Listing.exists_select h
  rw [hfile] at hselected
  generalize Listing.selectFile entries preferred endings = listed at hselected
  cases hselected with
  | @some _ entry hoffered => exact ⟨file, entry, hfile, rfl, hoffered⟩

theorem hasFile_of_offers {endings : List String}
    (h : ∃ file ∈ files, Listing.hasEnding file.name endings = true) : Listing.hasFile entries endings = true := by
  obtain ⟨file, hfile, hending⟩ := h
  rw [Listing.hasFile, List.any_eq_true]
  induction hoffers with
  | nil => cases hfile
  | @cons first entry files entries hoffered _ ih =>
    rcases List.mem_cons.mp hfile with rfl | hlater
    · exact ⟨entry, List.mem_cons_self, by simp [Entry.isFile, hoffered.kind, hoffered.name, hending]⟩
    · obtain ⟨other, hother, hfits⟩ := ih hlater
      exact ⟨other, List.mem_cons_of_mem entry hother, hfits⟩

/-- A listing without directories is no framework project; with a page and a style sheet it is valid. -/
theorem validate_of_offers (hpage : ∃ file ∈ files, Listing.hasEnding file.name Listing.pageEndings = true)
    (hstyle : ∃ file ∈ files, Listing.hasEnding file.name Listing.styleEndings = true) :
    (Listing.validate entries).valid = true ∧ (Listing.validate entries).layout = .static := by
  have hflat : Listing.isFramework entries = false := by
    have hnone : (entries.any fun entry => entry.isDirectory && entry.name == Listing.sourceDirectory) = false := by
      rw [List.any_eq_false]
      intro entry hentry
      simp [Entry.isDirectory, kind_of_offers hoffers hentry]
    rw [Listing.isFramework, hnone, Bool.false_and]
  have hparts : Listing.missingParts entries = [] := by
    simp [Listing.missingParts, Listing.missing, hasFile_of_offers hoffers hpage, hasFile_of_offers hoffers hstyle]
  simp [Listing.validate, hflat, hparts]

end

/-- What a part that may be missing comes to: the content of its file, or an empty text. -/
theorem fetchOptional_of_offers {client : Client} {answer : σ → Request → Reply × σ} {start : σ}
    {file : Option UploadedFile} {entry : Option Entry} (h : Option.Rel (Offers client answer start) file entry)
    (asked : List Request) :
    ((fetchOptional client.fetch entry).toRemote.run answer (Remote.answerAll answer start asked).2).1 =
      .ok (.ofString (file.elim "" UploadedFile.content)) := by
  cases h with
  | none => rfl
  | some hoffered =>
    obtain ⟨url, haddress, hfetch⟩ := hoffered.content
    simp only [fetchOptional, Option.bind_some, haddress]
    exact hfetch asked

/-- The metadata of a folder are read from its metadata file; a missing file is as good as an empty one. -/
theorem metadata_of_upload (file : Option UploadedFile) :
    (file.elim MetadataOf.none fun file => Metadata.ofText file.content) =
      Metadata.ofText (file.elim "" UploadedFile.content) := by
  cases file with
  | none => rfl
  | some file => rfl

/-- An empty script is as good as a missing one. -/
theorem filled?_content (file : Option UploadedFile) :
    filled? (some (file.elim "" UploadedFile.content)) = filled? (file.map UploadedFile.content) := by
  cases file with
  | none => rfl
  | some file => rfl

/-- From an uploaded folder with a page and a style sheet, and from a listing that offers the same files in the same order,
the same component is read, but for its thumbnail; an empty script is a script of the folder and none of the listing. The
listing is read so whether it is at hand or has to be asked for. Metadata is taken to nest no deeper than its reader can
follow, and a folder's reader and a listing's can follow alike. -/
theorem upload_agrees {client : Client} {answer : σ → Request → Reply × σ} {start : σ} {files : List UploadedFile}
    {entries : List Entry} (hpage : ∃ file ∈ files, Listing.hasEnding file.name Listing.pageEndings = true)
    (hstyle : ∃ file ∈ files, Listing.hasEnding file.name Listing.styleEndings = true)
    (hoffers : List.Forall₂ (Offers client answer start) files entries) :
    ∃ uploaded listed : Component, ofUpload files = .ok uploaded ∧
      (∀ location, ((ofListing client entries location).run answer start).1 = .ok listed) ∧
      (∀ location before, (client.listDirectory location.owner location.repo location.path
          (some location.branch)).run answer before = (.ok entries, start) →
        ((atLocation client location).run answer before).1 = .ok listed) ∧
      listed.name = uploaded.name ∧ listed.category = uploaded.category ∧ listed.description = uploaded.description ∧
      listed.html = uploaded.html ∧ listed.css = uploaded.css ∧ listed.labels = uploaded.labels ∧
      listed.layout = uploaded.layout ∧ listed.script = filled? uploaded.script := by
  obtain ⟨hvalid, hstatic⟩ := validate_of_offers hoffers hpage hstyle
  obtain ⟨page, pageEntry, hpageUploaded, hpageListed, hpageOffered⟩ := exists_offer hoffers hpage Listing.pageNames
  obtain ⟨style, styleEntry, hstyleUploaded, hstyleListed, hstyleOffered⟩ :=
    exists_offer hoffers hstyle Listing.styleNames
  obtain ⟨pageUrl, hpageAddress, hpageFetch⟩ := hpageOffered.content
  obtain ⟨styleUrl, hstyleAddress, hstyleFetch⟩ := hstyleOffered.content
  have hselects : Selects entries pageEntry styleEntry pageUrl styleUrl :=
    ⟨hpageListed, hstyleListed, hpageAddress, hstyleAddress⟩
  -- the four fetches come to the contents of the files that were selected from the folder
  have hscript := fetchOptional_of_offers (selectFile_rel hoffers Listing.scriptNames Listing.scriptEndings)
  have hmetadata := fetchOptional_of_offers (selectFile_rel hoffers [Listing.metadataName] [])
  have hcome : ComeTo answer start (staticFetches client.fetch entries pageUrl styleUrl) [.ok page.content,
      .ok style.content,
      .ok ((selectUploaded files Listing.scriptNames Listing.scriptEndings).elim "" UploadedFile.content),
      .ok ((selectUploaded files [Listing.metadataName] []).elim "" UploadedFile.content)] :=
    Fetch.results_of_each (.cons hpageFetch (.cons hstyleFetch (.cons hscript (.cons hmetadata .nil))))
  have hlisted := (run_static hselects hcome).trans (ofParts_texts ..)
  have huploaded : ofUpload files = .ok (ofStaticUpload files page style) := by
    simp only [ofUpload, hpageUploaded, hstyleUploaded]
  have hparsed : ∀ location, ((ofListing client entries location).run answer start).1 = .ok _ := fun location =>
    (congrArg (fun work => (work.run answer start).1) (ofListing_of_static hvalid hstatic client location)).trans hlisted
  refine ⟨_, _, huploaded, hparsed, fun location before hasked => ?_, ?_⟩
  · rw [atLocation, Remote.run_andThen, hasked]
    exact hparsed (some location)
  · -- metadata and texts are the same, so all that is made of them is
    simp only [ofStaticUpload, ofStatic, metadata_of_upload, filled?_content, textOrEmpty, and_self]

/-- A bundle with an empty script. -/
def bundle : List UploadedFile :=
  [⟨"index.html", "<p>\x7b\x7btitle\x7d\x7d</p>"⟩, ⟨"style.css", "p \x7b\x7d"⟩, ⟨"script.js", ""⟩]

/-- The entry of a file of the bundle in a listing. -/
def bundleEntry (file : UploadedFile) : Entry :=
  ⟨file.name, file.path, .file, some ("https://github.com/" ++ file.path), none, none⟩

/-- A host that has the files of the bundle. -/
def bundleHost (_ : Unit) (request : Request) : Reply × Unit :=
  match bundle.find? fun file => request.address.path == "/" ++ file.path with
  | some file => (.answered 200 (.ofText file.content), ())
  | none => (.answered 404 .empty, ())

/-- A client of a host without a token. -/
def plainClient : Client := ⟨.direct none "https://api.github.com", ["github.com"], "main"⟩

/-- The bundle, uploaded and listed, is one component with an empty script and without a script. -/
theorem upload_agrees_bundle :
    List.Forall₂ (Offers plainClient bundleHost ()) bundle (bundle.map bundleEntry) ∧
      ∃ uploaded listed : Component, ofUpload bundle = .ok uploaded ∧
        ((ofListing plainClient (bundle.map bundleEntry) none).run bundleHost ()).1 = .ok listed ∧
        uploaded.script = some "" ∧ listed.script = none ∧ listed.labels = uploaded.labels := by
  have hread : ∀ s : String, Client.fetched (.answered 200 (.ofText s)) = .ok (.ofString s) := by
    intro s
    rw [Client.fetched, if_pos (by decide), Body.text_ofText]
    rfl
  have hoffers : List.Forall₂ (Offers plainClient bundleHost ()) bundle (bundle.map bundleEntry) :=
    .cons ⟨rfl, rfl, _, rfl, fun _ => hread _⟩ (.cons ⟨rfl, rfl, _, rfl, fun _ => hread _⟩
      (.cons ⟨rfl, rfl, _, rfl, fun _ => hread _⟩ .nil))
  obtain ⟨uploaded, listed, huploaded, hlisted, -, -, -, -, -, -, hlabels, -, hscript⟩ :=
    upload_agrees (by decide) (by decide) hoffers
  have hempty : uploaded.script = some "" := by
    obtain rfl : _ = uploaded := Except.ok.inj huploaded
    rfl
  exact ⟨hoffers, uploaded, listed, huploaded, hlisted none, hempty, by rw [hscript, hempty]; rfl, hlabels⟩

end Component

end Showcase
