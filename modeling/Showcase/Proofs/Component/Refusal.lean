import Showcase.Proofs.Component.Orderly
import Showcase.Proofs.Listing.Layout

/-!
# What components are refused for

A listing whose structure is not valid is refused at once, with what was found about it. What fails after that fails for
the host, for the way to it, or for what was fetched, and never for the structure again. So a page or a style sheet is
missed later only where none is selected from a listing that passed: that of a framework project, if it is read like a
static bundle.
-/

namespace Showcase

open Network

/-- What is said where no page or no style sheet is selected. -/
def partsRequired : String := "Missing required files (HTML and CSS files are required)"

/-- A failure of a reader who has a page and a style sheet, or looks for neither. -/
def EngineError.IsLate (error : EngineError) : Prop :=
  error.IsRemote ∨ (error.cause = .parse ∧ error.message ≠ partsRequired)

theorem isLate_parse {message : String} (h : message ≠ partsRequired) : (EngineError.of .parse message).IsLate :=
  .inr ⟨rfl, h⟩

theorem EngineError.IsLate.ne_partsRequired {error : EngineError} (h : error.IsLate) :
    error ≠ .of .parse partsRequired := by
  rintro rfl
  rcases h with h | ⟨-, h⟩
  · exact h.cause_ne_parse rfl
  · exact h rfl

/-- No failure of the host or of the way to it is one of the structure. -/
theorem EngineError.IsRemote.name_ne {error : EngineError} (h : error.IsRemote) :
    error.cause.name ≠ "structural_invalid" := by
  rcases h with h | h | ⟨status, h⟩ | h <;> simp [h, Cause.name]

theorem EngineError.IsLate.name_ne {error : EngineError} (h : error.IsLate) :
    error.cause.name ≠ "structural_invalid" := by
  rcases h with h | ⟨h, -⟩
  · exact h.name_ne
  · rw [h]
    decide

namespace Component

variable {client : Client} {location : SourceLocation} {entries : List Entry}

/-! ## Framework projects -/

theorem yields_listOrEmpty (client : Client) (location : SourceLocation) (path : String) :
    (listOrEmpty client location path).Yields (FailsWithin EngineError.IsRemote) := by
  refine (client.yields_listDirectory _ _ _ _).attempt_andThen fun made hmade => ?_
  split
  · split
    · exact failsWithin_ok []
    · exact hmade
  · exact hmade

theorem yields_findSource (directories : List String) :
    (findSource client location directories).Yields (FailsWithin EngineError.IsRemote) := by
  induction directories with
  | nil => exact failsWithin_ok none
  | cons directory others ih =>
    refine (yields_listOrEmpty client location _).andThen (fun _ h => h.cast) fun listed _ => ?_
    split
    · exact ih
    · split
      · exact ih
      · exact (client.yields_fetch _).andThen (fun _ h => h.cast) fun content _ => failsWithin_ok _

theorem yields_fetchEach (urls : List String) : (fetchEach client urls).Yields (FailsWithin EngineError.IsRemote) := by
  induction urls with
  | nil => exact failsWithin_ok []
  | cons url others ih =>
    refine (client.yields_fetch url).andThen (fun _ h => h.cast) fun content _ => ?_
    exact ih.andThen (fun _ h => h.cast) fun contents _ => failsWithin_ok _

theorem yields_collectStyles (sources : List Entry) :
    (collectStyles client location sources).Yields (FailsWithin EngineError.IsRemote) := by
  unfold collectStyles
  split
  · exact failsWithin_ok _
  · refine (yields_listOrEmpty client location _).andThen (fun _ h => h.cast) fun listed _ => ?_
    exact (yields_fetchEach _).andThen (fun _ h => h.cast) fun contents _ => (failsWithin_joinable 0 contents).map _

theorem yields_rootMetadata : (rootMetadata client location).Yields (FailsWithin EngineError.IsRemote) := by
  refine (yields_listOrEmpty client location _).andThen (fun _ h => h.cast) fun listed _ => ?_
  split
  · exact failsWithin_ok _
  · refine (client.yields_fetch _).attempt_andThen fun made hmade => ?_
    split
    · exact failsWithin_metadataOf _
    · exact failsWithin_ok _
    · exact hmade.cast

theorem yields_ofProject (client : Client) (location : SourceLocation) :
    (ofProject client location).Yields (FailsWithin EngineError.IsLate) := by
  have hremote {α : Type} {failure : Failure} (h : FailsWithin EngineError.IsRemote (.error failure : Fallible α)) :
      FailsWithin EngineError.IsLate (.error failure : Fallible Component) := h.cast.mono fun _ => .inl
  refine (yields_listOrEmpty client location _).andThen (fun _ => hremote) fun sources _ => ?_
  refine (yields_findSource sourceDirectories).andThen (fun _ => hremote) fun found _ => ?_
  split
  · exact failsWithin_fail (isLate_parse (by simp [partsRequired]))
  · refine (yields_collectStyles sources).andThen (fun _ => hremote) fun css _ => ?_
    exact yields_rootMetadata.andThen (fun _ => hremote) fun metadata _ => failsWithin_ofSource _ _ css metadata

/-! ## Static bundles -/

theorem failsWithin_requiredPart (name : String) {part : Fallible Json} (hpart : FailsWithin EngineError.IsRemote part) :
    FailsWithin EngineError.IsLate (requiredPart name part) := by
  unfold requiredPart
  split
  · exact failsWithin_ok _
  · exact hpart.mono fun _ => .inl
  · rename_i failure _
    refine failsWithin_fail (isLate_parse fun h => ?_)
    have hfirst := congrArg (fun message : String => message.toList.head?) h
    simp [partsRequired] at hfirst

theorem failsWithin_ofParts (page style : Entry) (thumbnail : Option Entry) {html css : Fallible Json}
    (hhtml : FailsWithin EngineError.IsRemote html) (hcss : FailsWithin EngineError.IsRemote css)
    (script metadata : Fallible Json) :
    FailsWithin EngineError.IsLate (ofParts page style thumbnail html css script metadata) := by
  refine (failsWithin_requiredPart page.name hhtml).bind fun html => ?_
  refine (failsWithin_requiredPart style.name hcss).bind fun css => ?_
  refine (failsWithin_metadataOf _).bind fun metadata => ?_
  dsimp only
  -- the page is scanned for labels where none are given, and what follows is the same
  split
  all_goals refine FailsWithin.bind ?_ fun scanned => (failsWithin_checkedTexts _).bind fun texts => ?_
  · exact failsWithin_ok ""
  · split
    · exact failsWithin_ok _
    · exact failsWithin_fail (isLate_parse (by simp [partsRequired]))
  · exact failsWithin_scannedText html
  · split
    · exact failsWithin_ok _
    · exact failsWithin_fail (isLate_parse (by simp [partsRequired]))

theorem yields_fetchOptional (client : Client) (entry : Option Entry) :
    (fetchOptional client.fetch entry).toRemote.Yields (FailsWithin EngineError.IsRemote) := by
  unfold fetchOptional
  split
  · exact client.yields_fetch _
  · exact failsWithin_ok _

/-- A bundle of which page and style sheet are selected misses neither. -/
theorem yields_ofStaticListing (client : Client) {page style : Entry}
    (hpage : Listing.selectFile entries Listing.pageNames Listing.pageEndings = some page)
    (hstyle : Listing.selectFile entries Listing.styleNames Listing.styleEndings = some style) :
    (ofStaticListing client.fetch entries).Yields (FailsWithin EngineError.IsLate) := by
  unfold ofStaticListing
  rw [hpage, hstyle]
  dsimp only
  split
  · refine Remote.yields_all_andThen ?_ fun results (hresults : ∀ result ∈ results, FailsWithin EngineError.IsRemote result) => ?_
    · simp only [List.forall_mem_cons]
      exact ⟨client.yields_fetch _, client.yields_fetch _, yields_fetchOptional client _, yields_fetchOptional client _,
        List.forall_mem_nil _⟩
    · split
      · simp only [List.forall_mem_cons] at hresults
        exact failsWithin_ofParts page style _ hresults.1 hresults.2.1 _ _
      · exact failsWithin_fail (isLate_parse (by simp [partsRequired]))
  · exact failsWithin_fail (isLate_parse (by simp [partsRequired]))

theorem ofStaticListing_of_unselected (fetch : String → Fetch Json)
    (h : Listing.selectFile entries Listing.pageNames Listing.pageEndings = none ∨
      Listing.selectFile entries Listing.styleNames Listing.styleEndings = none) :
    ofStaticListing fetch entries = .done (fail .parse partsRequired) := by
  unfold ofStaticListing
  rcases h with h | h
  · rw [h]
    rfl
  · rw [h]
    cases Listing.selectFile entries Listing.pageNames Listing.pageEndings <;> rfl

/-! ## Listings -/

/-- What is not valid is refused for what was found about it. -/
theorem ofListing_of_invalid (client : Client) (location : Option SourceLocation)
    (h : (Listing.validate entries).valid = false) :
    ofListing client entries location =
      .done (.error (.engine (.invalidStructure (Listing.validate entries).errors (Listing.validate entries).warnings))) := by
  unfold ofListing
  dsimp only
  rw [h]
  rfl

theorem ofListing_of_valid (client : Client) (location : Option SourceLocation)
    (h : (Listing.validate entries).valid = true) :
    ofListing client entries location =
      match (Listing.validate entries).layout, location with
      | .framework, some location => ofProject client location
      | _, _ => ofStaticListing client.fetch entries := by
  unfold ofListing
  dsimp only
  rw [h]
  rfl

/-- A static bundle that passed has a page and a style sheet. -/
theorem yields_ofStaticListing_of_valid (client : Client) (hvalid : (Listing.validate entries).valid = true)
    (hstatic : (Listing.validate entries).layout = .static) :
    (ofStaticListing client.fetch entries).Yields (FailsWithin EngineError.IsLate) := by
  obtain ⟨⟨page, hpage⟩, style, hstyle⟩ := (Listing.valid_static_iff hstatic).mp hvalid
  exact yields_ofStaticListing client hpage hstyle

/-- What passed is not refused for its structure. -/
theorem yields_ofListing_of_valid (client : Client) (location : Option SourceLocation)
    (h : (Listing.validate entries).valid = true) :
    (ofListing client entries location).Yields (FailsWithin fun error => error.cause.name ≠ "structural_invalid") := by
  have hbundle : (ofStaticListing client.fetch entries).Yields
      (FailsWithin fun error => error.cause.name ≠ "structural_invalid") := by
    cases hpage : Listing.selectFile entries Listing.pageNames Listing.pageEndings with
    | none =>
      rw [ofStaticListing_of_unselected client.fetch (.inl hpage)]
      exact failsWithin_fail (by decide)
    | some page =>
      cases hstyle : Listing.selectFile entries Listing.styleNames Listing.styleEndings with
      | none =>
        rw [ofStaticListing_of_unselected client.fetch (.inr hstyle)]
        exact failsWithin_fail (by decide)
      | some style =>
        exact (yields_ofStaticListing client hpage hstyle).mono fun _ h => h.mono fun _ => EngineError.IsLate.name_ne
  rw [ofListing_of_valid client location h]
  split
  · exact (yields_ofProject client _).mono fun _ h => h.mono fun _ => EngineError.IsLate.name_ne
  · exact hbundle

/-- A page or a style sheet is missed exactly where none is selected from a framework project that is read without its
location. -/
theorem run_ofListing_eq_partsRequired {σ : Type} (client : Client) (entries : List Entry) (location : Option SourceLocation)
    (answer : σ → Request → Reply × σ) (state : σ) :
    ((ofListing client entries location).run answer state).1 = fail .parse partsRequired ↔
      (Listing.validate entries).layout = .framework ∧ location = none ∧
        (Listing.selectFile entries Listing.pageNames Listing.pageEndings = none ∨
          Listing.selectFile entries Listing.styleNames Listing.styleEndings = none) := by
  have hlate {work : Remote Component} (hwork : work.Yields (FailsWithin EngineError.IsLate)) :
      (work.run answer state).1 ≠ fail .parse partsRequired := fun h => (hwork.run answer state _ h).ne_partsRequired rfl
  cases hvalid : (Listing.validate entries).valid with
  | false =>
    rw [ofListing_of_invalid client location hvalid]
    refine iff_of_false nofun fun ⟨hframework, _⟩ => ?_
    rw [Listing.valid_of_framework hframework] at hvalid
    cases hvalid
  | true =>
    rw [ofListing_of_valid client location hvalid]
    cases hlayout : (Listing.validate entries).layout with
    | static => exact iff_of_false (hlate (yields_ofStaticListing_of_valid client hvalid hlayout)) nofun
    | framework =>
      cases location with
      | some location => exact iff_of_false (hlate (yields_ofProject client location)) nofun
      | none =>
        refine ⟨fun h => ⟨rfl, rfl, ?_⟩, fun ⟨_, _, h⟩ => ?_⟩
        · -- with a page and a style sheet neither is missed
          by_contra hselected
          rw [not_or, ← ne_eq, ← ne_eq, Option.ne_none_iff_exists', Option.ne_none_iff_exists'] at hselected
          obtain ⟨⟨page, hpage⟩, style, hstyle⟩ := hselected
          exact hlate (yields_ofStaticListing client hpage hstyle) h
        · dsimp only
          rw [ofStaticListing_of_unselected client.fetch h]
          rfl

end Component

end Showcase
