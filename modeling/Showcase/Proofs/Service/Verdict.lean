import Showcase.Proofs.Component.Refusal
import Showcase.Proofs.Listing.Selection
import Showcase.Proofs.Service.Guard

/-!
# The verdict and the parse

A builder asks first whether there can be a component at a location and has it parsed then. Both requests begin with the
same listing. Where the listing fails, or no request for it is made, both are answered alike; where it is made, the verdict
that the first answer tells is the one that the second refuses the location for, or does not.
-/

namespace Showcase

open Network

namespace Service

/-! ## Answers about structures -/

/-- An answer that refuses a listing for its structure, with what was missing. -/
def Answer.Refuses (answer : Answer) (errors : List String) : Prop :=
  answer.body.get? "error_type" = some (.ofString "structural_invalid") ∧
    answer.body.get? "errors" = some (.ofStrings errors)

/-- An answer that reports no success and a validation, with what was missing. -/
def Answer.Disapproves (answer : Answer) (errors : List String) : Prop :=
  answer.body.get? "success" = some (.bool false) ∧
    ∃ validation, answer.body.get? "validation" = some validation ∧
      validation.get? "errors" = some (.ofStrings errors)

/-- The answer that tells the verdict on a listing. -/
def verdictAnswer (entries : List Entry) : Answer :=
  .ok [("success", .bool (Listing.validate entries).valid), ("validation", verdictJson (Listing.validate entries)),
    ("files", entriesJson entries)]

theorem ofStrings_injective {texts others : List String} (h : Json.ofStrings texts = .ofStrings others) :
    texts = others := by
  have hinjective : Function.Injective Json.ofString := fun first second h => JsonString.text.inj (Json.str.inj h)
  exact hinjective.list_map (Json.arr.inj h)

/-- A verdict is told as it is. -/
theorem disapproves_verdictAnswer (entries : List Entry) (errors : List String) :
    (verdictAnswer entries).Disapproves errors ↔
      (Listing.validate entries).valid = false ∧ errors = (Listing.validate entries).errors := by
  have hsuccess : (verdictAnswer entries).body.get? "success" = some (.bool (Listing.validate entries).valid) := rfl
  have hvalidation : (verdictAnswer entries).body.get? "validation" = some (verdictJson (Listing.validate entries)) := rfl
  have herrors : (verdictJson (Listing.validate entries)).get? "errors" =
      some (.ofStrings (Listing.validate entries).errors) := rfl
  constructor
  · rintro ⟨hfalse, validation, hsame, htold⟩
    rw [hsuccess] at hfalse
    rw [hvalidation] at hsame
    cases hsame
    rw [herrors] at htold
    exact ⟨Json.bool.inj (Option.some.inj hfalse), (ofStrings_injective (Option.some.inj htold)).symm⟩
  · rintro ⟨hfalse, rfl⟩
    exact ⟨by rw [hsuccess, hfalse], _, hvalidation, herrors⟩

/-- What is refused for its structure is refused with all that was missing. -/
theorem refuses_invalidStructure (developing : Bool) (found warnings errors : List String) :
    (Answer.ofFailure developing (.engine (.invalidStructure found warnings))).Refuses errors ↔ errors = found := by
  have herrors : (Answer.ofFailure developing (.engine (.invalidStructure found warnings))).body.get? "errors" =
      some (.ofStrings found) := rfl
  rw [Answer.Refuses, herrors]
  refine ⟨fun ⟨_, h⟩ => (ofStrings_injective (Option.some.inj h)).symm, ?_⟩
  rintro rfl
  exact ⟨rfl, rfl⟩

/-- An answer that neither refuses a listing for its structure nor reports a validation. -/
def Answer.IsSilent (answer : Answer) : Prop :=
  answer.body.get? "error_type" ≠ some (.ofString "structural_invalid") ∧ answer.body.get? "validation" = none

theorem isSilent_ofFailure (developing : Bool) {failure : Failure}
    (h : FailsWithin (fun error => error.cause.name ≠ "structural_invalid") (.error failure : Fallible Answer)) :
    (Answer.ofFailure developing failure).IsSilent := by
  cases failure with
  | engine error =>
    refine ⟨fun hname => h error rfl (JsonString.text.inj (Json.str.inj (Option.some.inj hname))), ?_⟩
    cases hcause : error.cause <;> simp [Answer.ofFailure, EngineError.payload, hcause] <;> rfl
  | _ => exact ⟨nofun, rfl⟩

/-! ## Two requests for one location -/

section

variable {σ : Type} {host : σ → Network.Request → Reply × σ} {state after : σ} {settings : Settings}
  {location : SourceLocation}

theorem run_validate_of_listed {entries : List Entry}
    (h : (listing settings location).run host state = (.ok entries, after)) :
    ((validate settings location).run host state).1 = .ok (verdictAnswer entries) := by
  rw [validate, Remote.run_andThen, h]
  rfl

/-- A component that is parsed is reported without an error or a validation. -/
theorem isSilent_parsed (component : Component) (warnings : List String) : (parsed component warnings).IsSilent :=
  ⟨nofun, rfl⟩

/-- Once the listing is made, its verdict decides whether the location is refused for it. -/
theorem run_parse_of_listed {entries : List Entry} (developing : Bool)
    (h : (listing settings location).run host state = (.ok entries, after)) :
    let answer := Answer.ofResult developing ((parse settings location).run host state).1
    ((Listing.validate entries).valid = true → answer.IsSilent) ∧
      ((Listing.validate entries).valid = false → answer = Answer.ofFailure developing (.engine
        (.invalidStructure (Listing.validate entries).errors (Listing.validate entries).warnings))) := by
  intro answer
  let reading := Component.ofListing (clientFor settings location) entries (some location)
  have hanswer : answer = Answer.ofResult developing
      ((reading.run host after).1.map fun component => parsed component (Listing.validate entries).warnings) := by
    unfold answer
    rw [parse, Remote.run_andThen, h]
    dsimp only
    rw [Remote.run_andThen]
    generalize reading.run host after = made
    rcases made with ⟨failure | component, last⟩ <;> rfl
  rw [hanswer]
  constructor
  · intro hvalid
    -- nothing is missing in a valid listing, so whatever fails is a fetch, which refuses no structure
    have hwithin := (Component.yields_ofListing_of_valid (clientFor settings location) (some location) hvalid).run host after
    change FailsWithin _ (reading.run host after).1 at hwithin
    cases hmade : (reading.run host after).1 with
    | ok component => exact isSilent_parsed component _
    | error failure =>
      rw [hmade] at hwithin
      exact isSilent_ofFailure developing hwithin.cast
  · intro hinvalid
    have hreading := Component.ofListing_of_invalid (clientFor settings location) (some location) hinvalid
    rw [show reading = _ from hreading]
    rfl

/-- A listing that fails is answered alike in both requests. -/
theorem run_validate_parse_of_failed {failure : Failure}
    (h : (listing settings location).run host state = (.error failure, after)) :
    ((validate settings location).run host state).1 = .error failure ∧
      ((parse settings location).run host state).1 = .error failure ∧
        FailsWithin (fun error => error.cause.name ≠ "structural_invalid") (.error failure : Fallible Answer) := by
  refine ⟨by rw [validate, Remote.run_andThen, h], by rw [parse, Remote.run_andThen, h], ?_⟩
  have hlisting := ((clientFor settings location).yields_listDirectory location.owner location.repo location.path
    (some location.branch)).run host state
  rw [← listing, h] at hlisting
  exact hlisting.cast.mono fun _ => EngineError.IsRemote.name_ne

end

/-- The issues of a body tell nothing about a listing. -/
theorem isSilent_ofIssues (developing : Bool) (body : Option Json) (issues : List Issue) :
    (Answer.ofIssues developing body issues).IsSilent := by
  unfold Answer.ofIssues Answer.sending
  split
  · exact isSilent_ofFailure developing nofun
  · exact ⟨nofun, rfl⟩

/-- The answers to the two requests about one location: both are the same and silent about its structure, or the first
tells the verdict on the listing, and the second is silent or refuses the location for it. -/
theorem run_validate_parse {σ : Type} (service : Service) (headers : Headers) (body : Option Json)
    (host : σ → Network.Request → Reply × σ) (state : σ) :
    ∃ validated parsed : Answer,
      ((service.respond (Route.validate.request headers body)).1.run host state).1 = .ok validated ∧
      ((service.respond (Route.parse.request headers body)).1.run host state).1 = .ok parsed ∧
      ((validated.IsSilent ∧ parsed = validated) ∨
        ∃ entries, validated = verdictAnswer entries ∧
          ((Listing.validate entries).valid = true → parsed.IsSilent) ∧
          ((Listing.validate entries).valid = false → parsed = Answer.ofFailure (isDeveloping service.settings) (.engine
            (.invalidStructure (Listing.validate entries).errors (Listing.validate entries).warnings)))) := by
  have hguarded : Route.validate.isGuarded = Route.parse.isGuarded := rfl
  rw [respond_request, respond_request, hguarded]
  by_cases hrefused : (Route.parse.isGuarded && !isAdmin service.settings headers) = true
  · -- neither request is served
    rw [if_pos hrefused, if_pos hrefused]
    exact ⟨_, _, rfl, rfl, .inl ⟨⟨nofun, rfl⟩, rfl⟩⟩
  rw [if_neg hrefused, if_neg hrefused]
  cases hread : readBody (SourceLocation.ofMembers service.settings.defaultBranch) body with
  | error issues =>
    have hvalidate : serve service.settings .validate body = .error issues := by
      simp only [serve, hread]
      rfl
    have hparse : serve service.settings .parse body = .error issues := by
      simp only [serve, hread]
      rfl
    rw [admitted, admitted, hvalidate, hparse]
    exact ⟨_, _, rfl, rfl, .inl ⟨isSilent_ofIssues _ _ _, rfl⟩⟩
  | ok location =>
    have hvalidate : serve service.settings .validate body = .ok (validate service.settings location) := by
      simp only [serve, hread]
      rfl
    have hparse : serve service.settings .parse body = .ok (parse service.settings location) := by
      simp only [serve, hread]
      rfl
    have hproxy : (!Route.validate.isProxy) = true ∧ (!Route.parse.isProxy) = true := ⟨rfl, rfl⟩
    rw [admitted, admitted, hvalidate, hparse]
    dsimp only
    rw [if_pos hproxy.1, if_pos hproxy.2, run_settled, run_settled]
    refine ⟨_, _, rfl, rfl, ?_⟩
    rcases hlisted : (listing service.settings location).run host state with ⟨failure | entries, after⟩
    · obtain ⟨hvalidated, hparsed, hwithin⟩ := run_validate_parse_of_failed hlisted
      rw [hvalidated, hparsed]
      exact .inl ⟨isSilent_ofFailure _ hwithin, rfl⟩
    · refine .inr ⟨entries, ?_, run_parse_of_listed _ hlisted⟩
      rw [run_validate_of_listed hlisted]
      rfl

/-! ## Main result -/

theorem Answer.IsSilent.not_refuses {answer : Answer} (h : answer.IsSilent) (errors : List String) :
    ¬answer.Refuses errors := fun hrefuses => h.1 hrefuses.1

theorem Answer.IsSilent.not_disapproves {answer : Answer} (h : answer.IsSilent) (errors : List String) :
    ¬answer.Disapproves errors := by
  rintro ⟨-, validation, htold, -⟩
  rw [h.2] at htold
  cases htold

/-- The verdict on a listing is kept by whoever reads it. A static bundle is valid exactly if a page and a style sheet are
selected from it, so that the reader misses one of them only in a framework project that is read without its location.
Whatever the host answers, a request to parse is refused for the structure of a listing exactly if the request to validate
the same location reports a validation without success, and for the same errors; where no validation is reported, both
requests get the same answer. The verdict is that of the set of entries, and entries that are added neither make a valid
listing invalid nor add an error. -/
theorem verdict_is_kept :
    (∀ entries : List Entry, (Listing.validate entries).layout = .static →
      ((Listing.validate entries).valid = true ↔
        (∃ page, Listing.selectFile entries Listing.pageNames Listing.pageEndings = some page) ∧
          ∃ style, Listing.selectFile entries Listing.styleNames Listing.styleEndings = some style)) ∧
    (∀ {σ : Type} (client : Client) (entries : List Entry) (location : Option SourceLocation)
        (host : σ → Network.Request → Reply × σ) (state : σ),
      ((Component.ofListing client entries location).run host state).1 =
          fail .parse "Missing required files (HTML and CSS files are required)" ↔
        (Listing.validate entries).layout = .framework ∧ location = none ∧
          (Listing.selectFile entries Listing.pageNames Listing.pageEndings = none ∨
            Listing.selectFile entries Listing.styleNames Listing.styleEndings = none)) ∧
    (∀ {σ : Type} (service : Service) (headers : Headers) (body : Option Json)
        (host : σ → Network.Request → Reply × σ) (state : σ),
      ∃ validated parsed : Answer,
        ((service.respond (Route.validate.request headers body)).1.run host state).1 = .ok validated ∧
        ((service.respond (Route.parse.request headers body)).1.run host state).1 = .ok parsed ∧
        (parsed.body.get? "error_type" = some (.ofString "structural_invalid") ↔
          validated.body.get? "success" = some (.bool false) ∧ validated.body.get? "validation" ≠ none) ∧
        (∀ errors, parsed.Refuses errors ↔ validated.Disapproves errors) ∧
        (validated.body.get? "validation" = none → parsed = validated)) ∧
    (∀ entries others : List Entry, (∀ entry, entry ∈ entries ↔ entry ∈ others) →
      Listing.validate entries = Listing.validate others) ∧
    ∀ entries others : List Entry, entries ⊆ others →
      ((Listing.validate entries).valid = true → (Listing.validate others).valid = true) ∧
        (Listing.validate others).errors.Sublist (Listing.validate entries).errors := by
  refine ⟨fun entries => Listing.valid_static_iff, Component.run_ofListing_eq_partsRequired, ?_,
    fun entries others => Listing.validate_of_same,
    fun entries others h => ⟨Listing.valid_of_subset h, Listing.errors_of_subset h⟩⟩
  intro σ service headers body host state
  obtain ⟨validated, parsed, hvalidated, hparsed, hcases⟩ := run_validate_parse service headers body host state
  refine ⟨validated, parsed, hvalidated, hparsed, ?_⟩
  rcases hcases with ⟨hsilent, rfl⟩ | ⟨entries, rfl, hvalid, hinvalid⟩
  · -- there is no listing, and nothing is said about one
    exact ⟨iff_of_false hsilent.1 fun h => h.2 hsilent.2,
      fun errors => iff_of_false (hsilent.not_refuses errors) (hsilent.not_disapproves errors), fun _ => rfl⟩
  · have hsuccess : (verdictAnswer entries).body.get? "success" = some (.bool (Listing.validate entries).valid) := rfl
    have htold : (verdictAnswer entries).body.get? "validation" ≠ none := nofun
    refine ⟨?_, fun errors => ?_, fun h => absurd h htold⟩
    · rw [hsuccess]
      cases hverdict : (Listing.validate entries).valid with
      | true => exact iff_of_false (hvalid hverdict).1 nofun
      | false =>
        rw [hinvalid hverdict]
        exact iff_of_true rfl ⟨rfl, htold⟩
    · rw [disapproves_verdictAnswer]
      cases hverdict : (Listing.validate entries).valid with
      | true => exact iff_of_false ((hvalid hverdict).not_refuses errors) nofun
      | false =>
        rw [hinvalid hverdict, refuses_invalidStructure]
        exact (and_iff_right rfl).symm

/-- A page and a style sheet are a valid listing in any order and with a source directory besides; and a service that is
sent no location to validate has nothing else to say about it when it is to parse it. -/
theorem verdict_is_kept_of_bundle :
    let page := Listing.entryNamed .file "index.html"
    let style := Listing.entryNamed .file "main.css"
    let service := Service.on Settings.standard
    let host := fun (_ : Unit) (_ : Network.Request) => (Reply.failed "", ())
    ((∃ selected, Listing.selectFile [page, style] Listing.pageNames Listing.pageEndings = some selected) ∧
      ∃ selected, Listing.selectFile [page, style] Listing.styleNames Listing.styleEndings = some selected) ∧
    Listing.validate [page, style] = Listing.validate [style, page, style] ∧
    (Listing.validate [page, Listing.entryNamed .directory "src", style]).valid = true ∧
    ((service.respond (Route.validate.request [] none)).1.run host ()).1 =
      ((service.respond (Route.parse.request [] none)).1.run host ()).1 := by
  intro page style service host
  obtain ⟨hstatic, -, hrequests, hsame, hadded⟩ := verdict_is_kept
  have hvalid : (Listing.validate [page, style]).valid = true := by decide
  refine ⟨(hstatic [page, style] (by decide)).mp hvalid, ?_, ?_, ?_⟩
  · refine hsame _ _ fun entry => ?_
    simp only [List.mem_cons, List.not_mem_nil, or_false]
    exact ⟨.inr, fun h => h.elim .inr id⟩
  · exact (hadded [page, style] _ (by simp)).1 hvalid
  · obtain ⟨validated, parsed, hvalidated, hparsed, -, -, hlike⟩ := hrequests service [] none host ()
    have hmissing : ((service.respond (Route.validate.request [] none)).1.run host ()).1 =
        .ok (.ofIssues true none [⟨[.member "body"], .missing⟩]) := rfl
    rw [hmissing] at hvalidated
    cases hvalidated
    rw [hparsed, hlike rfl, hmissing]

end Service

end Showcase
