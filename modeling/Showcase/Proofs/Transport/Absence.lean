import Showcase.Proofs.Network.Replay
import Showcase.Proofs.Transport.Directory
import Showcase.Proofs.Transport.Failures

/-!
# Directories that do not exist

A reader of projects takes a directory that does not exist for an empty one. Two hosts that differ only in which of the
two they answer lead such a reader the same way: `Forgives.listing` says so of one listing, and the rules beside it carry
it to whole computations. The typed failures of a client are those of the host and of the way to it.
-/

namespace Showcase

open Network

/-! ## Kinds of failures -/

/-- Of typed failures a result is one of certain errors only. -/
def FailsWithin {α : Type} (errors : EngineError → Prop) (result : Fallible α) : Prop :=
  ∀ error, result = .error (.engine error) → errors error

/-- A failure of the host or of the way to it, the refusal of an address included. -/
def EngineError.IsRemote (error : EngineError) : Prop :=
  error.cause = .notFound ∨ error.cause = .rateLimited ∨ (∃ status, error.cause = .transport status) ∨
    error.cause = .untrusted

/-- A result is a failure to make a component of what was read. -/
def IsParseFailure {α : Type} (result : Fallible α) : Prop :=
  ∃ error, result = .error (.engine error) ∧ error.cause = .parse

section

variable {α β : Type} {errors : EngineError → Prop}

theorem failsWithin_ok (value : α) : FailsWithin errors (.ok value : Fallible α) := nofun

/-- Failures of other kinds have no cause. -/
theorem failsWithin_of_ne_engine {result : Fallible α} (h : ∀ error, result ≠ .error (.engine error)) :
    FailsWithin errors result := fun error herror => absurd herror (h error)

theorem failsWithin_engine {error : EngineError} (herror : errors error) :
    FailsWithin errors (.error (.engine error) : Fallible α) := by
  rintro _ ⟨⟩
  exact herror

theorem failsWithin_fail {cause : Cause} {message : String} (herror : errors (.of cause message)) :
    FailsWithin errors (fail cause message : Fallible α) := failsWithin_engine herror

theorem FailsWithin.mono {result : Fallible α} (h : FailsWithin errors result) {others : EngineError → Prop}
    (hmore : ∀ error, errors error → others error) : FailsWithin others result :=
  fun error herror => hmore error (h error herror)

/-- Which errors a failure is within does not depend on what was to be made. -/
theorem FailsWithin.cast {failure : Failure} (h : FailsWithin errors (.error failure : Fallible α)) :
    FailsWithin errors (.error failure : Fallible β) := by
  rintro error herror
  exact h error (congrArg Except.error (Except.error.inj herror))

/-- A sequence fails as its first part does, or its second. -/
theorem FailsWithin.bind {result : Fallible α} {next : α → Fallible β} (hresult : FailsWithin errors result)
    (hnext : ∀ value, FailsWithin errors (next value)) : FailsWithin errors (result.bind next) := by
  cases result with
  | ok value => exact hnext value
  | error failure => exact hresult.cast

theorem FailsWithin.map {result : Fallible α} (hresult : FailsWithin errors result) (f : α → β) :
    FailsWithin errors (result.map f) := by
  cases result with
  | ok value => exact failsWithin_ok (f value)
  | error failure => exact hresult.cast

theorem failsWithin_mapM {read : α → Fallible β} (hread : ∀ value, FailsWithin errors (read value)) (values : List α) :
    FailsWithin errors (values.mapM read) := by
  induction values with
  | nil => exact failsWithin_ok []
  | cons value values ih =>
    rw [List.mapM_cons]
    exact (hread value).bind fun result => ih.bind fun results => failsWithin_ok (result :: results)

theorem not_isParseFailure_iff {result : Fallible α} :
    ¬IsParseFailure result ↔ FailsWithin (fun error => error.cause ≠ .parse) result :=
  ⟨fun h error herror hcause => h ⟨error, herror, hcause⟩, fun h ⟨error, herror, hcause⟩ => h error herror hcause⟩

theorem FailsWithin.not_isParseFailure {result : Fallible α} (h : FailsWithin (fun error => error.cause ≠ .parse) result) :
    ¬IsParseFailure result := not_isParseFailure_iff.mpr h

theorem isParseFailure_fail (message : String) : IsParseFailure (fail .parse message : Fallible α) := ⟨_, rfl, rfl⟩

/-- Whether a failure is one of parsing does not depend on what was to be made. -/
theorem IsParseFailure.cast {failure : Failure} (h : IsParseFailure (.error failure : Fallible α)) :
    IsParseFailure (.error failure : Fallible β) := by
  obtain ⟨error, herror, hcause⟩ := h
  cases herror
  exact ⟨error, rfl, hcause⟩

end

theorem EngineError.IsRemote.cause_ne_parse {error : EngineError} (h : error.IsRemote) : error.cause ≠ .parse := by
  rcases h with h | h | ⟨status, h⟩ | h <;> rw [h] <;> nofun

theorem isRemote_transport (status : Option Int) (message : String) : (EngineError.of (.transport status) message).IsRemote :=
  .inr (.inr (.inl ⟨status, rfl⟩))

theorem isRemote_untrusted (message : String) : (EngineError.of .untrusted message).IsRemote := .inr (.inr (.inr rfl))

/-! ## Failures of a client -/

theorem Client.failsWithin_jsonOf (body : Body) : FailsWithin EngineError.IsRemote (jsonOf body) := by
  unfold jsonOf
  split
  · exact failsWithin_ok _
  · exact failsWithin_fail (isRemote_transport _ _)

theorem Client.failsWithin_listingFailure {α : Type} (status : Int) (owner repo path : String) :
    FailsWithin EngineError.IsRemote (.error (listingFailure status owner repo path) : Fallible α) := by
  unfold listingFailure
  split
  · exact failsWithin_engine (.inl rfl)
  · split
    · exact failsWithin_engine (.inr (.inl rfl))
    · exact failsWithin_engine (isRemote_transport _ _)

namespace Transport

theorem failsWithin_listed (transport : Transport) (owner repo path : String) (reply : Reply) :
    FailsWithin EngineError.IsRemote (transport.listed owner repo path reply) := by
  cases reply with
  | failed message => cases transport <;> exact failsWithin_fail (isRemote_transport _ _)
  | answered status body =>
    cases transport with
    | direct token apiUrl =>
      unfold listed Client.listed
      dsimp only
      split
      · refine (Client.failsWithin_jsonOf body).bind fun value => ?_
        split <;> exact failsWithin_ok _
      · exact Client.failsWithin_listingFailure _ _ _ _
    | proxy baseUrl =>
      unfold listed Client.proxyListed
      dsimp only
      split
      · refine (Client.failsWithin_jsonOf body).bind fun value => ?_
        split
        · split
          · exact failsWithin_of_ne_engine (Client.itemsOf_ne_engine _)
          · exact failsWithin_fail (isRemote_transport _ _)
        · exact failsWithin_fail (isRemote_transport _ _)
      · exact Client.failsWithin_listingFailure _ _ _ _

theorem failsWithin_fetched (transport : Transport) (url : String) (reply : Reply) :
    FailsWithin EngineError.IsRemote (transport.fetched url reply) := by
  cases reply with
  | failed message => cases transport <;> exact failsWithin_fail (isRemote_transport _ _)
  | answered status body =>
    cases transport with
    | direct token apiUrl =>
      unfold fetched Client.fetched
      dsimp only
      split
      · exact (failsWithin_of_ne_engine (text_ne_engine body)).map Json.str
      · exact failsWithin_fail (isRemote_transport _ _)
    | proxy baseUrl =>
      unfold fetched Client.proxyFetched
      dsimp only
      split
      · exact failsWithin_fail (isRemote_untrusted _)
      · split
        · refine (Client.failsWithin_jsonOf body).bind fun value => ?_
          split
          · split
            · exact failsWithin_ok _
            · exact failsWithin_fail (isRemote_transport _ _)
          · exact failsWithin_fail (isRemote_transport _ _)
        · exact failsWithin_fail (isRemote_transport _ _)

end Transport

namespace Client

variable {client : Client} {σ : Type}

/-- A listing asks once, and its entries are made of the reply, or it fails without asking. -/
theorem run_listDirectory_cases (client : Client) (owner repo path : String) (branch : Option String) :
    (∃ failure, (∀ error, failure ≠ .engine error) ∧
      client.listDirectory owner repo path branch = .done (.error failure)) ∨
    ∃ request, client.transport.listingRequest owner repo (withoutOuterSlashes path)
        (chosenBranch client.defaultBranch branch) = .ok request ∧
      ∀ {σ : Type} (answer : σ → Request → Reply × σ) (state : σ),
        (client.listDirectory owner repo path branch).run answer state =
          (entriesOf (client.transport.listed owner repo (withoutOuterSlashes path) (answer state request).1),
            (answer state request).2) := by
  by_cases hgiven : (owner.isEmpty || repo.isEmpty) = true
  · exact .inl ⟨.ownerAndRepoRequired, nofun, if_pos hgiven⟩
  obtain ⟨howner, hrepo⟩ : owner ≠ "" ∧ repo ≠ "" := by
    simpa [not_or] using hgiven
  cases hrequest : client.transport.listingRequest owner repo (withoutOuterSlashes path)
      (chosenBranch client.defaultBranch branch) with
  | error failure =>
    refine .inl ⟨failure, fun error herror => ?_, ?_⟩
    · exact client.transport.listingRequest_ne_engine _ _ _ _ error (hrequest.trans (congrArg Except.error herror))
    · rw [listDirectory_of_ne howner hrepo, listEntries_eq, hrequest]
      rfl
  | ok request =>
    refine .inr ⟨request, rfl, fun answer state => ?_⟩
    have hentries := client.listEntries_eq owner repo (withoutOuterSlashes path)
      (chosenBranch client.defaultBranch branch)
    rw [hrequest, asking] at hentries
    exact run_listDirectory howner hrepo hentries answer state

/-- Whatever is replied, the typed failures of a fetch are remote. -/
theorem yields_fetch (client : Client) (url : String) :
    (client.fetch url).toRemote.Yields (FailsWithin EngineError.IsRemote) := by
  rw [fetch_eq]
  split
  · exact failsWithin_fail (isRemote_untrusted _)
  · cases hrequest : client.transport.contentRequest url with
    | error failure =>
      exact failsWithin_of_ne_engine fun error herror =>
        client.transport.contentRequest_ne_engine url error (hrequest.trans (congrArg Except.error (Except.error.inj herror)))
    | ok request => exact fun reply => client.transport.failsWithin_fetched url reply

theorem yields_listEntries (client : Client) (owner repo path branch : String) :
    (client.listEntries owner repo path branch).toRemote.Yields (FailsWithin EngineError.IsRemote) := by
  rw [listEntries_eq]
  cases hrequest : client.transport.listingRequest owner repo path branch with
  | error failure =>
    exact failsWithin_of_ne_engine fun error herror => client.transport.listingRequest_ne_engine owner repo path branch error
      (hrequest.trans (congrArg Except.error (Except.error.inj herror)))
  | ok request => exact fun reply => client.transport.failsWithin_listed owner repo path reply

/-- Whatever is replied, the typed failures of a listing are remote. -/
theorem yields_listDirectory (client : Client) (owner repo path : String) (branch : Option String) :
    (client.listDirectory owner repo path branch).Yields (FailsWithin EngineError.IsRemote) := by
  rw [listDirectory_eq]
  split
  · exact failsWithin_of_ne_engine nofun
  · refine (client.yields_listEntries _ _ _ _).andThen (fun failure h => h.cast) fun found _ => ?_
    exact failsWithin_mapM (fun value => failsWithin_of_ne_engine (Entry.ofContents_ne_engine value)) found

theorem not_isParseFailure_listDirectory (client : Client) (owner repo path : String) (branch : Option String)
    (answer : σ → Request → Reply × σ) (state : σ) :
    ¬IsParseFailure ((client.listDirectory owner repo path branch).run answer state).1 :=
  (((client.yields_listDirectory owner repo path branch).run answer state).mono
    fun _ herror => herror.cause_ne_parse).not_isParseFailure

theorem not_isParseFailure_fetch (client : Client) (url : String) (answer : σ → Request → Reply × σ) (state : σ) :
    ¬IsParseFailure ((client.fetch url).toRemote.run answer state).1 :=
  (((client.yields_fetch url).run answer state).mono fun _ herror => herror.cause_ne_parse).not_isParseFailure

end Client

/-! ## Listings of nothing -/

/-- The entries of a listing; a directory that does not exist has none. -/
def orEmpty : Fallible (List Entry) → Fallible (List Entry)
  | .error (.engine error) => if error.cause = .notFound then .ok [] else .error (.engine error)
  | listing => listing

/-- A failure says that there is no such directory. -/
def IsAbsence (failure : Failure) : Prop := ∃ error, failure = .engine error ∧ error.cause = .notFound

theorem orEmpty_eq_error {made : Fallible (List Entry)} {failure : Failure} :
    orEmpty made = .error failure ↔ made = .error failure ∧ ¬IsAbsence failure := by
  unfold orEmpty
  split
  · rename_i error
    split
    · rename_i hcause
      refine iff_of_false nofun ?_
      rintro ⟨h, hpresent⟩
      cases h
      exact hpresent ⟨error, rfl, hcause⟩
    · rename_i hcause
      refine ⟨?_, And.left⟩
      rintro h
      cases h
      refine ⟨rfl, ?_⟩
      rintro ⟨_, h, habsent⟩
      cases h
      exact hcause habsent
  · rename_i hengine
    refine ⟨?_, And.left⟩
    rintro rfl
    refine ⟨rfl, ?_⟩
    rintro ⟨error, rfl, -⟩
    exact hengine error rfl

theorem orEmpty_eq_ok {made : Fallible (List Entry)} {entries : List Entry} :
    orEmpty made = .ok entries ↔
      made = .ok entries ∨ (entries = [] ∧ ∃ failure, made = .error failure ∧ IsAbsence failure) := by
  rcases made with failure | found
  · by_cases habsent : IsAbsence failure
    · obtain ⟨error, rfl, hcause⟩ := habsent
      have hempty : orEmpty (.error (.engine error)) = .ok [] := if_pos hcause
      rw [hempty]
      constructor
      · intro h
        cases h
        exact .inr ⟨rfl, _, rfl, error, rfl, hcause⟩
      · rintro (h | ⟨rfl, -⟩)
        · cases h
        · rfl
    · rw [orEmpty_eq_error.mpr ⟨rfl, habsent⟩]
      refine iff_of_false nofun ?_
      rintro (h | ⟨-, _, h, habsent'⟩)
      · cases h
      · cases h
        exact habsent habsent'
  · exact ⟨.inl, fun h => h.elim id fun ⟨_, _, h, _⟩ => nomatch h⟩

namespace Transport

/-- A request in the form in which listings are asked for. -/
def IsListing : Transport → Request → Prop
  | direct _ _, request => request.accept = some Client.listingForm
  | proxy _, request =>
    ∃ owner repo path branch,
      request.body = some (.ofBindings [("owner", owner), ("repo", repo), ("path", path), ("branch", branch)])

/-- A reply that lists nothing. -/
inductive IsEmptyListing : Transport → Reply → Prop where
  | direct {token : Option String} {apiUrl : String} {status : Int} {body : Body} (hstatus : isSuccess status = true)
    (hbody : body.json = .ok (.arr [])) : IsEmptyListing (.direct token apiUrl) (.answered status body)
  | proxy {baseUrl : String} {status : Int} {body : Body} {members : List (JsonString × Json)}
    (hstatus : isSuccess status = true) (hbody : body.json = .ok (.obj members))
    (hsuccess : Json.member? members "success" = some (.bool true))
    (hfiles : Json.member? members "files" = some (.arr [])) : IsEmptyListing (.proxy baseUrl) (.answered status body)

theorem isListing_of_listingRequest {transport : Transport} {owner repo path branch : String} {request : Request}
    (h : transport.listingRequest owner repo path branch = .ok request) : transport.IsListing request := by
  cases transport with
  | direct token apiUrl =>
    obtain ⟨written, sendable, -, -, -, hrequest⟩ := Client.listingRequest_cases h
    rw [hrequest]
    rfl
  | proxy baseUrl =>
    rw [Client.proxyRequest_cases h]
    exact ⟨owner, repo, path, branch, rfl⟩

theorem not_isListing_of_contentRequest {transport : Transport} {url : String} {request : Request}
    (h : transport.contentRequest url = .ok request) : ¬transport.IsListing request := by
  cases transport with
  | direct token apiUrl =>
    rw [Client.contentRequest_cases h, IsListing]
    exact nofun
  | proxy baseUrl =>
    rintro ⟨owner, repo, path, branch, hbody⟩
    rw [Client.proxyRequest_cases h] at hbody
    simp [Json.ofBindings, Json.ofMembers] at hbody

theorem orEmpty_of_absent (transport : Transport) (owner repo path : String) (body : Body) :
    orEmpty (Client.entriesOf (transport.listed owner repo path (.answered 404 body))) = .ok [] := by
  cases transport <;> rfl

theorem IsEmptyListing.entries {transport : Transport} {reply : Reply} (h : transport.IsEmptyListing reply)
    (owner repo path : String) : Client.entriesOf (transport.listed owner repo path reply) = .ok [] := by
  cases h with
  | direct hstatus hbody => simp only [listed, Client.listed, if_pos hstatus, Client.jsonOf, hbody]; rfl
  | proxy hstatus hbody hsuccess hfiles =>
    simp only [listed, Client.proxyListed, if_pos hstatus, Client.jsonOf, hbody, bind, Except.bind, hsuccess, hfiles]
    rfl

end Transport

/-! ## Hosts that forgive -/

/-- One host answers like another, but some listings that are answered with not found by the other are answered as empty
by it. -/
def Forgives {σ : Type} (transport : Transport) (answer other : σ → Request → Reply × σ) : Prop :=
  ∀ state request, (other state request).2 = (answer state request).2 ∧
    ((other state request).1 = (answer state request).1 ∨
      (transport.IsListing request ∧ (∃ body, (answer state request).1 = .answered 404 body) ∧
        transport.IsEmptyListing (other state request).1))

variable {α β σ : Type} {transport : Transport} {answer other : σ → Request → Reply × σ}

/-- A host that notes what it is asked forgives like the host itself. -/
theorem Forgives.noting (h : Forgives transport answer other) :
    Forgives transport (Remote.noting answer) (Remote.noting other) := by
  intro state request
  obtain ⟨hstate, hreply⟩ := h state.1 request
  exact ⟨Prod.ext hstate rfl, hreply⟩

/-- A computation comes to the same with two hosts. -/
def SameRun (answer other : σ → Request → Reply × σ) (work : Remote α) : Prop :=
  ∀ state, work.run other state = work.run answer state

theorem SameRun.done (result : Fallible α) : SameRun answer other (.done result) := fun _ => rfl

theorem SameRun.andThen {work : Remote α} {next : α → Remote β} (hwork : SameRun answer other work)
    (hnext : ∀ value, SameRun answer other (next value)) : SameRun answer other (work.andThen next) := by
  intro state
  rw [Remote.run_andThen, Remote.run_andThen, hwork state]
  rcases work.run answer state with ⟨failure | value, after⟩
  · rfl
  · exact hnext value after

theorem SameRun.attempt {work : Remote α} (hwork : SameRun answer other work) : SameRun answer other work.attempt := by
  intro state
  rw [Remote.run_attempt, Remote.run_attempt, hwork state]

theorem Forgives.fetch {client : Client} (h : Forgives client.transport answer other) (url : String) :
    SameRun answer other (client.fetch url).toRemote := by
  rw [Client.fetch_eq]
  split
  · exact .done _
  · cases hrequest : client.transport.contentRequest url with
    | error failure => exact .done _
    | ok request =>
      intro state
      obtain ⟨hstate, hreply | ⟨hlisting, -⟩⟩ := h state request
      · rw [Client.asking, Fetch.run_ask, Fetch.run_ask, hstate, hreply]
      · exact absurd hlisting (Transport.not_isListing_of_contentRequest hrequest)

/-- A listing comes to the same, if a directory that does not exist counts as empty. -/
theorem Forgives.listing {client : Client} (h : Forgives client.transport answer other) (owner repo path : String)
    (branch : Option String) :
    SameRun answer other
      ((client.listDirectory owner repo path branch).attempt.andThen fun made => .done (orEmpty made)) := by
  intro state
  rw [Remote.run_attempt_andThen, Remote.run_attempt_andThen]
  rcases client.run_listDirectory_cases owner repo path branch with ⟨failure, -, hdone⟩ | ⟨request, -, hrun⟩
  · rw [hdone]
    rfl
  · rw [hrun, hrun]
    obtain ⟨hstate, hreply | ⟨-, ⟨body, habsent⟩, hempty⟩⟩ := h state request
    · rw [hstate, hreply]
      rfl
    · rw [hstate, habsent, hempty.entries, Remote.run_done, Remote.run_done, Transport.orEmpty_of_absent]
      rfl

end Showcase
