import Showcase.Component.Remote
import Showcase.Proofs.Address.Origin
import Showcase.Proofs.Transport.Directory
import Showcase.Proofs.Transport.Failures

/-!
# Where the token goes

All that a client sends is a request for a listing or for a content. Only requests for listings bear the token, and they
go to the origin of the interface, whatever stands in them. What is fetched may come from anywhere in a listing: a
request for a content bears no token, and neither does any request to a deployment.
-/

namespace Showcase

open Network

namespace Client

/-! ## What a client asks for -/

/-- What a client may send. -/
inductive Asks (client : Client) : Request → Prop where
  | listing {owner repo path branch : String} {request : Request}
      (hrequest : request ∈ Fetch.requests [client.listEntries owner repo path branch]) : Asks client request
  | content {url : String} {request : Request} (hrequest : request ∈ Fetch.requests [client.fetch url]) :
      Asks client request

theorem sends_listEntries (client : Client) (owner repo path branch : String) :
    (client.listEntries owner repo path branch).toRemote.Sends client.Asks :=
  Fetch.sends_toRemote fun _ hrequest => .listing hrequest

theorem sends_fetch (client : Client) (url : String) : (client.fetch url).toRemote.Sends client.Asks :=
  Fetch.sends_toRemote fun _ hrequest => .content hrequest

theorem sends_listDirectory (client : Client) (owner repo path : String) (branch : Option String) :
    (client.listDirectory owner repo path branch).Sends client.Asks := by
  rw [listDirectory_eq]
  split
  · trivial
  · exact (client.sends_listEntries _ _ _ _).andThen fun _ => trivial

theorem sends_browse (client : Client) (owner repo path : String) (branch : Option String) :
    (client.browse owner repo path branch).Sends client.Asks :=
  (client.sends_listDirectory owner repo path branch).andThen fun _ => trivial

end Client

namespace Component

variable (client : Client) (location : SourceLocation)

theorem sends_listOrEmpty (path : String) : (listOrEmpty client location path).Sends client.Asks := by
  refine (client.sends_listDirectory _ _ _ _).attempt.andThen fun result => ?_
  split
  · split
    · trivial
    · trivial
  · trivial

theorem sends_findSource (directories : List String) : (findSource client location directories).Sends client.Asks := by
  induction directories with
  | nil => trivial
  | cons directory others ih =>
    refine (sends_listOrEmpty client location _).andThen fun entries => ?_
    split
    · exact ih
    · split
      · exact ih
      · exact (client.sends_fetch _).andThen fun _ => trivial

theorem sends_fetchEach (urls : List String) : (fetchEach client urls).Sends client.Asks := by
  induction urls with
  | nil => trivial
  | cons url others ih => exact (client.sends_fetch url).andThen fun _ => ih.andThen fun _ => trivial

theorem sends_collectStyles (sources : List Entry) : (collectStyles client location sources).Sends client.Asks := by
  unfold collectStyles
  split
  · trivial
  · exact (sends_listOrEmpty client location _).andThen fun _ =>
      (sends_fetchEach client _).andThen fun _ => trivial

theorem sends_rootMetadata : (rootMetadata client location).Sends client.Asks := by
  refine (sends_listOrEmpty client location _).andThen fun entries => ?_
  split
  · trivial
  · refine (client.sends_fetch _).attempt.andThen fun result => ?_
    split
    · trivial
    · trivial
    · trivial

theorem sends_ofProject : (ofProject client location).Sends client.Asks := by
  refine (sends_listOrEmpty client location _).andThen fun sources => ?_
  refine (sends_findSource client location _).andThen fun found => ?_
  split
  · trivial
  · exact (sends_collectStyles client location sources).andThen fun _ =>
      (sends_rootMetadata client location).andThen fun _ => trivial

theorem sends_ofStaticListing (entries : List Entry) : (ofStaticListing client.fetch entries).Sends client.Asks := by
  have hoptional : ∀ entry : Option Entry, ∀ request ∈ Fetch.requests [fetchOptional client.fetch entry],
      client.Asks request := by
    intro entry request hrequest
    unfold fetchOptional at hrequest
    split at hrequest
    · exact .content hrequest
    · cases hrequest
  unfold ofStaticListing
  dsimp only
  split
  · split
    · refine (Fetch.sends_all ?_).andThen fun contents => ?_
      · simp only [List.forall_mem_cons, List.not_mem_nil, false_implies, implies_true, and_true]
        exact ⟨fun _ => .content, fun _ => .content, hoptional _, hoptional _⟩
      · split
        · trivial
        · trivial
    · trivial
  · trivial

/-- All that is sent to make a component of a listing is asked for by the client. -/
theorem sends_ofListing (entries : List Entry) (location : Option SourceLocation) :
    (ofListing client entries location).Sends client.Asks := by
  unfold ofListing
  dsimp only
  split
  · trivial
  · split
    · exact sends_ofProject client _
    · exact sends_ofStaticListing client entries

end Component

namespace Client

/-! ## What a caller asks of a client -/

/-- An operation that a caller asks of a client. -/
inductive Operation where
  | list (owner repo path : String) (branch : Option String)
  | browse (owner repo path : String) (branch : Option String)
  | fetch (url : String)
  /-- Make a component of a listing. -/
  | parse (entries : List Entry) (location : Option SourceLocation)

/-- An operation as a computation, its result aside. -/
def Operation.work (client : Client) : Operation → Remote Unit
  | list owner repo path branch => (client.listDirectory owner repo path branch).andThen fun _ => .done (.ok ())
  | browse owner repo path branch => (client.browse owner repo path branch).andThen fun _ => .done (.ok ())
  | fetch url => (client.fetch url).toRemote.andThen fun _ => .done (.ok ())
  | parse entries location => (Component.ofListing client entries location).andThen fun _ => .done (.ok ())

/-- One operation after the other; the failure of one does not keep the next from being asked. -/
def perform (client : Client) : List Operation → Remote Unit
  | [] => .done (.ok ())
  | operation :: later => (operation.work client).attempt.andThen fun _ => client.perform later

theorem sends_work (client : Client) (operation : Operation) : (operation.work client).Sends client.Asks := by
  cases operation with
  | list owner repo path branch => exact (client.sends_listDirectory _ _ _ _).andThen fun _ => trivial
  | browse owner repo path branch => exact (client.sends_browse _ _ _ _).andThen fun _ => trivial
  | fetch url => exact (client.sends_fetch url).andThen fun _ => trivial
  | parse entries location => exact (Component.sends_ofListing client entries location).andThen fun _ => trivial

theorem sends_perform (client : Client) (operations : List Operation) :
    (client.perform operations).Sends client.Asks := by
  induction operations with
  | nil => trivial
  | cons operation later ih => exact (client.sends_work operation).attempt.andThen fun _ => ih

/-! ## Tokens -/

theorem token_of_contentRequest {url : String} {request : Request} (h : contentRequest url = .ok request) :
    request.token = none := by
  rw [contentRequest_cases h]

theorem token_of_proxyRequest {baseUrl endpoint : String} {members : List (String × String)} {request : Request}
    (h : proxyRequest baseUrl endpoint members = .ok request) : request.token = none := by
  rw [proxyRequest_cases h]

/-- A request for a content bears no token. -/
theorem token_of_fetch {client : Client} {url : String} {request : Request}
    (h : request ∈ Fetch.requests [client.fetch url]) : request.token = none := by
  rw [fetch_eq] at h
  split at h
  · cases h
  · have hrequest := mem_requests_asking.mp h
    cases htransport : client.transport with
    | direct token apiUrl =>
      rw [htransport] at hrequest
      exact token_of_contentRequest hrequest
    | proxy baseUrl =>
      rw [htransport] at hrequest
      exact token_of_proxyRequest hrequest

theorem eq_of_headerToken {token sendable : Option String} (h : headerToken token = .ok sendable)
    (hsendable : sendable ≠ none) : sendable = token := by
  unfold headerToken at h
  split at h
  · cases h
    exact absurd rfl hsendable
  · split at h
    · cases h
      exact absurd rfl hsendable
    · dsimp only at h
      split at h
      · cases h
        rfl
      · cases h

theorem getLast?_withoutTrailingSlashes (s : String) : (withoutTrailingSlashes s).toList.getLast? ≠ some '/' := by
  rw [withoutTrailingSlashes, String.toList_ofList, Text.stripEndWhile, List.getLast?_reverse]
  intro hhead
  have hkept := List.head?_dropWhile_not (· == '/') s.toList.reverse
  rw [hhead] at hkept
  cases hkept

/-- A request for a listing that bears a token goes to the origin of the interface. -/
theorem listingRequest_confined {token : Option String} {apiUrl owner repo path branch : String} {request : Request}
    (h : listingRequest token (withoutTrailingSlashes apiUrl) owner repo path branch = .ok request) :
    request.method = .get ∧ (request.token ≠ none → request.token = token) ∧
      ∃ base, Address.ofWritten (withoutTrailingSlashes apiUrl).toList = .ok base ∧
        request.address.origin? = base.origin? := by
  obtain ⟨written, sendable, hwritten, htoken, haddress, hrequest⟩ := listingRequest_cases h
  refine ⟨by rw [hrequest], fun hborne => ?_, ?_⟩
  · rw [hrequest] at hborne ⊢
    dsimp only at hborne ⊢
    split at hborne
    · exact absurd rfl hborne
    · rename_i hplain
      rw [if_neg hplain]
      exact eq_of_headerToken htoken hborne
  · have hrest : (listingPath owner repo path).head? ≠ some '/' := by
      unfold listingPath
      simp
    exact Address.listing_origin (toList_listing _ owner repo path) (getLast?_withoutTrailingSlashes apiUrl) hrest
      hwritten haddress

/-- A client is asked to list, browse, fetch and make components of listings, one after the other and whatever comes of
it, and is answered in any way. Over the direct way, every request that bears the token is a request for a listing, and
goes by GET to scheme, host and port of the interface. No request for a content bears a token, and over the way through
a deployment no request does. -/
theorem token_confined {σ : Type} (client : Client) (operations : List Operation)
    (answer : σ → Request → Reply × σ) (state : σ) :
    let sent := ((client.perform operations).run (Remote.noting answer) (state, [])).2.2
    (∀ token apiUrl, client.transport = .direct token (withoutTrailingSlashes apiUrl) →
      ∀ request ∈ sent, request.token ≠ none →
        request.method = .get ∧ request.token = token ∧
        (∃ owner repo path branch, request ∈ Fetch.requests [client.listEntries owner repo path branch]) ∧
        ∃ base, Address.ofWritten (withoutTrailingSlashes apiUrl).toList = .ok base ∧
          request.address.origin? = base.origin?) ∧
    (∀ url, ∀ request ∈ Fetch.requests [client.fetch url], request.token = none) ∧
    (∀ baseUrl, client.transport = .proxy baseUrl → ∀ request ∈ sent, request.token = none) := by
  intro sent
  have hasks : ∀ request ∈ sent, client.Asks request :=
    (client.sends_perform operations).noted answer state fun _ hnone => absurd hnone List.not_mem_nil
  refine ⟨fun token apiUrl hdirect request hsent hborne => ?_, fun url request => token_of_fetch,
    fun baseUrl hproxy request hsent => ?_⟩
  · cases hasks request hsent with
    | @listing owner repo path branch _ hrequest =>
      have hlisting := hrequest
      rw [listEntries, hdirect] at hlisting
      obtain ⟨hmethod, htoken, hbase⟩ := listingRequest_confined (mem_requests_asking.mp hlisting)
      exact ⟨hmethod, htoken hborne, ⟨owner, repo, path, branch, hrequest⟩, hbase⟩
    | content hrequest => exact absurd (token_of_fetch hrequest) hborne
  · cases hasks request hsent with
    | listing hrequest =>
      rw [listEntries, hproxy] at hrequest
      exact token_of_proxyRequest (mem_requests_asking.mp hrequest)
    | content hrequest => exact token_of_fetch hrequest

/-- A client with a token. -/
def tokenClient : Client :=
  ⟨.direct (some "secret") (withoutTrailingSlashes "https://api.github.com/"), ["githubusercontent.com"], "main"⟩

/-- It lists with its token, at the host of the interface, and fetches without. -/
theorem token_confined_listing :
    let operations := [.list "acme" "widgets" "demo" none,
      .fetch "https://raw.githubusercontent.com/acme/widgets/main/demo/index.html"]
    let sent := ((tokenClient.perform operations).run (Remote.noting (replying (.failed ""))) ((), [])).2.2
    sent.map Request.token = [some "secret", none] ∧
      ∀ request ∈ sent, request.token ≠ none →
        request.method = .get ∧ request.address.origin? = some ("https", "api.github.com", some 443) := by
  intro operations sent
  refine ⟨rfl, fun request hsent hborne => ?_⟩
  obtain ⟨hmethod, -, -, base, hbase, horigin⟩ :=
    (token_confined tokenClient operations (replying (.failed "")) ()).1 (some "secret") "https://api.github.com/" rfl
      request hsent hborne
  obtain rfl : interface = base := Except.ok.inj hbase
  exact ⟨hmethod, horigin⟩

end Client

end Showcase
