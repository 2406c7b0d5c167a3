import Showcase.Proofs.Listing.Entry
import Showcase.Proofs.Listing.Path
import Showcase.Proofs.Transport.Deployment

/-!
# Listings through a deployment

A client of a deployment lists directories like a client of the host. The host's reply becomes entries or a typed
failure; the service writes either in its answer, and the client of the deployment makes the same entries, or a failure
of the same kind and status, of that.
-/

namespace Showcase

open Network

/-! ## What is asked for -/

namespace Client

/-- The branch that is listed: the one that is asked for, unless there is none or it is empty. -/
def chosenBranch (default : String) : Option String → String
  | some name => if name.isEmpty then default else name
  | none => default

theorem chosenBranch_idem (default : String) (branch : Option String) :
    chosenBranch default (some (chosenBranch default branch)) = chosenBranch default branch := by
  have hdefault : chosenBranch default (some default) = default := ite_self _
  cases branch with
  | none => exact hdefault
  | some name =>
    by_cases hname : name.isEmpty = true
    · have hchosen : chosenBranch default (some name) = default := if_pos hname
      rw [hchosen, hdefault]
    · have hchosen : chosenBranch default (some name) = name := if_neg hname
      rw [hchosen, hchosen]

/-- The entries that are made of a listing. -/
def entriesOf (found : Fallible (List Json)) : Fallible (List Entry) :=
  found.bind fun values => values.mapM Entry.ofContents

/-- A listing needs an owner and a repository; its entries are made of what is listed, at the path without slashes around
it. -/
theorem listDirectory_eq (client : Client) (owner repo path : String) (branch : Option String) :
    client.listDirectory owner repo path branch =
      if owner.isEmpty || repo.isEmpty then .done (.error .ownerAndRepoRequired)
      else (client.listEntries owner repo (withoutOuterSlashes path) (chosenBranch client.defaultBranch branch)).toRemote.andThen
        fun found => .done (found.mapM Entry.ofContents) := by
  unfold listDirectory
  cases branch <;> rfl

theorem listDirectory_of_ne {client : Client} {owner repo : String} (howner : owner ≠ "") (hrepo : repo ≠ "")
    (path : String) (branch : Option String) :
    client.listDirectory owner repo path branch =
      (client.listEntries owner repo (withoutOuterSlashes path) (chosenBranch client.defaultBranch branch)).toRemote.andThen
        fun found => .done (found.mapM Entry.ofContents) := by
  rw [listDirectory_eq, if_neg (by simp [howner, hrepo])]

/-- A listing is one request, and its entries are made of the reply. -/
theorem run_listDirectory {σ : Type} {client : Client} {owner repo path : String} {branch : Option String}
    (howner : owner ≠ "") (hrepo : repo ≠ "") {request : Request} {read : Reply → Fallible (List Json)}
    (hentries : client.listEntries owner repo (withoutOuterSlashes path) (chosenBranch client.defaultBranch branch) =
      .ask request read) (host : σ → Request → Reply × σ) (state : σ) :
    (client.listDirectory owner repo path branch).run host state =
      (entriesOf (read (host state request).1), (host state request).2) := by
  rw [listDirectory_of_ne howner hrepo, hentries, Remote.run_andThen, Fetch.run_ask]
  cases read (host state request).1 with
  | ok values => rfl
  | error failure => rfl

/-- A token that can be sent changes nothing else about a request. -/
theorem listingRequest_of_bare {token sent : Option String} (htoken : headerToken token = .ok sent)
    {apiUrl owner repo path branch : String} {request : Request}
    (hbare : listingRequest none apiUrl owner repo path branch = .ok request) :
    ∃ credential, listingRequest token apiUrl owner repo path branch = .ok { request with token := credential } := by
  unfold listingRequest at hbare ⊢
  cases hwritten : Address.ofText (apiUrl ++ "/repos/" ++ owner ++ "/" ++ repo ++ "/contents/" ++ path) with
  | error failure =>
    rw [hwritten] at hbare
    cases hbare
  | ok written =>
    cases haddress : written.withQuery "ref" branch with
    | error failure =>
      simp only [hwritten, haddress, headerToken, bind, Except.bind] at hbare
      cases hbare
    | ok address =>
      simp only [hwritten, haddress, headerToken, bind, Except.bind, pure, Except.pure] at hbare
      cases hbare
      exact ⟨if address.hasCredentials then none else sent,
        by simp only [haddress, htoken, bind, Except.bind, pure, Except.pure]⟩

end Client

/-! ## What is replied -/

/-- The values that the texts of an entry are read from. A path that is not there is the name, and a directory has no
content address. -/
def Entry.written (members : List (JsonString × Json)) : List Json :=
  let isDirectory := (Json.member? members "type").bind Json.text? == some "dir"
  let member (key : String) : Json := (Json.member? members key).getD .null
  [member "name", (Json.member? members "path").getD (member "name"),
    addressFor isDirectory (member "download_url"), member "sha"]

/-- An object that writes the texts of an entry without half of a pair, so that an entry shows what is written. -/
def Entry.IsWritten : Json → Prop
  | .obj members => ∀ value ∈ written members, value.isHalved = false
  | _ => True

/-- What the host may reply to a request for a listing: nothing, a refusal, what is no JSON, one entry or several. The
texts of entries are Unicode text: half of a surrogate pair could not be sent on. -/
inductive ListingReply : Reply → Prop where
  | failed (message : String) : ListingReply (.failed message)
  | refused {status : Int} (body : Body) (hstatus : isSuccess status = false) : ListingReply (.answered status body)
  | malformed {status : Int} {body : Body} {problem : String} (hstatus : isSuccess status = true)
      (hbody : body.json = .error problem) : ListingReply (.answered status body)
  | single {status : Int} {body : Body} {members : List (JsonString × Json)} {entry : Entry}
      (hstatus : isSuccess status = true) (hbody : body.json = .ok (.obj members))
      (hentry : Entry.ofContents (.obj members) = .ok entry) (hwritten : Entry.IsWritten (.obj members)) :
      ListingReply (.answered status body)
  | several {status : Int} {body : Body} {items : List Json} {entries : List Entry}
      (hstatus : isSuccess status = true) (hbody : body.json = .ok (.arr items))
      (hentries : items.mapM Entry.ofContents = .ok entries) (hwritten : ∀ item ∈ items, Entry.IsWritten item) :
      ListingReply (.answered status body)

/-- Why a listing may fail. A status that has a cause of its own is no transport failure. -/
inductive ListingCause : Cause → Prop where
  | notFound : ListingCause .notFound
  | rateLimited : ListingCause .rateLimited
  | transport {status : Option Int} (hfailure : isSuccess (Cause.transport status).status = false)
      (hfound : (Cause.transport status).status ≠ 404)
      (hallowed : ¬((Cause.transport status).status = 403 ∨ (Cause.transport status).status = 429)) :
      ListingCause (.transport status)

/-- How a listing may end: with entries that can be passed on, or with a typed failure. -/
inductive ListingOutcome : Fallible (List Entry) → Prop where
  | entries {entries : List Entry} (hsound : ∀ entry ∈ entries, entry.IsSound) : ListingOutcome (.ok entries)
  | failure {cause : Cause} (hcause : ListingCause cause) (message : String) :
      ListingOutcome (.error (.engine (.of cause message)))

theorem listingCause_of_none : ListingCause (.transport none) :=
  .transport rfl (by decide) (by decide)

theorem listingOutcome_of_refused {status : Int} (hstatus : isSuccess status = false) (owner repo path : String) :
    ListingOutcome (.error (Client.listingFailure status owner repo path)) := by
  unfold Client.listingFailure
  split
  · exact .failure .notFound _
  · rename_i hfound
    split
    · exact .failure .rateLimited _
    · -- what is left is no status with a cause of its own, also if it is reported as none
      rename_i hallowed
      refine .failure (.transport ?_ ?_ ?_) _
      all_goals
        simp only [Cause.status]
        split
      · rfl
      · exact hstatus
      · decide
      · exact hfound
      · decide
      · exact hallowed

/-- What is made of a reply of the host. -/
theorem listingOutcome_of_reply {reply : Reply} (h : ListingReply reply) (owner repo path : String) :
    ListingOutcome (Client.entriesOf (Client.listed owner repo path reply)) := by
  cases h with
  | failed message => exact .failure listingCause_of_none _
  | refused body hstatus =>
    rw [Client.listed, if_neg (by simp [hstatus])]
    exact listingOutcome_of_refused hstatus owner repo path
  | malformed hstatus hbody =>
    rw [Client.listed, if_pos hstatus, Client.jsonOf, hbody]
    exact .failure listingCause_of_none _
  | single hstatus hbody hentry hwritten =>
    -- one object counts as a list of one
    have hsound := Entry.isSound_of_ofContents (Json.bounded_of_json hbody) hentry
    rw [Client.listed, if_pos hstatus, Client.jsonOf, hbody]
    simp only [Client.entriesOf, bind, Except.bind, pure, Except.pure, List.mapM_cons, List.mapM_nil, hentry]
    exact .entries (by simpa using hsound)
  | @several status body items entries hstatus hbody hentries hwritten =>
    have hitems : ∀ item ∈ items, item.Bounded := by
      cases Json.bounded_of_json hbody with
      | arr items hitems => exact hitems
    have hsound := Entry.isSound_of_mapM hitems hentries
    rw [Client.listed, if_pos hstatus, Client.jsonOf, hbody]
    simp only [Client.entriesOf, bind, Except.bind, pure, Except.pure, hentries]
    exact .entries hsound

/-! ## What the deployment answers -/

/-- The answer of the service to a request for a listing, given how its own listing ended. -/
def Service.listingAnswer (developing : Bool) (owner repo path : String) : Fallible (List Entry) → Service.Answer
  | .ok entries => .success [("files", .arr (entries.map Entry.toContents))]
  | .error failure => listingRefusal developing owner repo path failure

/-- Entries that can be passed on arrive as they are. -/
theorem entriesOf_success {entries : List Entry} (hsound : ∀ entry ∈ entries, entry.IsSound)
    (owner repo path : String) :
    Client.entriesOf (Client.proxyListed owner repo path
      (.answered 200 (.ofJson (Service.Answer.success [("files", .arr (entries.map Entry.toContents))]).body))) =
        .ok entries := by
  have hfiles : (Json.arr (entries.map Entry.toContents)).Travels := by
    apply Json.Travels.arr
    intro value hvalue
    rcases List.mem_map.mp hvalue with ⟨entry, hentry, rfl⟩
    exact Entry.travels_toContents (hsound entry hentry)
  have hjson := @Service.json_success [("files", .arr (entries.map Entry.toContents))] (by simp) (by simpa using hfiles)
  rw [Client.proxyListed, if_pos (by decide), Client.jsonOf, hjson]
  exact Entry.mapM_ofContents_toContents hsound

theorem entriesOf_refusal {status : Int} (hstatus : isSuccess status = false) (body : Body) (owner repo path : String) :
    Client.entriesOf (Client.proxyListed owner repo path (.answered status body)) =
      .error (Client.listingFailure status owner repo path) := by
  rw [Client.proxyListed, if_neg (by simp [hstatus])]
  rfl

theorem isSuccess_of_listingCause {cause : Cause} (h : ListingCause cause) : isSuccess cause.status = false := by
  cases h with
  | notFound => rfl
  | rateLimited => rfl
  | transport hfailure hfound hallowed => exact hfailure

theorem status_listingRefusal {cause : Cause} (h : ListingCause cause) (message : String) (developing : Bool)
    (owner repo path : String) :
    (Service.listingRefusal developing owner repo path (.engine (.of cause message))).status = cause.status := by
  cases h <;> rfl

/-- The status of a failure says which of the kinds it is of. -/
theorem listingFailure_status {cause : Cause} (h : ListingCause cause) (owner repo path : String) :
    ∃ found message, Client.listingFailure cause.status owner repo path = .engine (.of found message) ∧
      cause.name = found.name ∧ cause.status = found.status := by
  cases h with
  | notFound => exact ⟨.notFound, _, rfl, rfl, rfl⟩
  | rateLimited => exact ⟨.rateLimited, _, rfl, rfl, rfl⟩
  | @transport status hfailure hfound hallowed =>
    exact ⟨.transport (some (Cause.transport status).status), _,
      by rw [Client.listingFailure, if_neg hfound, if_neg hallowed], rfl, (status_transport_status status).symm⟩

/-- Whatever a listing ended with, what a client makes of the answer to it is the same. -/
theorem sameOutcome_of_listingAnswer {outcome : Fallible (List Entry)} (h : ListingOutcome outcome) (developing : Bool)
    (owner repo path listedPath : String) :
    let answer := Service.listingAnswer developing owner repo listedPath outcome
    SameOutcome outcome
      (Client.entriesOf (Client.proxyListed owner repo path (.answered answer.status (.ofJson answer.body)))) := by
  intro answer
  cases h with
  | entries hsound =>
    have hread : Client.entriesOf (Client.proxyListed owner repo path
        (.answered answer.status (.ofJson answer.body))) = .ok _ := entriesOf_success hsound owner repo path
    rw [hread]
    exact .value _
  | @failure cause hcause message =>
    have hstatus : answer.status = cause.status :=
      status_listingRefusal hcause message developing owner repo listedPath
    rcases listingFailure_status hcause owner repo path with ⟨found, told, hfailure, hkind, hsame⟩
    rw [hstatus, entriesOf_refusal (isSuccess_of_listingCause hcause), hfailure]
    exact .failure hkind hsame

theorem directTransport_eq (settings : Settings) (token : Option String) :
    settings.directTransport token "" = .direct token (withoutTrailingSlashes settings.apiUrl) := by
  simp [Settings.directTransport]

/-- A client of the host asks for a listing if its token can be sent. -/
theorem listEntries_direct {settings : Settings} {token sent : Option String}
    (htoken : Client.headerToken token = .ok sent) {owner repo path branch : String} {request : Request}
    (hrequest : Client.listingRequest none (withoutTrailingSlashes settings.apiUrl) owner repo path branch =
      .ok request) :
    ∃ credential, (settings.clientVia (settings.directTransport token "")).listEntries owner repo path branch =
      .ask { request with token := credential } (Client.listed owner repo path) := by
  rcases Client.listingRequest_of_bare htoken hrequest with ⟨credential, hsent⟩
  exact ⟨credential, by simp only [Client.listEntries, Settings.clientVia, directTransport_eq, hsent, Client.asking]⟩

theorem serve_proxyListing (settings : Settings) (owner repo path branch : String) :
    Service.serve settings .proxyListing
      (some (.ofBindings [("owner", owner), ("repo", repo), ("path", path), ("branch", branch)])) =
        .ok (Service.proxyListing settings ⟨some (.text owner), some (.text repo), path, some (.text branch)⟩) := rfl

/-- The service lists with the token of its own, and answers how that ended. -/
theorem run_proxyListing {σ : Type} {settings : Settings} (htoken : settings.token ≠ "") {owner repo : String}
    (howner : owner ≠ "") (hrepo : repo ≠ "") (path branch : String) (host : σ → Request → Reply × σ) (state : σ) :
    ((Service.proxyListing settings ⟨some (.text owner), some (.text repo), path, some (.text branch)⟩).run host
      state).1 =
      .ok (Service.listingAnswer (Service.isDeveloping settings) owner repo path
        ((settings.hostClient.listDirectory owner repo path (some branch)).run host state).1) := by
  have hset : settings.token.isEmpty = false := by simpa using htoken
  have hhalf : Service.ListingForm.half? ⟨some (.text owner), some (.text repo), path, some (.text branch)⟩ = none := rfl
  rw [Service.proxyListing, Service.filled?_text howner, Service.filled?_text hrepo]
  dsimp only
  rw [hset, if_neg Bool.false_ne_true, hhalf]
  dsimp only [JsonString.shown_text, Option.map_some]
  rw [Remote.run_attempt_andThen]
  cases ((settings.hostClient.listDirectory owner repo path (some branch)).run host state).1 with
  | ok entries => rfl
  | error failure => rfl

/-- What a client of a deployment lists is made of the answer of the service, whose own listing has the same path and
branch. -/
theorem run_listDirectory_deployed {σ : Type} {service : Service} {baseUrl : String}
    (hserves : service.Serves baseUrl "browse" .proxyListing) {owner repo : String} (howner : owner ≠ "")
    (hrepo : repo ≠ "") (path : String) (branch : Option String) (host : σ → Request → Reply × σ) (state : σ) :
    let chosen := Client.chosenBranch service.settings.defaultBranch branch
    let answer := Service.listingAnswer (Service.isDeveloping service.settings) owner repo (withoutOuterSlashes path)
      ((service.settings.hostClient.listDirectory owner repo (withoutOuterSlashes path) (some chosen)).run host state).1
    (((service.settings.clientVia (Settings.proxyTransport baseUrl)).listDirectory owner repo path branch).run
        (Service.deployed host) (service, state)).1 =
      Client.entriesOf (Client.proxyListed owner repo (withoutOuterSlashes path)
        (.answered answer.status (.ofJson answer.body))) := by
  intro chosen answer
  obtain ⟨request, hrequest, hanswer⟩ := hserves.deployed_proxyRequest rfl (by simp)
    (serve_proxyListing service.settings owner repo (withoutOuterSlashes path) chosen) host state
  have hproxied : (service.settings.clientVia (Settings.proxyTransport baseUrl)).listEntries owner repo
      (withoutOuterSlashes path) chosen = .ask request (Client.proxyListed owner repo (withoutOuterSlashes path)) := by
    simp only [Client.listEntries, Settings.clientVia, Settings.proxyTransport, hrequest, Client.asking]
  rw [Client.run_listDirectory howner hrepo hproxied, hanswer, run_proxyListing hserves.token howner hrepo]
  rfl

/-! ## The two clients -/

/-- A client of a deployment lists what a client of the host lists, or fails with a failure of the same kind and status,
if the host replies to both alike. -/
theorem listDirectory_sameOutcome {σ : Type} (host : σ → Request → Reply × σ) (state : σ) {service : Service}
    {baseUrl : String} (hserves : service.Serves baseUrl "browse" .proxyListing) {token sent served : Option String}
    (htoken : Client.headerToken token = .ok sent)
    (hserved : Client.headerToken (some service.settings.token) = .ok served) {owner repo : String}
    (howner : owner ≠ "") (hrepo : repo ≠ "") (path : String) (branch : Option String) {request : Request}
    (hrequest : Client.listingRequest none (withoutTrailingSlashes service.settings.apiUrl) owner repo
      (withoutOuterSlashes path) (Client.chosenBranch service.settings.defaultBranch branch) = .ok request)
    {reply : Reply} (hreply : ∀ credential, (host state { request with token := credential }).1 = reply)
    (hlisting : ListingReply reply) :
    let direct := service.settings.clientVia (service.settings.directTransport token "")
    let proxied := service.settings.clientVia (Settings.proxyTransport baseUrl)
    SameOutcome ((direct.listDirectory owner repo path branch).run host state).1
      ((proxied.listDirectory owner repo path branch).run (Service.deployed host) (service, state)).1 := by
  intro direct proxied
  rcases listEntries_direct htoken hrequest with ⟨credential, hdirect⟩
  have htokenSet : Settings.filledToken service.settings.token = some service.settings.token :=
    if_neg (by simpa using hserves.token)
  rcases listEntries_direct (htokenSet.symm ▸ hserved) hrequest with ⟨serverCredential, hhost⟩
  -- the service is asked for the path and branch that were chosen already, and chooses them again
  have hserver : service.settings.hostClient.listEntries owner repo (withoutOuterSlashes (withoutOuterSlashes path))
      (Client.chosenBranch service.settings.defaultBranch
        (some (Client.chosenBranch service.settings.defaultBranch branch))) =
        .ask { request with token := serverCredential } (Client.listed owner repo (withoutOuterSlashes path)) := by
    rw [withoutOuterSlashes_idem, Client.chosenBranch_idem]
    exact hhost
  -- the client of the host makes its entries of the reply, and so does the service
  have hleft := Client.run_listDirectory howner hrepo hdirect host state
  have hinner : ((service.settings.hostClient.listDirectory owner repo (withoutOuterSlashes path)
      (some (Client.chosenBranch service.settings.defaultBranch branch))).run host state).1 =
        Client.entriesOf (Client.listed owner repo (withoutOuterSlashes path) reply) := by
    rw [Client.run_listDirectory howner hrepo hserver, hreply]
  rw [hleft, hreply, run_listDirectory_deployed hserves howner hrepo, hinner]
  exact sameOutcome_of_listingAnswer (listingOutcome_of_reply hlisting _ _ _) _ _ _ _ _

/-- A page in a repository. -/
def page : Entry := ⟨"index.html", "demo/index.html", .file, some "https://github.com/acme/widgets", some 19, none⟩

theorem isSound_page : page.IsSound where
  size n hn := by
    cases hn
    have hsize : (19 : Int).natAbs < 10 ^ 2 := by decide
    exact Field.natAbs_lt_of_fewer hsize (by decide)
  address hdirectory := by cases hdirectory

/-- A host that has the page everywhere. -/
def pageHost (_ : Unit) (_ : Request) : Reply × Unit := (.answered 200 (.ofJson page.toContents), ())

theorem listingReply_page : ListingReply (.answered 200 (.ofJson page.toContents)) :=
  .single rfl (Entry.travels_toContents isSound_page).json_ofJson (Entry.ofContents_toContents isSound_page)
    (show ∀ value ∈ Entry.written _, value.isHalved = false by decide)

theorem entriesOf_page (owner repo path : String) :
    Client.entriesOf (Client.listed owner repo path (.answered 200 (.ofJson page.toContents))) = .ok [page] := by
  have hjson : (Body.ofJson page.toContents).json = .ok page.toContents :=
    (Entry.travels_toContents isSound_page).json_ofJson
  rw [Client.listed, if_pos (by decide), Client.jsonOf, hjson]
  have hsound : ∀ entry ∈ [page], entry.IsSound := by simpa using isSound_page
  exact Entry.mapM_ofContents_toContents hsound

/-- Both clients list the page. -/
theorem listDirectory_sameOutcome_page :
    let settings := (Service.withToken "secret").settings
    let direct := settings.clientVia (settings.directTransport none "")
    let proxied := settings.clientVia (Settings.proxyTransport "https://builder.example/")
    SameOutcome ((direct.listDirectory "acme" "widgets" "/demo/" (some "")).run pageHost ()).1
      ((proxied.listDirectory "acme" "widgets" "/demo/" (some "")).run (Service.deployed pageHost)
        (Service.withToken "secret", ())).1 :=
  listDirectory_sameOutcome pageHost () (Service.serves_withToken (by decide)).1 rfl rfl (by decide) (by decide) "/demo/"
    (some "") rfl (fun _ => rfl) listingReply_page

/-- A service whose token has a letter outside ASCII cannot ask for the page, which a client of the host lists without a
token. -/
theorem not_listDirectory_sameOutcome :
    ¬∀ (host : Unit → Request → Reply × Unit) (token : String), token ≠ "" →
      (∀ request, ListingReply (host () request).1) →
      (∀ request credential, host () { request with token := credential } = host () request) →
      let settings := (Service.withToken token).settings
      let direct := settings.clientVia (settings.directTransport none "")
      let proxied := settings.clientVia (Settings.proxyTransport "https://builder.example/")
      SameOutcome ((direct.listDirectory "acme" "widgets" "/demo/" (some "")).run host ()).1
        ((proxied.listDirectory "acme" "widgets" "/demo/" (some "")).run (Service.deployed host)
          (Service.withToken token, ())).1 := by
  intro h
  have hsame := h pageHost "tökén" (by decide) (fun _ => listingReply_page) fun _ _ => rfl
  have hserves := (Service.serves_withToken (show "tökén" ≠ "" by decide)).1
  obtain ⟨credential, hdirect⟩ := @listEntries_direct (Service.withToken "tökén").settings none none rfl "acme" "widgets"
    (withoutOuterSlashes "/demo/") "main" _ rfl
  dsimp only at hsame
  rw [run_listDirectory_deployed hserves (by decide) (by decide), entriesOf_refusal rfl,
    Client.run_listDirectory (by decide) (by decide) hdirect, pageHost, entriesOf_page] at hsame
  cases hsame

end Showcase
