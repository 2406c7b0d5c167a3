import Showcase.Proofs.Transport.Deployment

/-!
# Contents through a deployment

A client of a deployment fetches contents like a client of the host, with two exceptions. The service asks for more than
a trusted host: the address has to contain the name of one as it is written. And the client takes the status 400 for a
refusal of the service, also when the service passes on the status that the host answered.
-/

namespace Showcase

open Network

/-! ## The client of the host -/

theorem isTrusted_empty (trusted : List String) : Address.isTrusted trusted "" = false := rfl

theorem fetch_of_trusted {settings : Settings} {token : Option String} {apiUrl url : String}
    (htrusted : Address.isTrusted settings.trustedHosts url = true) {request : Request}
    (hrequest : Client.contentRequest url = .ok request) :
    (settings.clientVia (settings.directTransport token apiUrl)).fetch url = .ask request Client.fetched := by
  simp only [Client.fetch, Settings.clientVia, Settings.directTransport, htrusted, if_true, hrequest, Client.asking]

theorem fetch_of_untrusted {settings : Settings} (token : Option String) (apiUrl : String) {url : String}
    (htrusted : Address.isTrusted settings.trustedHosts url = false) :
    ∃ message, (settings.clientVia (settings.directTransport token apiUrl)).fetch url =
      .ready (.error (.engine (.of .untrusted message))) := by
  refine ⟨"Refusing to fetch content from untrusted URL: " ++ url, ?_⟩
  simp only [Client.fetch, Settings.clientVia, Settings.directTransport, htrusted, Bool.false_eq_true, if_false]
  rfl

/-- A body that is read as Unicode text. -/
def Network.Body.IsText (body : Body) : Prop := ∃ s, body.text = .ok (.text s)

/-- A reply with a text, or one without success, of which no text is read. -/
def Network.Reply.IsTextual : Reply → Prop
  | .failed _ => True
  | .answered status body => isSuccess status = true → body.IsText

/-- What can be fetched with a reply: a text; a failure with the status of the reply, or with none when there was no
reply; and where the body is no text, a string with half of a pair or the failure of a codec. -/
inductive Fetches (reply : Reply) : Fallible Json → Prop where
  | text (s : String) (htext : reply.IsTextual) (hserved : ∀ body, reply ≠ .answered 400 body) :
      Fetches reply (.ok (.ofString s))
  | failure (status : Option Int) (message : String) (htext : reply.IsTextual)
      (hfailure : isSuccess (Cause.transport status).status = false)
      (hstatus : (Cause.transport status).status = 400 ↔ ∃ body, reply = .answered 400 body) :
      Fetches reply (.error (.engine (.of (.transport status) message)))
  | halved (points : List Nat) (h : IsUnpaired points) (htext : ¬reply.IsTextual) :
      Fetches reply (.ok (.str (.unpaired points h)))
  | undecoded (use : Use) (kind : String) (htext : ¬reply.IsTextual) : Fetches reply (.error (.unusable use kind))

/-- A body is read as a string, or its codec fails. -/
theorem text_cases (body : Body) :
    (∃ s, body.text = .ok s) ∨ ∃ use kind, body.text = .error (.unusable use kind) := by
  unfold Body.text
  split
  · exact .inl ⟨_, rfl⟩
  · dsimp only
    split
    · exact .inl ⟨_, rfl⟩
    · exact .inr ⟨_, _, rfl⟩

theorem text_ne_engine (body : Body) (error : EngineError) : body.text ≠ .error (.engine error) := by
  obtain ⟨s, htext⟩ | ⟨use, kind, htext⟩ := text_cases body
  · rw [htext]
    nofun
  · rw [htext]
    nofun

/-- A reply of success is no text if its body is read as anything else. -/
theorem not_isTextual {status : Int} (hstatus : isSuccess status = true) {body : Body} {result : Fallible JsonString}
    (hread : body.text = result) (hresult : ∀ s, result ≠ .ok (.text s)) : ¬(Reply.answered status body).IsTextual := by
  intro htext
  obtain ⟨s, hs⟩ := htext hstatus
  exact hresult s (hread.symm.trans hs)

theorem fetches_fetched (reply : Reply) : Fetches reply (Client.fetched reply) := by
  cases reply with
  | failed message =>
    refine .failure none _ trivial rfl ⟨fun h => ?_, fun ⟨body, h⟩ => ?_⟩
    · cases h
    · cases h
  | answered status body =>
    by_cases hstatus : isSuccess status = true
    · have hfetched : Client.fetched (.answered status body) = body.text.map .str := if_pos hstatus
      rw [hfetched]
      obtain ⟨s | ⟨points, h⟩, htext⟩ | ⟨use, kind, htext⟩ := text_cases body
      · rw [htext]
        refine .text s (fun _ => ⟨s, htext⟩) ?_
        rintro other h
        cases h
        cases hstatus
      · rw [htext]
        exact .halved points h (not_isTextual hstatus htext nofun)
      · rw [htext]
        exact .undecoded use kind (not_isTextual hstatus htext nofun)
    · have hfetched : Client.fetched (.answered status body) = fail (.transport (some status))
          ("Failed to fetch file (status " ++ toString status ++ ")") := if_neg hstatus
      rw [hfetched]
      -- the status zero counts as none, and is reported with the status that stands for none
      refine .failure (some status) _ (fun h => absurd h hstatus) ?_ ?_
      · by_cases hzero : status = 0
        · subst hzero
          rfl
        · rw [Cause.status, if_neg hzero]
          exact Bool.eq_false_iff.mpr hstatus
      · by_cases hzero : status = 0
        · subst hzero
          simp [Cause.status]
        · simp [Cause.status, hzero]

/-! ## The service -/

/-- The answer of the service to a request for a content, given how its own fetch ended. -/
def Service.contentAnswer (developing : Bool) : Fallible Json → Service.Answer
  | .ok content => contentFound developing content
  | .error failure => contentRefusal developing failure

theorem run_proxyContent_of_refused {σ : Type} {settings : Settings} {url : String}
    (hrefused : Service.isFetched settings url = false) (host : σ → Request → Reply × σ) (state : σ) :
    ∃ answer, ((Service.proxyContent settings ⟨some (.text url)⟩).run host state).1 = .ok answer ∧ answer.status = 400 := by
  by_cases hempty : url.isEmpty = true
  · refine ⟨.refusal 400 "Missing required field: url" [], ?_, rfl⟩
    rw [Service.proxyContent, Service.filled?_of_isEmpty hempty]
    rfl
  · refine ⟨.refusal 400 "Invalid URL domain" [], ?_, rfl⟩
    rw [Service.proxyContent, Service.filled?_text (by simpa using hempty)]
    dsimp only
    rw [if_pos (by simp [hrefused])]
    rfl

theorem run_proxyContent {σ : Type} {settings : Settings} (htoken : settings.token ≠ "") {url : String}
    (hfetched : Service.isFetched settings url = true) {request : Request}
    (hrequest : Client.contentRequest url = .ok request) (host : σ → Request → Reply × σ) (state : σ) :
    ((Service.proxyContent settings ⟨some (.text url)⟩).run host state).1 =
      .ok (Service.contentAnswer (Service.isDeveloping settings) (Client.fetched (host state request).1)) := by
  have htrusted : Address.isTrusted settings.trustedHosts url = true := (Bool.and_eq_true_iff.mp hfetched).2
  -- a trusted address is not empty
  have hfilled : url ≠ "" := by
    rintro rfl
    rw [isTrusted_empty] at htrusted
    cases htrusted
  have hset : settings.token.isEmpty = false := by simpa using htoken
  rw [Service.proxyContent, Service.filled?_text hfilled]
  simp only [JsonString.shown_text, JsonString.half?, hfetched, hset, Bool.not_true, Bool.false_eq_true, if_false]
  rw [Remote.run_attempt_andThen, Settings.hostClient, fetch_of_trusted htrusted hrequest, Fetch.run_ask]
  cases Client.fetched (host state request).1 with
  | ok content => rfl
  | error failure => rfl

/-! ## The client of the deployment -/

theorem serve_proxyContent (settings : Settings) (url : String) :
    Service.serve settings .proxyContent (some (.ofBindings [("url", url)])) =
      .ok (Service.proxyContent settings ⟨some (.text url)⟩) := rfl

/-- What a client of a deployment fetches is made of the answer of the service. -/
theorem run_fetch_deployed {σ : Type} {service : Service} {baseUrl : String}
    (hserves : service.Serves baseUrl "content" .proxyContent) (url : String) (host : σ → Request → Reply × σ)
    (state : σ) {answer : Service.Answer}
    (hanswer : ((Service.proxyContent service.settings ⟨some (.text url)⟩).run host state).1 = .ok answer) :
    (((service.settings.clientVia (Settings.proxyTransport baseUrl)).fetch url).toRemote.run (Service.deployed host)
      (service, state)).1 = Client.proxyFetched url (.answered answer.status (.ofJson answer.body)) := by
  obtain ⟨request, hrequest, hreply⟩ := hserves.deployed_proxyRequest rfl (by simp)
    (serve_proxyContent service.settings url) host state
  have hfetch : (service.settings.clientVia (Settings.proxyTransport baseUrl)).fetch url =
      .ask request (Client.proxyFetched url) := by
    simp only [Client.fetch, Settings.clientVia, Settings.proxyTransport, hrequest, Client.asking]
  rw [hfetch, Fetch.run_ask, hreply, hanswer]
  rfl

theorem proxyFetched_400 (url : String) (body : Body) :
    Client.proxyFetched url (.answered 400 body) =
      .error (.engine (.of .untrusted ("Proxy refused URL: " ++ url))) := rfl

/-- A text arrives as it is. -/
theorem proxyFetched_found (developing : Bool) (url s : String) :
    let answer := Service.contentFound developing (.ofString s)
    Client.proxyFetched url (.answered answer.status (.ofJson answer.body)) = .ok (.ofString s) := by
  intro answer
  have htext : (Json.ofString s).Travels := .text s
  have hjson : (Body.ofJson answer.body).json = .ok answer.body :=
    Service.json_success (by simp) (by simpa using htext)
  have hstatus : answer.status = 200 := rfl
  rw [hstatus, Client.proxyFetched, if_neg (by decide), if_pos (by decide), Client.jsonOf, hjson]
  rfl

/-- Half of a pair cannot be sent. -/
theorem contentFound_halved (developing : Bool) {points : List Nat} (h : IsUnpaired points) :
    ∃ use kind, Service.contentFound developing (.str (.unpaired points h)) =
      .ofFailure developing (.unusable use kind) := by
  have hhalf : (points.find? Text.isSurrogate).isSome = true := by
    rw [List.find?_isSome]
    exact h.half
  have hunsendable : Service.Answer.unsendable?
      (Service.Answer.success [("content", .str (.unpaired points h))]).body =
        some "'utf-8' codec can't encode characters: surrogates not allowed" := by
    simp [Service.Answer.unsendable?, Service.Answer.success, Service.Answer.ok, Json.ofMembers, Json.anyScalar,
      Json.anyMember, Json.isUnbounded, Json.isHalved, JsonString.half?, hhalf]
  refine ⟨.encoding "'utf-8' codec can't encode characters: surrogates not allowed", "dict", ?_⟩
  simp only [Service.contentFound, Service.Answer.sending, hunsendable]
  rfl

/-- A failed fetch arrives with its status, unless that is the one that a refusal has. -/
theorem proxyFetched_refusal {status : Option Int} (hfailure : isSuccess (Cause.transport status).status = false)
    (hstatus : (Cause.transport status).status ≠ 400) (message : String) (developing : Bool) (url : String) :
    let answer := Service.contentAnswer developing (.error (.engine (.of (.transport status) message)))
    ∃ told, Client.proxyFetched url (.answered answer.status (.ofJson answer.body)) =
      .error (.engine (.of (.transport (some (Cause.transport status).status)) told)) := by
  refine ⟨"Failed to fetch file (status " ++ toString (Cause.transport status).status ++ ")", ?_⟩
  exact (if_neg hstatus).trans (if_neg (Bool.eq_false_iff.mp hfailure))

/-! ## The two clients -/

/-- A fetch from the host is never refused for its address. -/
theorem not_sameOutcome_fetched (reply : Reply) (message : String) :
    ¬SameOutcome (Client.fetched reply) (.error (.engine (.of .untrusted message))) := by
  have hfetches := fetches_fetched reply
  generalize Client.fetched reply = fetched at hfetches
  intro h
  cases hfetches with
  | text | halved | undecoded => cases h
  | failure =>
    cases h with
    | failure hkind hstatus => exact absurd hkind (by decide : "transport_error" ≠ "untrusted_url")

/-- What the service refuses is refused to its client. -/
theorem run_fetch_refused {σ : Type} {service : Service} {baseUrl : String}
    (hserves : service.Serves baseUrl "content" .proxyContent) {url : String}
    (hrefused : Service.isFetched service.settings url = false) (host : σ → Request → Reply × σ) (state : σ) :
    (((service.settings.clientVia (Settings.proxyTransport baseUrl)).fetch url).toRemote.run (Service.deployed host)
      (service, state)).1 = .error (.engine (.of .untrusted ("Proxy refused URL: " ++ url))) := by
  rcases run_proxyContent_of_refused hrefused host state with ⟨answer, hanswer, hstatus⟩
  rw [run_fetch_deployed hserves url host state hanswer, hstatus, proxyFetched_400]

/-- A failure of the service itself arrives as one of the host. -/
theorem proxyFetched_unusable (developing : Bool) (use : Use) (kind url : String) :
    let answer := Service.Answer.ofFailure developing (.unusable use kind)
    Client.proxyFetched url (.answered answer.status (.ofJson answer.body)) =
      .error (.engine (.of (.transport (some 500)) "Failed to fetch file (status 500)")) := rfl

/-- What the service fetches arrives as the client of the host would have it, unless the host answers the status 400 or
with a body that is no text. -/
theorem sameOutcome_of_contentAnswer (reply : Reply) (developing : Bool) (url : String) :
    let answer := Service.contentAnswer developing (Client.fetched reply)
    SameOutcome (Client.fetched reply) (Client.proxyFetched url (.answered answer.status (.ofJson answer.body))) ↔
      (∀ body, reply ≠ .answered 400 body) ∧ reply.IsTextual := by
  have hfetches := fetches_fetched reply
  generalize Client.fetched reply = fetched at hfetches
  intro answer
  cases hfetches with
  | text s htext hserved =>
    have hread : Client.proxyFetched url (.answered answer.status (.ofJson answer.body)) = .ok (.ofString s) :=
      proxyFetched_found developing url s
    rw [hread]
    exact iff_of_true (.value _) ⟨hserved, htext⟩
  | failure status message htext hfailure hstatus =>
    by_cases hbad : (Cause.transport status).status = 400
    · -- the client takes the host's status for a refusal of the service
      have hread : Client.proxyFetched url (.answered answer.status (.ofJson answer.body)) =
          .error (.engine (.of .untrusted ("Proxy refused URL: " ++ url))) := if_pos hbad
      rw [hread]
      refine iff_of_false ?_ fun h => ?_
      · intro h
        cases h with
        | failure hkind hstatus => exact absurd hkind (by decide : "transport_error" ≠ "untrusted_url")
      · obtain ⟨body, hreply⟩ := hstatus.mp hbad
        exact h.1 body hreply
    · rcases proxyFetched_refusal hfailure hbad message developing url with ⟨told, hread⟩
      rw [hread]
      exact iff_of_true (.failure rfl (status_transport_status status).symm)
        ⟨fun body hreply => hbad (hstatus.mpr ⟨body, hreply⟩), htext⟩
  | halved points h htext =>
    obtain ⟨use, kind, hfailed⟩ := contentFound_halved developing h
    have hanswer : answer = .ofFailure developing (.unusable use kind) := hfailed
    rw [hanswer, proxyFetched_unusable]
    exact iff_of_false (fun hsame => by cases hsame) fun hboth => htext hboth.2
  | undecoded use kind htext =>
    have hanswer : answer = .ofFailure developing (.unusable use kind) := rfl
    rw [hanswer, proxyFetched_unusable]
    exact iff_of_false (fun hsame => by cases hsame) fun hboth => htext hboth.2

/-- A client of a deployment fetches what a client of the host fetches, or fails with a failure of the same kind and
status, unless the address is trusted and either contains the name of no trusted host as it is written, or the host
answers the status 400, or with a body that is no text. In these cases, and only in these, the two clients end
differently. -/
theorem fetch_sameOutcome_iff {σ : Type} (host : σ → Request → Reply × σ) (state : σ) {service : Service}
    {baseUrl : String} (hserves : service.Serves baseUrl "content" .proxyContent) (token : Option String) {url : String}
    {request : Request} (hrequest : Client.contentRequest url = .ok request) {reply : Reply}
    (hreply : (host state request).1 = reply) :
    let direct := service.settings.clientVia (service.settings.directTransport token "")
    let proxied := service.settings.clientVia (Settings.proxyTransport baseUrl)
    SameOutcome ((direct.fetch url).toRemote.run host state).1
        ((proxied.fetch url).toRemote.run (Service.deployed host) (service, state)).1 ↔
      (Address.isTrusted service.settings.trustedHosts url = true →
        Service.domainMarkers.any (contains url) = true ∧ (∀ body, reply ≠ .answered 400 body) ∧ reply.IsTextual) := by
  intro direct proxied
  cases htrusted : Address.isTrusted service.settings.trustedHosts url with
  | false =>
    -- both clients refuse the address
    rcases fetch_of_untrusted token "" htrusted with ⟨message, hdirect⟩
    have hrefused : Service.isFetched service.settings url = false := by simp [Service.isFetched, htrusted]
    rw [hdirect, Fetch.run_ready, run_fetch_refused hserves hrefused]
    exact iff_of_true (.failure rfl rfl) fun h => by cases h
  | true =>
    rw [fetch_of_trusted htrusted hrequest, Fetch.run_ask, hreply]
    cases hmarked : Service.domainMarkers.any (contains url) with
    | false =>
      -- only the service refuses the address
      have hrefused : Service.isFetched service.settings url = false := by simp [Service.isFetched, hmarked]
      rw [run_fetch_refused hserves hrefused]
      exact iff_of_false (not_sameOutcome_fetched _ _) fun h => by cases (h rfl).1
    | true =>
      -- both fetch, and the reply decides
      have hfetched : Service.isFetched service.settings url = true := by simp [Service.isFetched, hmarked, htrusted]
      have hanswer := run_proxyContent hserves.token hfetched hrequest host state
      rw [run_fetch_deployed hserves url host state hanswer, hreply]
      refine (sameOutcome_of_contentAnswer reply _ url).trans ?_
      exact ⟨fun h _ => ⟨rfl, h⟩, fun h => (h rfl).2⟩

/-- A host that has a page everywhere. -/
def textHost (_ : Unit) (_ : Request) : Reply × Unit := (.answered 200 (.ofText "<p>Hello</p>"), ())

/-- Both clients fetch the page at an address that is written as usual. -/
theorem fetch_sameOutcome_of_marked :
    let settings := (Service.withToken "secret").settings
    let direct := settings.clientVia (settings.directTransport none "")
    let proxied := settings.clientVia (Settings.proxyTransport "https://builder.example/")
    SameOutcome
      ((direct.fetch "https://raw.githubusercontent.com/acme/widgets/main/index.html").toRemote.run textHost ()).1
      ((proxied.fetch "https://raw.githubusercontent.com/acme/widgets/main/index.html").toRemote.run
        (Service.deployed textHost) (Service.withToken "secret", ())).1 :=
  (fetch_sameOutcome_iff textHost () (Service.serves_withToken (by decide)).2 none rfl rfl).mpr fun _ =>
    ⟨by decide, by rintro body ⟨⟩, fun _ => ⟨_, Body.text_ofText _⟩⟩

/-- At an address with the host in capitals only the client of the host fetches it. -/
theorem not_fetch_sameOutcome :
    ¬∀ (host : Unit → Request → Reply × Unit) (url : String) (request : Request),
      Client.contentRequest url = .ok request →
      let settings := (Service.withToken "secret").settings
      let direct := settings.clientVia (settings.directTransport none "")
      let proxied := settings.clientVia (Settings.proxyTransport "https://builder.example/")
      SameOutcome ((direct.fetch url).toRemote.run host ()).1
        ((proxied.fetch url).toRemote.run (Service.deployed host) (Service.withToken "secret", ())).1 := by
  intro h
  obtain ⟨url, htrusted, hrefused, request, hrequest⟩ : ∃ url,
      Address.isTrusted (Service.withToken "secret").settings.trustedHosts url = true ∧
      Service.isFetched (Service.withToken "secret").settings url = false ∧
      ∃ request, Client.contentRequest url = .ok request :=
    ⟨"https://RAW.GITHUBUSERCONTENT.COM/acme/widgets/main/index.html", rfl, rfl, _, rfl⟩
  have hsame := h textHost url request hrequest
  dsimp only at hsame
  rw [fetch_of_trusted htrusted hrequest, Fetch.run_ask, run_fetch_refused (Service.serves_withToken (by decide)).2 hrefused] at hsame
  exact not_sameOutcome_fetched (textHost () request).1 _ hsame

end Showcase
