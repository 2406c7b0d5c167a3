import Showcase.Proofs.Network.Unsigned
import Showcase.Proofs.Service.Guard
import Showcase.Proofs.Transport.Directory

/-!
# The token of the proxy

The proxy sends the token of the deployment to the host and to no one else. Its answers do not tell one token from
another, as long as the host does not: with two tokens the proxy asks for the same and answers the same, whatever the
replies are and whatever goes wrong. Without a token it asks for nothing. A request that lacks what the proxy needs, or
asks for an address that is not trusted, is refused before the token matters.
-/

namespace Showcase.Client

open Network

/-! ## Clients apart from their tokens -/

/-- A token of ASCII alone is sent as it is. -/
theorem headerToken_of_ascii {token : String} (hfilled : token ≠ "") (hascii : ∀ c ∈ token.toList, c.toNat < 128) :
    headerToken (some token) = .ok (some token) := by
  have hset : token.isEmpty = false := by
    simpa using hfilled
  have hnarrow : token.toList.dropWhile (fun c => !decide (c.toNat ≥ 128)) = [] := by
    rw [List.dropWhile_eq_nil_iff]
    intro c hc
    simpa using hascii c hc
  simp only [headerToken, hset, Bool.false_eq_true, if_false, hnarrow]

/-- A request for a listing is the same for every token that can be sent, apart from the token. -/
theorem unsigned_listingRequest {token : Option String} (htoken : headerToken token = .ok token)
    (apiUrl owner repo path branch : String) :
    (listingRequest token apiUrl owner repo path branch).map Request.unsigned =
      listingRequest none apiUrl owner repo path branch := by
  unfold listingRequest
  have hnone : headerToken none = .ok none := rfl
  rw [htoken, hnone]
  cases Address.ofText (apiUrl ++ "/repos/" ++ owner ++ "/" ++ repo ++ "/contents/" ++ path) with
  | error failure => rfl
  | ok written =>
    simp only [bind, Except.bind]
    cases written.withQuery "ref" branch with
    | error failure => rfl
    | ok address => simp only [pure, Except.pure, Except.map, Request.unsigned, ite_self]

/-- A request for a content bears no token. -/
theorem unsigned_contentRequest (url : String) : (contentRequest url).map Request.unsigned = contentRequest url := by
  cases hrequest : contentRequest url with
  | error failure => rfl
  | ok request =>
    rw [contentRequest_cases hrequest]
    rfl

theorem unsigned_asking {α : Type} (request : Fallible Request) (read : Reply → Fallible α) :
    (asking request read).toRemote.unsigned = (asking (request.map Request.unsigned) read).toRemote := by
  cases request <;> rfl

variable {token : Option String} {apiUrl : String} {hosts : List String} {branch : String}

/-- A client that goes to the host lists as it does without a token, apart from the token. -/
theorem unsigned_listDirectory (htoken : headerToken token = .ok token) (owner repo path : String)
    (chosen : Option String) :
    ((⟨.direct token apiUrl, hosts, branch⟩ : Client).listDirectory owner repo path chosen).unsigned =
      (⟨.direct none apiUrl, hosts, branch⟩ : Client).listDirectory owner repo path chosen := by
  unfold listDirectory
  split
  · rfl
  · rw [Remote.unsigned_andThen]
    simp only [listEntries, unsigned_asking, unsigned_listingRequest htoken, Remote.unsigned_done]

/-- It fetches without a token anyway. -/
theorem unsigned_fetch (url : String) :
    ((⟨.direct token apiUrl, hosts, branch⟩ : Client).fetch url).toRemote.unsigned =
      ((⟨.direct none apiUrl, hosts, branch⟩ : Client).fetch url).toRemote := by
  unfold fetch
  dsimp only
  split
  · rw [unsigned_asking, unsigned_contentRequest]
  · rfl

end Showcase.Client

namespace Showcase

open Network

/-! ## Deployments with another token -/

/-- The settings with another token. -/
def Settings.bearing (settings : Settings) (token : String) : Settings := { settings with token := token }

namespace Service

/-- A token that can be sent: it is not empty, and its characters are those of printable ASCII. -/
structure IsSendable (token : String) : Prop where
  filled : token ≠ ""
  printable : ∀ c ∈ token.toList, 0x20 ≤ c.toNat ∧ c.toNat ≤ 0x7E

theorem IsSendable.headerToken {token : String} (h : IsSendable token) :
    Client.headerToken (some token) = .ok (some token) := by
  refine Client.headerToken_of_ascii h.filled ?_
  intro c hc
  have hprintable := h.printable c hc
  omega

theorem isEmpty_bearing {token : String} (htoken : token ≠ "") (settings : Settings) :
    (settings.bearing token).token.isEmpty = false := by
  have hset : token.isEmpty = false := by
    simpa using htoken
  exact hset

theorem hostClient_bearing {token : String} (htoken : token ≠ "") (settings : Settings) :
    (settings.bearing token).hostClient =
      ⟨.direct (some token) (withoutTrailingSlashes settings.apiUrl), settings.trustedHosts, settings.defaultBranch⟩ := by
  have hset : Settings.filledToken (settings.bearing token).token = some token := by
    rw [Settings.filledToken, isEmpty_bearing htoken]
    rfl
  rw [Settings.hostClient, hset]
  rfl

variable {first second : String}

/-- Apart from the tokens, a listing with one token is the listing with another. -/
theorem unsigned_proxyListing (hfirst : IsSendable first) (hsecond : IsSendable second) (settings : Settings)
    (form : ListingForm) :
    (proxyListing (settings.bearing first) form).unsigned = (proxyListing (settings.bearing second) form).unsigned := by
  unfold proxyListing
  cases filled? form.owner with
  | none => rfl
  | some owner =>
    cases filled? form.repo with
    | none => rfl
    | some repo =>
      simp only [isEmpty_bearing hfirst.filled, isEmpty_bearing hsecond.filled, Bool.false_eq_true, if_false]
      cases form.half? with
      | some point => rfl
      | none =>
        -- both are a listing without a token, apart from the token
        simp only [hostClient_bearing hfirst.filled, hostClient_bearing hsecond.filled, Remote.unsigned_andThen,
          Remote.unsigned_attempt, Client.unsigned_listDirectory hfirst.headerToken,
          Client.unsigned_listDirectory hsecond.headerToken]
        rfl

/-- Apart from the tokens, a content with one token is the content with another. -/
theorem unsigned_proxyContent (hfirst : IsSendable first) (hsecond : IsSendable second) (settings : Settings)
    (form : ContentForm) :
    (proxyContent (settings.bearing first) form).unsigned = (proxyContent (settings.bearing second) form).unsigned := by
  unfold proxyContent
  cases filled? form.url with
  | none => rfl
  | some url =>
    have htrust : isFetched (settings.bearing first) url.shown = isFetched (settings.bearing second) url.shown := rfl
    dsimp only
    rw [htrust]
    split
    · rfl
    · simp only [isEmpty_bearing hfirst.filled, isEmpty_bearing hsecond.filled, Bool.false_eq_true, if_false]
      cases url.half? with
      | some point => rfl
      | none =>
        simp only [hostClient_bearing hfirst.filled, hostClient_bearing hsecond.filled, Remote.unsigned_andThen,
          Remote.unsigned_attempt, Client.unsigned_fetch]
        rfl

/-- What a route of the proxy serves: the issues of a body, a listing or a content. Which of them it is, and for which
form, does not depend on the settings. -/
theorem serve_proxy_cases {route : Route} (hroute : route.isProxy = true) (body : Option Json) :
    (∃ issues, ∀ settings, serve settings route body = .error issues) ∨
      (∃ form, ∀ settings, serve settings route body = .ok (proxyListing settings form)) ∨
      ∃ form, ∀ settings, serve settings route body = .ok (proxyContent settings form) := by
  cases route with
  | proxyListing =>
    simp only [serve]
    cases readBody ListingForm.ofMembers body with
    | error issues => exact .inl ⟨issues, fun _ => rfl⟩
    | ok form => exact .inr (.inl ⟨form, fun _ => rfl⟩)
  | proxyContent =>
    simp only [serve]
    cases readBody ContentForm.ofMembers body with
    | error issues => exact .inl ⟨issues, fun _ => rfl⟩
    | ok form => exact .inr (.inr ⟨form, fun _ => rfl⟩)
  | _ => cases hroute

/-! ## What the proxy refuses -/

/-- The proxy refuses a body that has the form it asks for: it lacks the owner, the repository or the address, or its
address is none that is fetched from. -/
inductive Refuses (settings : Settings) (body : Option Json) : Route → Answer → Prop where
  | unplaced {form : ListingForm} (hform : readBody ListingForm.ofMembers body = .ok form)
      (hmissing : filled? form.owner = none ∨ filled? form.repo = none) :
      Refuses settings body .proxyListing (.refusal 400 "Missing required fields: owner and repo" [])
  | unaddressed {form : ContentForm} (hform : readBody ContentForm.ofMembers body = .ok form)
      (hmissing : filled? form.url = none) :
      Refuses settings body .proxyContent (.refusal 400 "Missing required field: url" [])
  | untrusted {form : ContentForm} {url : JsonString} (hform : readBody ContentForm.ofMembers body = .ok form)
      (hgiven : filled? form.url = some url) (hrefused : isFetched settings url.shown = false) :
      Refuses settings body .proxyContent (.refusal 400 "Invalid URL domain" [])

/-- What is refused is refused with every token, and without one. -/
theorem Refuses.serve {settings : Settings} {body : Option Json} {route : Route} {answer : Answer}
    (h : Refuses settings body route answer) (token : String) :
    serve (settings.bearing token) route body = .ok (.done (.ok answer)) := by
  cases h with
  | unplaced hform hmissing =>
    simp only [Service.serve, hform]
    refine congrArg Except.ok ?_
    unfold proxyListing
    rcases hmissing with howner | hrepo
    · rw [howner]
    · rw [hrepo]
      cases filled? _ <;> rfl
  | unaddressed hform hmissing =>
    simp only [Service.serve, hform]
    refine congrArg Except.ok ?_
    unfold proxyContent
    rw [hmissing]
  | untrusted hform hgiven hrefused =>
    have hrefused' : isFetched (settings.bearing token) _ = false := hrefused
    simp only [Service.serve, hform]
    refine congrArg Except.ok ?_
    unfold proxyContent
    rw [hgiven]
    dsimp only
    rw [hrefused']
    rfl

/-- A body without the form that is asked for is found out with every token, and without one. -/
theorem serve_bearing_error {settings : Settings} {route : Route} (hroute : route.isProxy = true) {body : Option Json}
    {issues : List Issue} (h : serve settings route body = .error issues) (token : String) :
    serve (settings.bearing token) route body = .error issues := by
  obtain ⟨others, hserve⟩ | ⟨form, hserve⟩ | ⟨form, hserve⟩ := serve_proxy_cases hroute body
  · rw [hserve] at h ⊢
    exact h
  · rw [hserve] at h
    cases h
  · rw [hserve] at h
    cases h

/-- Without a token nothing is asked for. -/
theorem serve_of_no_token {settings : Settings} (hnone : settings.token = "") {route : Route}
    (hroute : route.isProxy = true) {body : Option Json} {work : Remote Answer}
    (h : serve settings route body = .ok work) : ∃ answer, work = .done (.ok answer) := by
  obtain ⟨others, hserve⟩ | ⟨form, hserve⟩ | ⟨form, hserve⟩ := serve_proxy_cases hroute body
  · rw [hserve] at h
    cases h
  · rw [hserve] at h
    obtain rfl := Except.ok.inj h
    unfold proxyListing
    split
    · rw [hnone]
      exact ⟨_, rfl⟩
    · exact ⟨_, rfl⟩
  · rw [hserve] at h
    obtain rfl := Except.ok.inj h
    unfold proxyContent
    split
    · exact ⟨_, rfl⟩
    split
    · exact ⟨_, rfl⟩
    · rw [hnone]
      exact ⟨_, rfl⟩

/-! ## Requests to the proxy -/

/-- The service with another token. -/
def bearing (service : Service) (token : String) : Service :=
  { service with settings := service.settings.bearing token }

/-- What comes of a request to the proxy: the answer, the state that the host is left in, and the requests to it. -/
def proxied {σ : Type} (service : Service) (route : Route) (headers : Headers) (body : Option Json)
    (host : σ → Network.Request → Reply × σ) (state : σ) : Fallible Answer × σ × List Network.Request :=
  (service.respond (route.request headers body)).1.run (Remote.noting host) (state, [])

/-- The proxy lets every request through, whatever its headers are. -/
theorem proxied_eq {σ : Type} {route : Route} (hroute : route.isProxy = true) (service : Service) (headers : Headers)
    (body : Option Json) (host : σ → Network.Request → Reply × σ) (state : σ) :
    service.proxied route headers body host state =
      (service.admitted route body).1.run (Remote.noting host) (state, []) := by
  rw [proxied, respond_request, isGuarded_of_isProxy hroute, Bool.false_and]
  rfl

/-- A body without the form that the proxy asks for is answered with its issues. -/
theorem admitted_of_error {service : Service} {route : Route} {body : Option Json} {issues : List Issue}
    (h : serve service.settings route body = .error issues) :
    (service.admitted route body).1 = .done (.ok (.ofIssues (isDeveloping service.settings) body issues)) := by
  rw [admitted, h]

/-- What is answered to the next request for a route, within the limits or beyond one. -/
def limited (service : Service) (route : Route) (answer : Answer) : Answer :=
  match service.exceeded? route with
  | some limit => overLimit limit
  | none => answer

/-- What is answered without the host is answered within the limits. -/
theorem admitted_of_done {service : Service} {route : Route} (hroute : route.isProxy = true) {body : Option Json}
    {answer : Answer} (h : serve service.settings route body = .ok (.done (.ok answer))) :
    (service.admitted route body).1 = .done (.ok (service.limited route answer)) := by
  rw [admitted, limited, h]
  dsimp only
  rw [hroute, Bool.not_true, if_neg Bool.false_ne_true]
  cases service.exceeded? route <;> rfl

/-- Apart from the tokens, what is served the same becomes the same: the limit is counted without the token. -/
theorem unsigned_admitted_of_serve {route : Route} (hroute : route.isProxy = true) {service : Service}
    {body : Option Json} {work copy : Remote Answer}
    (hwork : serve (service.bearing first).settings route body = .ok work)
    (hcopy : serve (service.bearing second).settings route body = .ok copy) (same : work.unsigned = copy.unsigned) :
    ((service.bearing first).admitted route body).1.unsigned =
      ((service.bearing second).admitted route body).1.unsigned := by
  have hexceeded : (service.bearing first).exceeded? route = (service.bearing second).exceeded? route := rfl
  unfold admitted
  rw [hwork, hcopy]
  dsimp only
  rw [hroute, Bool.not_true, if_neg Bool.false_ne_true, if_neg Bool.false_ne_true, hexceeded]
  cases (service.bearing second).exceeded? route with
  | some limit => rfl
  | none =>
    simp only [settled, Remote.unsigned_andThen, Remote.unsigned_attempt, same]
    rfl

/-- Apart from the tokens, a request to a service with one token becomes what it becomes with another. -/
theorem unsigned_admitted (hfirst : IsSendable first) (hsecond : IsSendable second) (service : Service) {route : Route}
    (hroute : route.isProxy = true) (body : Option Json) :
    ((service.bearing first).admitted route body).1.unsigned =
      ((service.bearing second).admitted route body).1.unsigned := by
  obtain ⟨issues, hserve⟩ | ⟨form, hserve⟩ | ⟨form, hserve⟩ := serve_proxy_cases hroute body
  · rw [admitted_of_error (hserve _), admitted_of_error (hserve _)]
    rfl
  · exact unsigned_admitted_of_serve hroute (hserve _) (hserve _)
      (unsigned_proxyListing hfirst hsecond service.settings form)
  · exact unsigned_admitted_of_serve hroute (hserve _) (hserve _)
      (unsigned_proxyContent hfirst hsecond service.settings form)

/-- The issues of a body are answered as such, unless they repeat what cannot be sent. -/
theorem status_ofIssues (developing : Bool) (body : Option Json) (issues : List Issue) :
    (Answer.ofIssues developing body issues).status =
      if Answer.unsendable? (Answer.report body issues) = none then 422 else 500 := by
  unfold Answer.ofIssues Answer.sending
  cases Answer.unsendable? (Answer.report body issues) <;> rfl

/-- A request to the proxy is answered. Against a host that does not look at tokens, any two tokens that can be sent make
no difference but for the tokens in the requests to the host. Without a token the host is not asked. It is not asked
either for a body that does not have the form that is asked for, nor for one that is refused; such a body is answered in
the same way with every token and without one. The first is answered with its issues, or with the failure to send what
they repeat; the second as a bad request as long as no limit is reached. -/
theorem proxy_blind (service : Service) {route : Route} (hroute : beginsWith route.path "/api/github/" = true)
    (headers : Headers) (body : Option Json) {σ : Type} (host : σ → Network.Request → Reply × σ) (state : σ) :
    (∀ token, ∃ answer, ((service.bearing token).proxied route headers body host state).1 = .ok answer) ∧
    (Remote.IsBlind host → ∀ first second, IsSendable first → IsSendable second →
      Remote.apart ((service.bearing first).proxied route headers body host state) =
        Remote.apart ((service.bearing second).proxied route headers body host state)) ∧
    ((service.bearing "").proxied route headers body host state).2 = (state, []) ∧
    (∀ token issues, serve service.settings route body = .error issues →
      let answer := Answer.ofIssues (isDeveloping service.settings) body issues
      answer.status = (if Answer.unsendable? (Answer.report body issues) = none then 422 else 500) ∧
      (service.bearing token).proxied route headers body host state = (.ok answer, state, [])) ∧
    ∀ token answer, Refuses service.settings body route answer →
      answer.status = 400 ∧
      (service.bearing token).proxied route headers body host state =
        (.ok (service.limited route answer), state, []) := by
  rw [← isProxy_eq] at hroute
  refine ⟨fun token => run_respond _ _ _ _, ?_⟩
  simp only [proxied_eq hroute]
  refine ⟨?_, ?_, ?_, ?_⟩
  · -- a blind host runs in one way what is one apart from tokens
    intro hblind first second hfirst hsecond
    exact hblind.apart_run (unsigned_admitted hfirst hsecond service hroute body) state
  · cases hserve : serve (service.settings.bearing "") route body with
    | error issues =>
      rw [admitted_of_error (show serve (service.bearing "").settings route body = .error issues from hserve)]
      rfl
    | ok work =>
      obtain ⟨answer, rfl⟩ := serve_of_no_token rfl hroute hserve
      rw [admitted_of_done hroute (show serve (service.bearing "").settings route body = _ from hserve)]
      rfl
  · intro token issues hissues
    have hserve : serve (service.bearing token).settings route body = .error issues :=
      serve_bearing_error hroute hissues token
    refine ⟨status_ofIssues _ _ _, ?_⟩
    rw [admitted_of_error hserve]
    rfl
  · intro token answer hrefuses
    constructor
    · cases hrefuses <;> rfl
    · have hserve : serve (service.bearing token).settings route body = .ok (.done (.ok answer)) :=
        hrefuses.serve token
      rw [admitted_of_done hroute hserve]
      rfl

/-- A host that cannot be reached. -/
def unreachable (_ : Unit) (_ : Network.Request) : Reply × Unit := (.failed "unreachable", ())

/-- What comes of a listing with a token, when the host cannot be reached. -/
def offlineListing (token : String) : Fallible Answer × Unit × List Network.Request :=
  ((on .standard).bearing token).proxied .proxyListing [] (some (.ofBindings [("owner", "acme"), ("repo", "widgets")]))
    unreachable ()

/-- What comes of a content with a token, when its address is none that is fetched from. -/
def foreignContent (token : String) : Fallible Answer × Unit × List Network.Request :=
  ((on .standard).bearing token).proxied .proxyContent [] (some (.ofBindings [("url", "https://example.org/")]))
    unreachable ()

/-- What comes of a content with a token, when its address is a number. -/
def numberedContent (token : String) (number : Json) : Fallible Answer × Unit × List Network.Request :=
  ((on .standard).bearing token).proxied .proxyContent [] (some (.ofMembers [("url", number)])) unreachable ()

/-- With two tokens a listing comes to the same, and each is sent in its request; without a token none is sent. An
address that is not trusted is refused with a token and without, and so is one that is a number: with its issue, or with
the failure to repeat a number that is not finite. -/
theorem proxy_blind_two_tokens :
    Remote.apart (offlineListing "first") = Remote.apart (offlineListing "second") ∧
      (offlineListing "first").2.2.map Network.Request.token = [some "first"] ∧
      (offlineListing "second").2.2.map Network.Request.token = [some "second"] ∧
      (offlineListing "").2 = ((), []) ∧
      ∀ token, foreignContent token = (.ok (.refusal 400 "Invalid URL domain" []), (), []) ∧
        (∃ answer, numberedContent token (.int 5) = (.ok answer, (), []) ∧ answer.status = 422) ∧
        ∃ answer, numberedContent token (.decimal (.finite false 1 999)) = (.ok answer, (), []) ∧
          answer.status = 500 := by
  have hlisting := proxy_blind (on .standard) (show beginsWith Route.proxyListing.path "/api/github/" = true by decide)
    [] (some (.ofBindings [("owner", "acme"), ("repo", "widgets")])) unreachable ()
  have hcontent := proxy_blind (on .standard) (show beginsWith Route.proxyContent.path "/api/github/" = true by decide)
    [] (some (.ofBindings [("url", "https://example.org/")])) unreachable ()
  have hnumbered (number : Json) := proxy_blind (on .standard)
    (show beginsWith Route.proxyContent.path "/api/github/" = true by decide) [] (some (.ofMembers [("url", number)]))
    unreachable ()
  refine ⟨?_, ?_, ?_, hlisting.2.2.1, fun token => ⟨?_, ?_, ?_⟩⟩
  · exact hlisting.2.1 (fun _ _ => rfl) "first" "second" ⟨by decide, by simp⟩ ⟨by decide, by simp⟩
  · rw [offlineListing, proxied_eq rfl]
    rfl
  · rw [offlineListing, proxied_eq rfl]
    rfl
  · have hrefuses : Refuses Settings.standard (some (.ofBindings [("url", "https://example.org/")])) .proxyContent
        (.refusal 400 "Invalid URL domain" []) :=
      .untrusted (show readBody ContentForm.ofMembers _ = .ok ⟨some "https://example.org/"⟩ from rfl) rfl (by decide)
    exact (hcontent.2.2.2.2 token _ hrefuses).2
  · obtain ⟨hstatus, hanswered⟩ := (hnumbered (.int 5)).2.2.2.1 token _ rfl
    exact ⟨_, hanswered, hstatus.trans (by decide)⟩
  · obtain ⟨hstatus, hanswered⟩ := (hnumbered (.decimal (.finite false 1 999))).2.2.2.1 token _ rfl
    exact ⟨_, hanswered, hstatus.trans (by decide)⟩

/-! ## Refusals of another kind -/

/-- The service after requests for a route with a body, one after the other. -/
def afterRequests (service : Service) (route : Route) (body : Option Json) : Nat → Service
  | 0 => service
  | n + 1 => ((service.afterRequests route body n).respond (route.request [] body)).2

/-- Every request counts, though it is refused. -/
theorem afterRequests_eq {service : Service} {route : Route} (hroute : route.isProxy = true) {body : Option Json}
    {answer : Answer} (hrefuses : Refuses service.settings body route answer) (n : Nat) :
    service.afterRequests route body n = { service with asked := List.replicate n route ++ service.asked } := by
  induction n with
  | zero => rfl
  | succ n ih =>
    have hserve : serve service.settings route body = .ok (.done (.ok answer)) := hrefuses.serve service.settings.token
    rw [afterRequests, ih, respond_request, isGuarded_of_isProxy hroute, Bool.false_and, if_neg Bool.false_ne_true,
      admitted, hserve]
    dsimp only
    rw [hroute, Bool.not_true, if_neg Bool.false_ne_true]
    cases exceeded? _ route <;> rfl

/-- A request without an owner is not always answered with the status of a bad request. One with a path that is a number
is answered with the issues of its body, and the last of sixty-one is beyond the limit. -/
theorem not_proxy_refuses_always :
    (¬∀ (members : List (JsonString × Json)) (answer : Answer), Json.member? members "owner" = none →
      ((on .standard).proxied .proxyListing [] (some (.obj members)) unreachable ()).1 = .ok answer →
        answer.status = 400) ∧
    ¬∀ (earlier : Nat) (answer : Answer),
      (((on .standard).afterRequests .proxyListing (some (.obj [])) earlier).proxied .proxyListing [] (some (.obj []))
        unreachable ()).1 = .ok answer → answer.status = 400 := by
  constructor
  · intro h
    have hissues := h [(.text "path", .int 5)]
      (.detail 422 (.arr [Issue.toJson ⟨[.member "body", .member "path"], .notText⟩])) rfl (by rw [proxied_eq rfl]; rfl)
    cases hissues
  · intro h
    have hrefuses : Refuses Settings.standard (some (.obj [])) .proxyListing
        (.refusal 400 "Missing required fields: owner and repo" []) :=
      .unplaced (show readBody ListingForm.ofMembers _ = .ok ⟨none, none, "", none⟩ from rfl) (.inl rfl)
    have hlate := h 60 (overLimit ⟨60, 1, .minute⟩) (by rw [afterRequests_eq rfl hrefuses, proxied_eq rfl]; rfl)
    cases hlate

end Service

end Showcase
