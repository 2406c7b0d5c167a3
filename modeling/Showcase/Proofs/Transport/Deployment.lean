import Showcase.Proofs.Json.RoundTrip
import Showcase.Proofs.Network.Remote
import Showcase.Service.Basic

/-!
# Clients of a deployment

A client of a deployment sends its requests to the service, which serves them with requests of its own to the host. So
the service and the host together answer the client, and what the client makes of the answers can be compared with what
a client makes of the answers of the host alone. The service always answers; and on the way from the client to the
service and back, bodies that can be read at all arrive as they were sent.
-/

namespace Showcase

open Network

/-! ## Outcomes -/

/-- Two results that a caller acts on in the same way: one value, or typed failures of one kind with one status. -/
inductive SameOutcome {α : Type} : Fallible α → Fallible α → Prop where
  | value (x : α) : SameOutcome (.ok x) (.ok x)
  | failure {first second : EngineError} (hkind : first.cause.name = second.cause.name)
      (hstatus : first.status = second.status) : SameOutcome (.error (.engine first)) (.error (.engine second))

/-- The status that a transport failure is reported with is one to report again. -/
theorem status_transport_status (status : Option Int) :
    (Cause.transport (some (Cause.transport status).status)).status = (Cause.transport status).status := by
  cases status with
  | none => rfl
  | some answered =>
    by_cases hzero : answered = 0
    · subst hzero
      rfl
    · have hanswered : (Cause.transport (some answered)).status = answered := if_neg hzero
      rw [hanswered, hanswered]

/-! ## The service in the place of the host -/

namespace Service

/-- The body of a request as it is received; one that cannot be read counts as none. -/
def received (body : Option Json) : Option Json := body.bind fun value => (Body.ofJson value).json.toOption

/-- What a request to the service is replied: it is served against the host, and the answer is sent. -/
def deployed {σ : Type} (host : σ → Network.Request → Reply × σ) (state : Service × σ) (request : Network.Request) :
    Reply × (Service × σ) :=
  let served := state.1.respond ⟨request.method.name, request.address.path, [], received request.body⟩
  match served.1.run host state.2 with
  | (.ok answer, after) => (.answered answer.status (.ofJson answer.body), (served.2, after))
  | (.error failure, after) => (.failed failure.message, (served.2, after))

variable {σ : Type}

/-- The answer to a failure is an answer. -/
theorem run_settled (settings : Settings) (work : Remote Answer) (host : σ → Network.Request → Reply × σ) (state : σ) :
    (settled settings work).run host state =
      (.ok (Answer.ofResult (isDeveloping settings) (work.run host state).1), (work.run host state).2) := by
  rw [settled, Remote.run_attempt_andThen]
  rfl

/-- A request that was let through is answered, whatever the host does. -/
theorem run_admitted (service : Service) (route : Route) (body : Option Json)
    (host : σ → Network.Request → Reply × σ) (state : σ) :
    ∃ answer, ((service.admitted route body).1.run host state).1 = .ok answer := by
  -- what is served settles, whether it ends with a value or a failure
  unfold admitted
  split
  · exact ⟨_, rfl⟩
  split
  · exact ⟨_, by rw [run_settled]⟩
  dsimp only
  split
  · exact ⟨_, rfl⟩
  · exact ⟨_, by rw [run_settled]⟩

/-- The service answers every request, whatever the host does. -/
theorem run_respond (service : Service) (request : Service.Request) (host : σ → Network.Request → Reply × σ)
    (state : σ) : ∃ answer, ((service.respond request).1.run host state).1 = .ok answer := by
  unfold respond
  dsimp only
  split
  · exact ⟨_, rfl⟩
  split
  · exact ⟨_, rfl⟩
  split
  · exact ⟨_, rfl⟩
  · exact run_admitted _ _ _ _ _

/-! ## The routes of the proxy -/

/-- A deployment that serves a route of its proxy: it has a token, none of its limits is reached, and requests to its
address reach the route. -/
structure Serves (service : Service) (baseUrl endpoint : String) (route : Route) : Prop where
  token : service.settings.token ≠ ""
  limit : service.exceeded? route = none
  reached : ∃ address, Address.ofText (withoutTrailingSlashes baseUrl ++ "/api/github/" ++ endpoint) = .ok address ∧
    address.path = route.path

/-- A service with a token that was not asked yet. -/
def withToken (token : String) : Service := .on { Settings.standard with token := token }

theorem limits_on_standard : (on .standard).limits = [⟨60, 1, .minute⟩] := by
  have hset : Settings.standard.rateLimit = "60/minute" := rfl
  rw [on, hset]
  decide

/-- Such a service serves both routes of the proxy at the address of a host. -/
theorem serves_withToken {token : String} (htoken : token ≠ "") :
    (withToken token).Serves "https://builder.example/" "browse" .proxyListing ∧
    (withToken token).Serves "https://builder.example/" "content" .proxyContent := by
  have hlimit (route : Route) : (withToken token).exceeded? route = none := by
    rw [exceeded?, show (withToken token).limits = (on .standard).limits from rfl, limits_on_standard]
    rfl
  exact ⟨⟨htoken, hlimit _, _, rfl, rfl⟩, ⟨htoken, hlimit _, _, rfl, rfl⟩⟩

theorem filled?_of_isEmpty {s : String} (h : s.isEmpty = true) : filled? (some (.text s)) = none := by
  simp [filled?, Option.filter, h]

theorem filled?_text {s : String} (h : s ≠ "") : filled? (some (.text s)) = some (.text s) := by
  simp [filled?, Option.filter, h]

theorem ofPath?_path (route : Route) : Route.ofPath? route.path = some route := by
  cases route <;> rfl

theorem received_ofBindings {first : String × String} {others : List (String × String)}
    (hnames : ((first :: others).map Prod.fst).Nodup) :
    received (some (.ofBindings (first :: others))) = some (.ofBindings (first :: others)) := by
  have htravels : (Json.ofBindings (first :: others)).Travels := by
    refine Json.Travels.ofMembers ?_ ?_
    · rw [List.map_map]
      exact hnames
    · intro member hmember
      rcases List.mem_map.mp hmember with ⟨binding, -, rfl⟩
      exact .text _
  have hread := htravels.json_ofJson
  simp only [received, Option.bind_some]
  rw [Json.ofBindings, Json.ofMembers, List.map_cons, List.map_cons, hread]
  rfl

/-- An answer that reports success is read as it was sent. -/
theorem json_success {members : List (String × Json)} (hnames : ("success" :: members.map Prod.fst).Nodup)
    (hvalues : ∀ member ∈ members, member.2.Travels) :
    (Body.ofJson (Answer.success members).body).json = .ok (Answer.success members).body := by
  have htravels : (Answer.success members).body.Travels :=
    Json.Travels.ofMembers hnames (List.forall_mem_cons.mpr ⟨.bool true, hvalues⟩)
  exact htravels.json_ofJson

/-- A request of a client to a route that serves it is replied what the service answers after its work. -/
theorem Serves.deployed_proxyRequest {service : Service} {baseUrl endpoint : String} {route : Route}
    (h : Serves service baseUrl endpoint route) (hproxy : route.isProxy = true) {first : String × String}
    {others : List (String × String)} (hnames : ((first :: others).map Prod.fst).Nodup) {work : Remote Answer}
    (hserve : serve service.settings route (some (.ofBindings (first :: others))) = .ok work)
    (host : σ → Network.Request → Reply × σ) (state : σ) :
    ∃ request, Client.proxyRequest (withoutTrailingSlashes baseUrl) endpoint (first :: others) = .ok request ∧
      ((deployed host (service, state) request).1 =
        let answer := Answer.ofResult (isDeveloping service.settings) (work.run host state).1
        .answered answer.status (.ofJson answer.body)) := by
  rcases h.reached with ⟨address, haddress, hpath⟩
  refine ⟨⟨.post, address, none, none, none, some (.ofBindings (first :: others))⟩, ?_, ?_⟩
  · rw [Client.proxyRequest, haddress]
    rfl
  · have hmethod : "POST" = route.method := by
      cases route <;> first | rfl | cases hproxy
    have hguard : route.isGuarded = false := by
      simp [Route.isGuarded, hproxy]
    -- the request passes every guard of the service on its way to the route
    have hresponse : service.respond ⟨"POST", address.path, [], some (.ofBindings (first :: others))⟩ =
        (settled service.settings work, { service with asked := route :: service.asked }) := by
      simp only [respond, admitted, hpath, ofPath?_path, ← hmethod, ne_eq, not_true_eq_false, if_false, hguard,
        Bool.false_and, Bool.false_eq_true, hserve, hproxy, Bool.not_true, h.limit]
    simp only [deployed, Method.name, received_ofBindings hnames, hresponse, run_settled]

end Service

end Showcase
