import Showcase.Proofs.Transport.Deployment

/-!
# The guard of the builder

Once a token is set for administrators, a request to build components is let through or turned away by the token in its
headers alone. A request that is turned away learns nothing: what it is answered depends neither on its body nor on the
host, which is not asked. A request that is let through is served as if no token were set, and the proxy serves everyone
alike.
-/

namespace Showcase

open Network

namespace Service

/-! ## Tokens in headers -/

/-- A text as the value of a header, one byte for each character. -/
def HeaderValue.ofCharacters (s : String) : HeaderValue := ⟨s.toList.map fun c => UInt8.ofNat c.toNat⟩

/-- Such a value is read as the text, if all of its characters fit into a byte. -/
theorem latin1_ofCharacters {s : String} (hfits : ∀ c ∈ s.toList, c.toNat < 256) :
    Text.latin1 (HeaderValue.ofCharacters s).bytes = s.toList := by
  have hread : ∀ c ∈ s.toList, Char.ofNat (UInt8.ofNat c.toNat).toNat = c := by
    intro c hc
    have hsmall : c.toNat % 256 = c.toNat := Nat.mod_eq_of_lt (hfits c hc)
    rw [UInt8.toNat_ofNat', hsmall, Char.ofNat_toNat]
  rw [Text.latin1, HeaderValue.ofCharacters, List.map_map]
  exact (List.map_congr_left hread).trans (List.map_id _)

/-- The token that the headers of a request present. -/
def presented? (headers : Headers) : Option (List Char) := headerOf? headers adminHeader

/-- A token is presented in its header whether its characters are all ASCII or not. -/
theorem presented?_ofCharacters {token : String} (hfits : ∀ c ∈ token.toList, c.toNat < 256) :
    presented? [("X-Admin-Token", .ofCharacters token)] = some token.toList := by
  have hname : (lowercase "X-Admin-Token" == adminHeader) = true := by decide
  rw [presented?, headerOf?, List.find?_cons_of_pos (by exact hname), Option.map_some, latin1_ofCharacters hfits]

/-- A header holds nothing but characters that fit into a byte, so these are the tokens that can be presented at all. -/
theorem presentable_iff (token : String) :
    (∃ headers, presented? headers = some token.toList) ↔ ∀ c ∈ token.toList, c.toNat < 256 := by
  constructor
  · rintro ⟨headers, hpresented⟩ c hc
    obtain ⟨header, -, hread⟩ := Option.map_eq_some_iff.mp hpresented
    rw [← hread, Text.latin1, List.mem_map] at hc
    obtain ⟨byte, -, rfl⟩ := hc
    have hbyte : byte.toNat < 256 := byte.toNat_lt
    have hvalid : byte.toNat.isValidChar := .inl (by omega)
    have hcode : (Char.ofNat byte.toNat).toNat = byte.toNat := by
      rw [Char.ofNat, dif_pos hvalid]
      rfl
    rwa [hcode]
  · intro hfits
    exact ⟨_, presented?_ofCharacters hfits⟩

/-! ## What becomes of a request -/

/-- A request for a route. -/
def Route.request (route : Route) (headers : Headers) (body : Option Json) : Request :=
  ⟨route.method, route.path, headers, body⟩

/-- A request for a route is turned away by its headers or answered whatever they are. -/
theorem respond_request (service : Service) (route : Route) (headers : Headers) (body : Option Json) :
    service.respond (route.request headers body) =
      if route.isGuarded && !isAdmin service.settings headers then (.done (.ok .unauthorized), service)
      else service.admitted route body := by
  simp only [respond, Route.request, ofPath?_path, ne_eq, not_true_eq_false, if_false]
  rfl

theorem path_of_ofPath? {path : String} {route : Route} (h : Route.ofPath? path = some route) : route.path = path := by
  have hfound := List.find?_some h
  exact eq_of_beq hfound

/-- A request is answered whatever its headers are, unless it is for a route that is guarded. -/
theorem respond_of_unguarded (service : Service) (request : Request) (others : Headers)
    (hopen : ∀ route, Route.ofPath? request.path = some route → route.isGuarded = false) :
    service.respond { request with headers := others } = service.respond request := by
  unfold respond
  dsimp only
  cases hroute : Route.ofPath? request.path with
  | none => rfl
  | some route => simp only [hopen route hroute, Bool.false_and]

/-- The guarded routes are those that build components. -/
theorem isGuarded_eq (route : Route) : route.isGuarded = beginsWith route.path "/api/component/" := by
  cases route <;> decide

/-- The routes of the proxy. -/
theorem isProxy_eq (route : Route) : route.isProxy = beginsWith route.path "/api/github/" := by
  cases route <;> decide

theorem isGuarded_of_isProxy {route : Route} (h : route.isProxy = true) : route.isGuarded = false := by
  rw [Route.isGuarded, h, Bool.not_true, Bool.and_false]

/-- Once a token is set, administrators are those who present it. -/
theorem isAdmin_iff {settings : Settings} (htoken : settings.adminToken ≠ "") (headers : Headers) :
    isAdmin settings headers = true ↔ presented? headers = some settings.adminToken.toList := by
  have hset : settings.adminToken.isEmpty = false := by
    simpa using htoken
  rw [isAdmin, hset, Bool.false_or, beq_iff_eq]
  rfl

/-! ## The service without a guard -/

/-- The service with no token set for administrators. -/
def unguarded (service : Service) : Service :=
  { service with settings := { service.settings with adminToken := "" } }

/-- No route reads the token of administrators. -/
theorem serve_unguarded (service : Service) (route : Route) (body : Option Json) :
    serve service.unguarded.settings route body = serve service.settings route body := by
  cases route <;> rfl

theorem admitted_unguarded (service : Service) (route : Route) (body : Option Json) :
    service.unguarded.admitted route body =
      ((service.admitted route body).1, (service.admitted route body).2.unguarded) := by
  unfold admitted
  rw [serve_unguarded]
  cases serve service.settings route body with
  | error issues => rfl
  | ok work =>
    dsimp only
    have hexceeded : service.unguarded.exceeded? route = service.exceeded? route := rfl
    have hsettled : settled service.unguarded.settings work = settled service.settings work := rfl
    rw [hexceeded, hsettled]
    split
    · rfl
    · cases service.exceeded? route <;> rfl

/-- Without a guard every request for a route is let through. -/
theorem respond_unguarded (service : Service) (route : Route) (headers : Headers) (body : Option Json) :
    service.unguarded.respond (route.request headers body) = service.unguarded.admitted route body := by
  have hadmin : isAdmin service.unguarded.settings headers = true := rfl
  rw [respond_request, hadmin, Bool.not_true, Bool.and_false]
  rfl

/-! ## The guard -/

/-- A token is set for administrators. A request to build components, whatever its route, its body and the host, is
answered with one and the same refusal unless it presents the token, and neither asks the host for anything nor changes
the service. A request that presents the token is served as a service without a token serves it, whatever that one is
presented. What the proxy does is the same for all headers. -/
theorem guard_conceals (service : Service) (htoken : service.settings.adminToken ≠ "") (headers : Headers) :
    (∀ route : Route, beginsWith route.path "/api/component/" = true → ∀ body,
      (presented? headers ≠ some service.settings.adminToken.toList →
        let served := service.respond (route.request headers body)
        served.2 = service ∧
        ∀ {σ : Type} (host : σ → Network.Request → Reply × σ) (state : σ),
          served.1.run (Remote.noting host) (state, []) =
            (.ok ⟨401, .ofMembers [("detail", .ofString "Admin access required")]⟩, state, [])) ∧
      (presented? headers = some service.settings.adminToken.toList → ∀ others,
        let served := service.respond (route.request headers body)
        service.unguarded.respond (route.request others body) = (served.1, served.2.unguarded))) ∧
    (∀ request : Request, beginsWith request.path "/api/github/" = true →
      service.respond { request with headers := headers } = service.respond request) := by
  have hadmin := isAdmin_iff htoken headers
  constructor
  · intro route hroute body
    constructor
    · -- turned away before the body is looked at
      intro hrefused
      have hnot : isAdmin service.settings headers = false := Bool.not_eq_true _ |>.mp (hadmin.not.mpr hrefused)
      rw [respond_request, isGuarded_eq, hroute, hnot]
      exact ⟨rfl, fun host state => rfl⟩
    · -- let through, here and where no token is set
      intro hpresented others
      rw [respond_unguarded, respond_request, hadmin.mpr hpresented, Bool.not_true, Bool.and_false]
      exact admitted_unguarded service route body
  · intro request hproxy
    apply respond_of_unguarded
    intro route hroute
    rw [← path_of_ofPath? hroute, ← isProxy_eq] at hproxy
    exact isGuarded_of_isProxy hproxy

/-- A service whose administrators have a token. -/
def guardedBy (token : String) : Service := .on { Settings.standard with adminToken := token }

/-- A token in UTF-8 presents another text than the token, if it has a letter outside ASCII. -/
theorem presented?_utf8_accented : presented? [("X-Admin-Token", "café")] ≠ some "café".toList := by
  have hbytes : Text.utf8Bytes "café" = [0x63, 0x61, 0x66, 0xC3, 0xA9] := Text.utf8Bytes_ofList "café".toList
  have hpresented : presented? [("X-Admin-Token", "café")] = some (Text.latin1 (Text.utf8Bytes "café")) := rfl
  rw [hpresented, hbytes]
  decide

/-- A token with a letter outside ASCII. Sent with a byte for each character it is the token, and the request is served;
sent in UTF-8 it is not, and the request is refused. -/
theorem guard_conceals_accented :
    let service := guardedBy "café"
    let body := some (.ofBindings [("input", "acme/widgets")])
    let host := fun (_ : Unit) (_ : Network.Request) => (Reply.failed "", ())
    let served := service.respond (Route.resolveRepository.request [("X-Admin-Token", .ofCharacters "café")] body)
    let refused := service.respond (Route.resolveRepository.request [("X-Admin-Token", "café")] body)
    (guardedBy "").respond (Route.resolveRepository.request [] body) = (served.1, served.2.unguarded) ∧
      refused.1.run (Remote.noting host) ((), []) = (.ok .unauthorized, (), []) := by
  intro service body host served refused
  have hset : service.settings.adminToken ≠ "" := by decide
  have hroute : beginsWith Route.resolveRepository.path "/api/component/" = true := by decide
  constructor
  · have hfits : ∀ c ∈ "café".toList, c.toNat < 256 := by simp
    exact ((guard_conceals service hset _).1 .resolveRepository hroute body).2 (presented?_ofCharacters hfits) []
  · exact (((guard_conceals service hset _).1 .resolveRepository hroute body).1 presented?_utf8_accented).2 host ()

end Service

end Showcase
