import Showcase.Service.Builder
import Showcase.Service.Limit
import Showcase.Service.Proxy

/-!
# The service

The service takes requests on a few paths. Requests that build components are for administrators once a token is set
for them; requests to the proxy are limited in number. A request is checked in this order: its path, its method, the
credentials of an administrator, the form of its body, and the limit. The body of a request is a JSON value here, or
none: what is no JSON at all is turned away before the credentials are looked at.

The limits of the proxy are those that were set when the service started. They are counted for requests from one place
that come in the shortest of their spans of time.
-/

namespace Showcase

open Network

namespace Service

/-! ## Routes -/

/-- What can be asked for. -/
inductive Route where
  | root
  | health
  | readiness
  | proxyListing
  | proxyContent
  | resolveRepository
  | browse
  | validate
  | parse
  | parseFolder
  | detectVariables
  | substitute
  | staticPreview
  | livePreview
deriving DecidableEq, Repr

namespace Route

/-- The path of a route. -/
def path : Route → String
  | root => "/"
  | health => "/health"
  | readiness => "/readiness"
  | proxyListing => "/api/github/browse"
  | proxyContent => "/api/github/content"
  | resolveRepository => "/api/component/resolve-repository"
  | browse => "/api/component/browse"
  | validate => "/api/component/validate"
  | parse => "/api/component/parse"
  | parseFolder => "/api/component/parse-folder"
  | detectVariables => "/api/component/detect-variables"
  | substitute => "/api/component/substitute"
  | staticPreview => "/api/component/preview"
  | livePreview => "/api/component/preview/dynamic"

/-- All routes. -/
def all : List Route :=
  [root, health, readiness, proxyListing, proxyContent, resolveRepository, browse, validate, parse, parseFolder,
    detectVariables, substitute, staticPreview, livePreview]

/-- The route of a path. -/
def ofPath? (path : String) : Option Route := all.find? fun route => route.path == path

/-- Whether a route tells about the service itself. -/
def isPublic : Route → Bool
  | root | health | readiness => true
  | _ => false

/-- Whether a route belongs to the proxy. -/
def isProxy : Route → Bool
  | proxyListing | proxyContent => true
  | _ => false

/-- Whether a route is for administrators. -/
def isGuarded (route : Route) : Bool := !route.isPublic && !route.isProxy

/-- How a route is asked. -/
def method (route : Route) : String := if route.isPublic then "GET" else "POST"

end Route

/-! ## Administrators -/

/-- The header that holds the token of an administrator. -/
def adminHeader : String := "x-admin-token"

/-- The value of a header, as it is sent. -/
structure HeaderValue where
  bytes : List UInt8
deriving DecidableEq, Repr

/-- A text as the value of a header. -/
def HeaderValue.ofText (s : String) : HeaderValue := ⟨Text.utf8Bytes s⟩

instance : Coe String HeaderValue := ⟨HeaderValue.ofText⟩

/-- The headers of a request, by name. -/
abbrev Headers := List (String × HeaderValue)

/-- A header of a request. Its bytes are read as one character each. -/
def headerOf? (headers : Headers) (name : String) : Option (List Char) :=
  (headers.find? fun header => lowercase header.1 == name).map fun header => Text.latin1 header.2.bytes

/-- Whether a request is that of an administrator. Everyone is one while no token is set. -/
def isAdmin (settings : Settings) (headers : Headers) : Bool :=
  settings.adminToken.isEmpty || headerOf? headers adminHeader == some settings.adminToken.toList

/-! ## The state of the service -/

/-- The version of the service. -/
def version : String := "1.0.0"

/-- The name of the service. -/
def name : String := "Component Engine"

/-- Whether something is in order, in a word. -/
def checkWord (holds : Bool) (otherwise : String) : Json := .ofString (if holds then "ok" else otherwise)

/-- What is checked about the service. -/
def checks (settings : Settings) : Json :=
  .ofMembers [
    ("github_token", .ofMembers [("configured", .bool (!settings.token.isEmpty)),
      ("status", checkWord (!settings.token.isEmpty) "missing")]),
    ("github_transport", .ofMembers [("transport", .ofString settings.chosenTransport),
      ("status", checkWord settings.isTransportKnown "error")])]

/-- What the service is. -/
def rootAnswer (settings : Settings) : Answer :=
  .ok [("service", .ofString name), ("version", .ofString version), ("status", .ofString "running"),
    ("github_transport", .ofString settings.chosenTransport)]

/-- How the service is. -/
def healthAnswer (settings : Settings) : Answer :=
  let healthy := !settings.token.isEmpty && settings.isTransportKnown
  .ok [("status", .ofString (if healthy then "healthy" else "degraded")), ("version", .ofString version),
    ("checks", checks settings)]

/-- Whether the service can be used. -/
def readinessAnswer (settings : Settings) : Answer :=
  if settings.isTransportKnown then .ok [("status", .ofString "ready")]
  else ⟨503, .ofMembers [("status", .ofString "not_ready"), ("checks", checks settings)]⟩

/-! ## Serving -/

/-- Serve the body of a request, or find out what is wrong with it. -/
def serve (settings : Settings) (route : Route) (body : Option Json) : Checked (Remote Answer) :=
  let located (run : SourceLocation → Remote Answer) :=
    (readBody (SourceLocation.ofMembers settings.defaultBranch) body).map run
  match route with
  | .root => .ok (.done (.ok (rootAnswer settings)))
  | .health => .ok (.done (.ok (healthAnswer settings)))
  | .readiness => .ok (.done (.ok (readinessAnswer settings)))
  | .proxyListing => (readBody ListingForm.ofMembers body).map (Service.proxyListing settings)
  | .proxyContent => (readBody ContentForm.ofMembers body).map (Service.proxyContent settings)
  | .resolveRepository =>
    (readBody ReferenceForm.ofMembers body).map fun form => .done (.ok (Service.resolveRepository form))
  | .browse => located (Service.browse settings)
  | .validate => located (Service.validate settings)
  | .parse => located (Service.parse settings)
  | .parseFolder => (readBody FolderForm.ofMembers body).map fun form => .done (Service.parseFolder form)
  | .detectVariables => (readBody DetectionForm.ofMembers body).map fun form => .done (Service.detectVariables form)
  | .substitute => (readBody SubstitutionForm.ofMembers body).map fun form => .done (.ok (Service.substitute form))
  | .staticPreview => (readBody PreviewForm.ofMembers body).map fun form => .done (Service.staticPreview form)
  | .livePreview => (readBody LiveForm.ofMembers body).map fun form => .done (Service.livePreview settings form)

/-- The answer to a request beyond a limit. -/
def overLimit (limit : RateLimit) : Answer := .refusal 429 ("Rate limit exceeded: " ++ limit.message) []

/-- A request to the service. -/
structure Request where
  method : String
  path : String
  headers : Headers
  body : Option Json

end Service

/-- The service: its settings, the limits of its proxy, and the routes of the proxy that were asked since the limits
began to count. -/
structure Service where
  settings : Settings
  limits : List Service.RateLimit
  asked : List Service.Route

namespace Service

/-- A service that was not asked yet. -/
def on (settings : Settings) : Service := ⟨settings, RateLimit.ofText settings.rateLimit, []⟩

/-- The limit that the next request for a route goes beyond, the first of them. -/
def exceeded? (service : Service) (route : Route) : Option RateLimit :=
  service.limits.find? fun limit => limit.amount ≤ service.asked.count route

/-- What a request is answered, failures included. -/
def settled (settings : Settings) (work : Remote Answer) : Remote Answer :=
  work.attempt.andThen fun result => .done (.ok (Answer.ofResult (isDeveloping settings) result))

/-- Answer a request for a route that was let through. A request counts as soon as its body has the form of the route. -/
def admitted (service : Service) (route : Route) (body : Option Json) : Remote Answer × Service :=
  match serve service.settings route body with
  | .error issues => (.done (.ok (.ofIssues (isDeveloping service.settings) body issues)), service)
  | .ok work =>
    if !route.isProxy then (settled service.settings work, service)
    else
      let counted := { service with asked := route :: service.asked }
      match service.exceeded? route with
      | some limit => (.done (.ok (overLimit limit)), counted)
      | none => (settled service.settings work, counted)

/-- Answer a request. -/
def respond (service : Service) (request : Service.Request) : Remote Answer × Service :=
  let refuse (answer : Answer) : Remote Answer × Service := (.done (.ok answer), service)
  match Route.ofPath? request.path with
  | none => refuse .notFound
  | some route =>
    if request.method ≠ route.method then refuse .methodNotAllowed
    else if route.isGuarded && !isAdmin service.settings request.headers then refuse .unauthorized
    else service.admitted route request.body

end Service

end Showcase
