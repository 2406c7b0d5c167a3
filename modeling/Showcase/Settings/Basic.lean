import Showcase.Client
import Showcase.Number.Seconds
import Showcase.Preview.Document
import Showcase.Text.Quoted

/-!
# Settings

What a deployment can set: how the source host is reached, what is trusted, how previews wait for their runtime, and
who may use the service. Everything else is derived here: the way to the host that a deployment takes, the clients that
follow it, and the problems that keep a configuration from being used in production.
-/

namespace Showcase

/-- The settings of a deployment. -/
structure Settings where
  environment : String
  debug : Bool
  logLevel : String
  token : String
  apiUrl : String
  defaultBranch : String
  transport : String
  proxyUrl : String
  timeout : Double
  trustedHostList : String
  rateLimit : String
  pollInterval : Seconds
  pollAttempts : Int
  libraries : Preview.Libraries
  adminToken : String
  monitorAddress : Option String
  monitorEnvironment : String
  monitorRate : Double
  originList : String

namespace Settings

/-- The settings of a deployment that sets nothing. -/
def standard : Settings where
  environment := "development"
  debug := false
  logLevel := "INFO"
  token := ""
  apiUrl := "https://api.github.com"
  defaultBranch := "main"
  transport := "auto"
  proxyUrl := ""
  timeout := .ofInt 30
  trustedHostList := "githubusercontent.com,github.com"
  rateLimit := "60/minute"
  pollInterval := Preview.Patience.standard.interval
  pollAttempts := Preview.Patience.standard.attempts
  libraries := .standard
  adminToken := ""
  monitorAddress := none
  monitorEnvironment := "development"
  monitorRate := .ofDecimal false 1 (-1)
  originList := "http://localhost:3000,http://localhost:5173,http://127.0.0.1:3000,http://127.0.0.1:5173"

/-! ## Derived settings -/

/-- The hosts that contents are fetched from: the items of a list with commas, in small letters. -/
def trustedHosts (settings : Settings) : List String :=
  ((Text.splitAtChar ',' settings.trustedHostList.toList).filter fun host => !Text.allBlank host).map fun host =>
    String.ofList (Text.lower (Text.trim host))

/-- The way to the host that a deployment takes. Left to itself it goes through a proxy when one is set. -/
def chosenTransport (settings : Settings) : String :=
  let word := lowercase settings.transport
  if word == "auto" then if settings.proxyUrl.isEmpty then "direct" else "proxy" else word

/-- Whether the way to the host is one that exists. -/
def isTransportKnown (settings : Settings) : Bool := ["direct", "proxy"].contains settings.chosenTransport

/-- How previews wait for their runtime. -/
def patience (settings : Settings) : Preview.Patience := ⟨settings.pollInterval, settings.pollAttempts⟩

/-- Whether requests wait as long as they do by default. -/
def isTimeoutStandard (settings : Settings) : Bool := settings.timeout.isInt 30

/-! ## Validation -/

/-- What is wrong with a configuration. -/
def problems (settings : Settings) : List String :=
  (if settings.isTransportKnown then []
    else ["GITHUB_TRANSPORT must be auto, direct or proxy (got " ++ displayQuoted settings.transport ++ ")"])
    ++ (if settings.chosenTransport == "proxy" && settings.proxyUrl.isEmpty then
        ["GITHUB_PROXY_URL must be configured for the proxy transport"]
      else [])

/-- Whether a configuration is free of problems. In production it may not have any. -/
def validate (settings : Settings) : Fallible Bool :=
  if settings.problems.isEmpty then .ok true
  else if settings.environment == "production" then .error (.badConfiguration settings.problems)
  else .ok false

/-! ## Clients -/

/-- A token unless it is empty. -/
def filledToken (token : String) : Option String := if token.isEmpty then none else some token

/-- A client that takes a way to the host. -/
def clientVia (settings : Settings) (transport : Transport) : Client :=
  ⟨transport, settings.trustedHosts, settings.defaultBranch⟩

/-- The direct way, with a token and an address of the host other than the one that is set. -/
def directTransport (settings : Settings) (token : Option String) (apiUrl : String) : Transport :=
  .direct token (withoutTrailingSlashes (if apiUrl.isEmpty then settings.apiUrl else apiUrl))

/-- The way through a deployment. -/
def proxyTransport (baseUrl : String) : Transport := .proxy (withoutTrailingSlashes baseUrl)

/-- A client that goes to the host with the token of the deployment. -/
def hostClient (settings : Settings) : Client :=
  settings.clientVia (settings.directTransport (filledToken settings.token) "")

/-- A client that takes the way of the deployment. A token that is given goes before the one that is set. -/
def client (settings : Settings) (token : Option String) : Client :=
  settings.clientVia <|
    if settings.chosenTransport == "proxy" then proxyTransport settings.proxyUrl
    else
      settings.directTransport ((token.bind filledToken).orElse fun _ => filledToken settings.token) ""

end Settings

end Showcase
