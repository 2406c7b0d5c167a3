import Showcase.Service.Answer
import Showcase.Service.Form
import Showcase.Settings.Basic

/-!
# The proxy

Other deployments may list directories and fetch contents with the token of this one, without ever seeing the token.
Contents are fetched from trusted hosts only.
-/

namespace Showcase.Service

open Network

/-- What is told when the deployment has no token. -/
def tokenMissing : Failure := .engine (.of .missingCredential "GitHub token not configured on server")

/-- The failure of a request whose address would have to spell half of a pair. -/
def unspellable (point : Nat) : Failure :=
  .unusable (.encoding ("'utf-8' codec can't encode character '\\u" ++ String.ofList (Text.hexDigits 4 point)
    ++ "' in position 0: surrogates not allowed")) "str"

/-- A status or null. -/
def statusJson : Option Int → Json
  | some status => .int status
  | none => .null

/-- The answer to a listing that failed. -/
def listingRefusal (developing : Bool) (owner repo path : String) : Failure → Answer
  | .engine error =>
    match error.cause with
    | .missingCredential => .refusal error.status error.message []
    | .notFound =>
      .refusal 404 "Repository or path not found" [("details", .ofString (owner ++ "/" ++ repo ++ "/" ++ path))]
    | .rateLimited =>
      .refusal 403 "Rate limit exceeded or access forbidden" [("details", .ofString error.message)]
    | .transport status =>
      .refusal error.cause.status "GitHub API error"
        [("status", statusJson status), ("details", .ofString error.message)]
    | _ => .ofFailure developing (.engine error)
  | failure => .ofFailure developing failure

/-- Whether failures are told in full. -/
def isDeveloping (settings : Settings) : Bool := settings.monitorEnvironment == "development"

/-- A listing with the token of the deployment. -/
def proxyListing (settings : Settings) (form : ListingForm) : Remote Answer :=
  match filled? form.owner, filled? form.repo with
  | some owner, some repo =>
    let refuse (failure : Failure) : Remote Answer :=
      .done (.ok (listingRefusal (isDeveloping settings) owner.shown repo.shown form.path.shown failure))
    if settings.token.isEmpty then refuse tokenMissing
    else
      match form.half? with
      | some point => refuse (unspellable point)
      | none =>
        let branch := form.branch.map JsonString.shown
        (settings.hostClient.listDirectory owner.shown repo.shown form.path.shown branch).attempt.andThen fun
          | .ok entries => .done (.ok (.success [("files", .arr (entries.map Entry.toContents))]))
          | .error failure => refuse failure
  | _, _ => .done (.ok (.refusal 400 "Missing required fields: owner and repo" []))

/-- What an address has to contain. -/
def domainMarkers : List String := ["githubusercontent.com", "github.com"]

/-- Whether the proxy fetches from an address. -/
def isFetched (settings : Settings) (url : String) : Bool :=
  domainMarkers.any (contains url) && Address.isTrusted settings.trustedHosts url

/-- The answer to a content that could not be fetched. -/
def contentRefusal (developing : Bool) : Failure → Answer
  | .engine error =>
    match error.cause with
    | .transport status =>
      .refusal error.cause.status "Failed to fetch file content" [("status", statusJson status)]
    | _ => .refusal error.status error.message []
  | failure => .ofFailure developing failure

/-- The answer with a content, which may be a string that cannot be sent. -/
def contentFound (developing : Bool) (content : Json) : Answer :=
  let answer := Answer.success [("content", content)]
  .sending developing answer.body answer

/-- A content from a trusted host. -/
def proxyContent (settings : Settings) (form : ContentForm) : Remote Answer :=
  match filled? form.url with
  | none => .done (.ok (.refusal 400 "Missing required field: url" []))
  | some url =>
    let refuse (failure : Failure) : Remote Answer := .done (.ok (contentRefusal (isDeveloping settings) failure))
    if !isFetched settings url.shown then .done (.ok (.refusal 400 "Invalid URL domain" []))
    else if settings.token.isEmpty then refuse tokenMissing
    else
      match url.half? with
      | some point => refuse (unspellable point)
      | none =>
        (settings.hostClient.fetch url.shown).toRemote.attempt.andThen fun
          | .ok content => .done (.ok (contentFound (isDeveloping settings) content))
          | .error failure => refuse failure

end Showcase.Service
