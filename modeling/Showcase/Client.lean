import Showcase.Address.Trust
import Showcase.Listing.Entry
import Showcase.Network.Remote

/-!
# The client of a source host

Component sources are read from a host of repositories: directories are listed and file contents fetched. A client goes
to the host itself, with a token or without, or to a deployment that has the token and does the same on its behalf.
Either way listings are entries of one form, and failures are of the same kinds.
-/

namespace Showcase

open Network

/-- The way to the host. -/
inductive Transport where
  /-- To the host itself, perhaps with a token. -/
  | direct (token : Option String) (apiUrl : String)
  /-- To a deployment. -/
  | proxy (baseUrl : String)
deriving DecidableEq, Repr

/-- The word for a way to the host. -/
def Transport.name : Transport → String
  | direct _ _ => "direct"
  | proxy _ => "proxy"

/-- A client, with the hosts that it fetches contents from and the branch that it reads by default. -/
structure Client where
  transport : Transport
  trustedHosts : List String
  defaultBranch : String
deriving DecidableEq, Repr

namespace Client

/-! ## Requests -/

/-- The name that a client gives itself. -/
def agentName : String := "component-engine"

/-- The form in which listings are asked for. -/
def listingForm : String := "application/vnd.github.v3+json"

/-- What stands before a token in a header. -/
def tokenMark : String := "Bearer "

/-- A token that may be sent: an empty one counts as none, and characters outside ASCII cannot be sent. -/
def headerToken (token : Option String) : Fallible (Option String) :=
  match token with
  | none => .ok none
  | some value =>
    if value.isEmpty then .ok none
    else
      let characters := value.toList
      let isWide (c : Char) : Bool := c.toNat ≥ 128
      match characters.dropWhile fun c => !isWide c with
      | [] => .ok (some value)
      | c :: rest =>
        let first := tokenMark.length + (characters.takeWhile fun c => !isWide c).length
        .error (.badHeader c first (first + (rest.takeWhile isWide).length))

/-- The request for a listing. Credentials in the address take the place of the token. -/
def listingRequest (token : Option String) (apiUrl owner repo path branch : String) : Fallible Request := do
  let written ← Address.ofText (apiUrl ++ "/repos/" ++ owner ++ "/" ++ repo ++ "/contents/" ++ path)
  let sendable ← headerToken token
  let address ← written.withQuery "ref" branch
  pure ⟨.get, address, if address.hasCredentials then none else sendable, some listingForm, some agentName, none⟩

/-- The request for a content. -/
def contentRequest (url : String) : Fallible Request := do
  let address ← Address.ofText url
  pure ⟨.get, address, none, none, some agentName, none⟩

/-- A request to a deployment. -/
def proxyRequest (baseUrl endpoint : String) (members : List (String × String)) : Fallible Request := do
  let address ← Address.ofText (baseUrl ++ "/api/github/" ++ endpoint)
  pure ⟨.post, address, none, none, none, some (.ofBindings members)⟩

/-- A fetch whose request may be impossible. -/
def asking {α : Type} (request : Fallible Request) (read : Reply → Fallible α) : Fetch α :=
  match request with
  | .ok request => .ask request read
  | .error failure => .ready (.error failure)

/-! ## Replies -/

/-- The failure of a listing that was answered with a status. -/
def listingFailure (status : Int) (owner repo path : String) : Failure :=
  if status = 404 then
    .engine (.of .notFound
      (withoutTrailingSlashes ("Repository or path not found: " ++ owner ++ "/" ++ repo ++ "/" ++ path)))
  else if status = 403 ∨ status = 429 then
    .engine (.of .rateLimited "Rate limit exceeded or access forbidden. Try adding a GitHub token.")
  else .engine (.of (.transport (some status)) ("GitHub API error (status " ++ toString status ++ ")"))

/-- The JSON of a reply. -/
def jsonOf (body : Body) : Fallible Json :=
  match body.json with
  | .ok value => .ok value
  | .error problem => fail (.transport none) ("Malformed response from GitHub: " ++ problem)

/-- A listing of the host: a list, or a single object for a path that is a file. -/
def listed (owner repo path : String) : Reply → Fallible (List Json)
  | .failed message => fail (.transport none) ("GitHub request failed: " ++ message)
  | .answered status body =>
    if isSuccess status then do
      match ← jsonOf body with
      | .arr entries => pure entries
      | entry => pure [entry]
    else .error (listingFailure status owner repo path)

/-- What a value has to offer one by one: the items of a list, the names of an object, the characters of a string. -/
def itemsOf : Json → Fallible (List Json)
  | .arr items => .ok items
  | .obj members => .ok (members.map fun entry => .str entry.1)
  | .str s => .ok (s.points.map fun point => .str (.ofPoints [point]))
  | other => .error (.unusable .iteration other.kindName)

/-- A listing of a deployment: the files of an answer that reports success. -/
def proxyListed (owner repo path : String) : Reply → Fallible (List Json)
  | .failed message => fail (.transport none) ("Proxy request failed: " ++ message)
  | .answered status body =>
    if isSuccess status then do
      match ← jsonOf body with
      | .obj members =>
        if ((Json.member? members "success").getD .null).isTruthy then
          -- an answer without files lists nothing
          itemsOf ((Json.member? members "files").getD (.arr []))
        else fail (.transport none) "Proxy returned an unexpected listing payload"
      | _ => fail (.transport none) "Proxy returned an unexpected listing payload"
    else .error (listingFailure status owner repo path)

/-- A content of the host. -/
def fetched : Reply → Fallible Json
  | .failed message => fail (.transport none) ("Failed to fetch file: " ++ message)
  | .answered status body =>
    if isSuccess status then body.text.map .str
    else fail (.transport (some status)) ("Failed to fetch file (status " ++ toString status ++ ")")

/-- A content of a deployment, whatever kind of value it is. -/
def proxyFetched (url : String) : Reply → Fallible Json
  | .failed message => fail (.transport none) ("Proxy request failed: " ++ message)
  | .answered status body =>
    -- this is how a deployment refuses an address; it also passes this status on from the host
    if status = 400 then fail .untrusted ("Proxy refused URL: " ++ url)
    else if isSuccess status then do
      match ← jsonOf body with
      | .obj members =>
        match Json.member? members "content" with
        | some content => pure content
        | none => fail (.transport none) "Proxy returned an unexpected content payload"
      | _ => fail (.transport none) "Proxy returned an unexpected content payload"
    else fail (.transport (some status)) ("Failed to fetch file (status " ++ toString status ++ ")")

/-! ## Operations -/

/-- List what is under a path without outer slashes. -/
def listEntries (client : Client) (owner repo path branch : String) : Fetch (List Json) :=
  match client.transport with
  | .direct token apiUrl => asking (listingRequest token apiUrl owner repo path branch) (listed owner repo path)
  | .proxy baseUrl =>
    asking (proxyRequest baseUrl "browse" [("owner", owner), ("repo", repo), ("path", path), ("branch", branch)])
      (proxyListed owner repo path)

/-- Fetch a content. Directly it is fetched from trusted hosts only. -/
def fetch (client : Client) (url : String) : Fetch Json :=
  match client.transport with
  | .direct _ _ =>
    if Address.isTrusted client.trustedHosts url then asking (contentRequest url) fetched
    else .ready (fail .untrusted ("Refusing to fetch content from untrusted URL: " ++ url))
  | .proxy baseUrl => asking (proxyRequest baseUrl "content" [("url", url)]) (proxyFetched url)

/-- The entries of a directory, or the one entry of a file. No branch, or an empty one, means the default branch. -/
def listDirectory (client : Client) (owner repo path : String) (branch : Option String) : Remote (List Entry) :=
  if owner.isEmpty || repo.isEmpty then .done (.error .ownerAndRepoRequired)
  else
    let chosen := match branch with
      | some name => if name.isEmpty then client.defaultBranch else name
      | none => client.defaultBranch
    (client.listEntries owner repo (withoutOuterSlashes path) chosen).toRemote.andThen fun found =>
      .done (found.mapM Entry.ofContents)

/-- The directories in a directory. -/
def browse (client : Client) (owner repo path : String) (branch : Option String) : Remote (List Entry) :=
  (client.listDirectory owner repo path branch).andThen fun entries => .done (.ok (entries.filter Entry.isDirectory))

end Client

end Showcase
