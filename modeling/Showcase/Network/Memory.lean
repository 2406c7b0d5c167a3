import Showcase.Network.Remote

/-!
# A host in memory

A source host whose repository is a list of files, and which keeps account of the requests it answered. A listing is
made from the paths of the files: a path that is a file answers its one entry, every other path the entries right below
it. Prepared replies go before what the files say, and a host with a script answers from the script alone.
-/

namespace Showcase.Network

/-- A host in memory. -/
structure Memory where
  /-- The paths and contents of the files; of two with one path the later counts. -/
  files : List (String × String)
  /-- Prepared replies to listings, by path. -/
  listings : List (String × Reply)
  /-- Prepared replies to contents, by path. -/
  contents : List (String × Reply)
  /-- The replies of a script that are still to come. -/
  script : Option (List Reply)
  /-- The requests that were answered. -/
  requests : List Request

namespace Memory

/-! ## The repository -/

/-- The owner of the repository. -/
def owner : String := "acme"

/-- The name of the repository. -/
def repo : String := "widgets"

/-- The gate that a listing for an owner waits at; what is listed behind a gate is the repository as well. -/
def gateOf? (name : String) : Option String := if beginsWith name "slow" then some name else none

/-- The content of a file. -/
def file? (host : Memory) (path : String) : Option String := host.files.reverse.lookup path

/-- The part of a text after a beginning. -/
def after? (beginning : String) (text : List Char) : Option (List Char) :=
  if beginning.toList.isPrefixOf text then some (text.drop beginning.toList.length) else none

/-- The path that is right below a directory and leads to a file, if the file is in the directory. -/
def childPath? (directory path : String) : Option String :=
  let beginning := if directory.isEmpty then "" else directory ++ "/"
  (after? beginning path.toList).map fun below => beginning ++ String.ofList (Text.cutAtFirst '/' below).1

/-- The paths right below a directory, in the order of their characters. -/
def childPaths (host : Memory) (directory : String) : List String :=
  (host.files.filterMap fun file => childPath? directory file.1).eraseDups.mergeSort fun first second =>
    decide (first ≤ second)

/-- The entry of a path. -/
def entryJson (host : Memory) (path : String) : Json :=
  let shared := [("name", Json.ofString (String.ofList (Text.afterLast '/' path.toList))), ("path", .ofString path),
    ("sha", .ofString ("sha-" ++ path))]
  .ofMembers <| shared ++
    match host.file? path with
    | some content =>
      [("size", .int content.length), ("type", .ofString "file"),
        ("download_url",
          .ofString ("https://raw.githubusercontent.com/" ++ owner ++ "/" ++ repo ++ "/main/" ++ path))]
    | none => [("size", .int 0), ("type", .ofString "dir"), ("download_url", .null)]

/-! ## Replies -/

/-- The reply to a request for what does not exist. -/
def notFound : Reply := .answered 404 (.ofText "404: Not Found")

/-- The reply to a request for a listing. -/
def listingReply (host : Memory) (path : String) : Reply :=
  match host.listings.lookup path with
  | some reply => reply
  | none =>
    if (host.file? path).isSome then .answered 200 (.ofJson (host.entryJson path))
    else
      let children := host.childPaths path
      if children.isEmpty && !path.isEmpty then notFound
      else .answered 200 (.ofJson (.arr (children.map host.entryJson)))

/-- The reply to a request for a content. -/
def contentReply (host : Memory) (path : String) : Reply :=
  match host.contents.lookup path with
  | some reply => reply
  | none =>
    match host.file? path with
    | some content => .answered 200 (.ofText content)
    | none => notFound

/-- A path of an address with its encoding undone. -/
def decoded (path : List Char) : String := String.ofList (Text.lenientUtf8 (Address.decodedBytes path))

/-- The path that is listed at the path of an address. -/
def listedAt? (path : List Char) : Option String :=
  (after? ("/repos/" ++ owner ++ "/" ++ repo ++ "/contents") path).map fun below =>
    decoded (Text.stripWhile (· == '/') below)

/-- The reply to a request for an address. -/
def reply (host : Memory) (address : Address) : Reply :=
  if address.host == "api.github.com" then
    match listedAt? address.path.toList with
    | some path => host.listingReply path
    | none => notFound
  else if address.host == "raw.githubusercontent.com" then
    match after? ("/" ++ owner ++ "/" ++ repo ++ "/main/") address.path.toList with
    | some path => host.contentReply (decoded path)
    | none => notFound
  else notFound

/-- The reply when a script has come to its end. -/
def exhausted : Reply := .answered 599 .empty

/-- Answer a request. -/
def answer (host : Memory) (request : Request) : Reply × Memory :=
  let noted := { host with requests := host.requests ++ [request] }
  match host.script with
  | none => (host.reply request.address, noted)
  | some [] => (exhausted, noted)
  | some (next :: later) => (next, { noted with script := some later })

end Memory

end Showcase.Network
