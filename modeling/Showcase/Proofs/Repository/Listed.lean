import Showcase.Proofs.Network.Outcome
import Showcase.Proofs.Repository.Placed
import Showcase.Proofs.Transport.Directory
import Showcase.Proofs.Transport.Failures

/-!
# Listings of a host in memory

A client that lists a directory with a plain path asks a host in memory at the address of that directory, and gets
the entries that the host has there. Whether it can ask at all depends on its token and on the branch, and not on the
directory. So a directory of files that are placed below another is listed like the same directory at the root, but for
the places of its entries.
-/

namespace Showcase

open Network Repository

/-! ## Entries -/

namespace Network.Memory

/-- The address that the content at a path is fetched from. -/
def contentAddress (path : String) : String :=
  "https://raw.githubusercontent.com/" ++ owner ++ "/" ++ repo ++ "/main/" ++ path

/-- The entry of a path. -/
def entry (host : Memory) (path : String) : Entry where
  name := String.ofList (Text.afterLast '/' path.toList)
  path := path
  kind := if (host.file? path).isSome then .file else .directory
  downloadUrl := if (host.file? path).isSome then some (contentAddress path) else none
  size := some (((host.file? path).map String.length).getD 0 : Nat)
  sha := some ("sha-" ++ path)

theorem ofContents_entryJson (host : Memory) (path : String) :
    Entry.ofContents (host.entryJson path) = .ok (host.entry path) := by
  cases hfile : host.file? path with
  | none =>
    simp only [entryJson, hfile, Entry.ofContents, Json.ofMembers, Json.member?_text, List.cons_append, List.nil_append,
      List.lookup_cons, String.reduceBEq]
    rw [entry, hfile]
    rfl
  | some content =>
    simp only [entryJson, hfile, Entry.ofContents, Json.ofMembers, Json.member?_text, List.cons_append, List.nil_append,
      List.lookup_cons, String.reduceBEq]
    rw [entry, hfile]
    rfl

theorem mapM_ofContents_entryJson (host : Memory) (paths : List String) :
    (paths.map host.entryJson).mapM Entry.ofContents = .ok (paths.map host.entry) := by
  induction paths with
  | nil => rfl
  | cons path paths ih =>
    rw [List.map_cons, List.mapM_cons, ofContents_entryJson, ih]
    rfl

/-- A host whose contents have lengths that can be told. -/
def IsSized (host : Memory) : Prop := ∀ path content, host.file? path = some content → content.length < 10 ^ 4300

theorem travels_entryJson {host : Memory} (hsized : host.IsSized) (path : String) : (host.entryJson path).Travels := by
  have hpositive : ∀ count, 0 < 10 ^ count := fun count => Nat.pow_pos (by decide)
  unfold entryJson
  cases hfile : host.file? path with
  | none =>
    refine Json.Travels.ofMembers (by simp) ?_
    simp only [List.cons_append, List.nil_append, List.forall_mem_cons, List.not_mem_nil, false_implies, implies_true,
      and_true]
    exact ⟨.text _, .text _, .text _, .int 0 (hpositive 4300), .text _, .null⟩
  | some content =>
    refine Json.Travels.ofMembers (by simp) ?_
    simp only [List.cons_append, List.nil_append, List.forall_mem_cons, List.not_mem_nil, false_implies, implies_true,
      and_true]
    exact ⟨.text _, .text _, .text _, .int _ (hsized path content hfile), .text _, .text _⟩

theorem entryJson_eq_obj (host : Memory) (path : String) :
    ∃ member others, host.entryJson path = .obj (member :: others) := by
  unfold entryJson
  cases host.file? path with
  | none => exact ⟨_, _, rfl⟩
  | some content => exact ⟨_, _, rfl⟩

/-- Without listings of its own, a host lists what its files come to: a file, or the children of a directory that has any. -/
theorem listingReply_of_no_listings {host : Memory} (hlistings : host.listings = []) (path : String) :
    host.listingReply path =
      if (host.file? path).isSome then .answered 200 (.ofJson (host.entryJson path))
      else if (host.childPaths path).isEmpty && !path.isEmpty then notFound
      else .answered 200 (.ofJson (.arr ((host.childPaths path).map host.entryJson))) := by
  rw [listingReply, hlistings]
  rfl

/-- The entry of a file is read from a reply that is an object. -/
theorem entriesOf_file {host : Memory} (hsized : host.IsSized) (path owner repo asked : String) :
    Client.entriesOf (Client.listed owner repo asked (.answered 200 (.ofJson (host.entryJson path)))) =
      .ok [host.entry path] := by
  obtain ⟨member, others, hobject⟩ := host.entryJson_eq_obj path
  have htravels := travels_entryJson hsized path
  have hentry := host.ofContents_entryJson path
  rw [hobject] at htravels hentry
  rw [hobject, Client.listed, if_pos (by decide), Client.jsonOf, htravels.json_ofJson]
  simp only [Client.entriesOf, bind, Except.bind, pure, Except.pure, List.mapM_cons, List.mapM_nil, hentry]

/-- The entries of a directory are read from a reply that is an array. -/
theorem entriesOf_children {host : Memory} (hsized : host.IsSized) {path : String} (hne : host.childPaths path ≠ [])
    (owner repo asked : String) :
    Client.entriesOf (Client.listed owner repo asked
        (.answered 200 (.ofJson (.arr ((host.childPaths path).map host.entryJson))))) =
      .ok ((host.childPaths path).map host.entry) := by
  obtain ⟨child, children, hchildren⟩ := List.exists_cons_of_ne_nil hne
  obtain ⟨member, others, hobject⟩ := host.entryJson_eq_obj child
  have htravels : (Json.arr ((host.childPaths path).map host.entryJson)).Travels := by
    refine .arr _ fun item hitem => ?_
    obtain ⟨found, -, rfl⟩ := List.mem_map.mp hitem
    exact travels_entryJson hsized found
  -- the first entry is an object that is not empty, so the first two characters of the reply tell its encoding
  have hread : (Body.ofJson (.arr ((host.childPaths path).map host.entryJson))).json =
      .ok (.arr ((host.childPaths path).map host.entryJson)) := by
    rw [hchildren, List.map_cons, hobject] at htravels ⊢
    exact htravels.json_ofJson_arr
  rw [Client.listed, if_pos (by decide), Client.jsonOf, hread]
  exact host.mapM_ofContents_entryJson _

/-- What a client makes of the reply to a request for a listing: the entry of a file, or the entries of a directory
unless there are none. -/
theorem entriesOf_listingReply {host : Memory} (hsized : host.IsSized) (hlistings : host.listings = []) {path : String}
    (hroot : path = "" → host.childPaths path ≠ []) (owner repo asked : String) :
    Client.entriesOf (Client.listed owner repo asked (host.listingReply path)) =
      if (host.file? path).isSome then .ok [host.entry path]
      else if host.childPaths path = [] then .error (Client.listingFailure 404 owner repo asked)
      else .ok ((host.childPaths path).map host.entry) := by
  rw [listingReply_of_no_listings hlistings]
  by_cases hfile : (host.file? path).isSome = true
  · rw [if_pos hfile, if_pos hfile]
    exact entriesOf_file hsized path owner repo asked
  rw [if_neg hfile, if_neg hfile]
  by_cases hempty : host.childPaths path = []
  · have hpath : path.isEmpty = false := by
      rw [Bool.eq_false_iff]
      intro hroot'
      exact hroot (String.isEmpty_iff.mp hroot') hempty
    rw [if_pos hempty, hempty, hpath]
    rfl
  · have hfound : ((host.childPaths path).isEmpty && !path.isEmpty) = false := by
      simp [hempty]
    rw [hfound, if_neg Bool.false_ne_true, if_neg hempty]
    exact entriesOf_children hsized hempty owner repo asked

end Network.Memory

/-! ## Plain paths in addresses -/

namespace Repository.IsOfSteps

open Address

variable {s : List Char}

theorem unmarkedPart (h : IsOfSteps s) : unmarkedPart s = s :=
  unmarkedPart_eq_self.mpr ⟨h.not_mem (by decide) (by decide), h.not_mem (by decide) (by decide)⟩

theorem normalPath (h : IsOfSteps s) : normalPath s = s :=
  normalPath_of_settled (isSettled_of_not_mem (h.not_mem (by decide) (by decide)))

theorem isControl (h : IsOfSteps s) : ∀ c ∈ s, isControl c = false := by
  intro c hc
  have hbounds := h.bounds hc
  simp only [Address.isControl, Bool.or_eq_false_iff, decide_eq_false_iff_not, beq_eq_false_iff_ne]
  omega

theorem encodePart (h : IsOfSteps s) : encodePart (isPlainExcept pathExclusions) s = s := by
  refine encodePart_eq_self fun c hc => ?_
  rcases h c hc with rfl | hstep
  · decide
  · have hunreserved : isUnreserved c = true := by
      simp only [isStepChar, Bool.or_eq_true] at hstep
      rcases hstep with ((hletter | hdigit) | hhyphen) | hline
      · simp [isUnreserved, hletter]
      · simp [isUnreserved, hdigit]
      · simp [isUnreserved, hhyphen]
      · simp [isUnreserved, hline]
    exact isPlainExcept_of_isUnreserved (by decide) hunreserved

theorem decodedBytes (h : IsOfSteps s) : decodedBytes s = s.flatMap String.utf8EncodeChar :=
  decodedBytes_of_unescaped (isUnescaped_of_not_mem (h.not_mem (by decide) (by decide)))

theorem decoded (h : IsOfSteps s) : Memory.decoded s = String.ofList s := by
  rw [Memory.decoded, h.decodedBytes, Text.lenientUtf8_flatMap]

end Repository.IsOfSteps

/-! ## Requests -/

namespace Client

/-- The address of the interface of the host in memory. -/
def interfaceUrl : String := "https://api.github.com"

/-- What is written of the address that a directory is listed at. -/
def listingText (path : String) : String :=
  interfaceUrl ++ "/repos/" ++ Memory.owner ++ "/" ++ Memory.repo ++ "/contents/" ++ path

/-- The address that a directory is listed at. -/
def listingAddress (path : String) (query : Option String) : Address :=
  ⟨"https", "", "api.github.com", none, "/repos/acme/widgets/contents/" ++ path, query, none⟩

/-- The query that asks for a branch. -/
def branchQuery (branch : String) : List Char :=
  Address.encodeFormValue "ref".toList ++ '=' :: Address.encodeFormValue branch.toList

/-- What all requests for listings have in common: a token that can be sent, and a query that is not too long. -/
def askedWith (token : Option String) (branch : String) : Fallible (Option String × String) :=
  (headerToken token).bind fun sendable =>
    if (branchQuery branch).length ≤ Address.longest then .ok (sendable, String.ofList (branchQuery branch))
    else .error (.badAddress "")

theorem askedWith_ne_engine (token : Option String) (branch : String) (error : EngineError) :
    askedWith token branch ≠ .error (.engine error) := by
  intro h
  unfold askedWith at h
  cases htoken : headerToken token with
  | error failure =>
    rw [htoken] at h
    cases h
    exact headerToken_ne_engine token error htoken
  | ok sendable =>
    rw [htoken] at h
    by_cases hlength : (branchQuery branch).length ≤ Address.longest
    · rw [Except.bind, if_pos hlength] at h
      cases h
    · rw [Except.bind, if_neg hlength] at h
      cases h

theorem toList_path_listing (path : String) (query : Option String) :
    (listingAddress path query).path.toList = '/' :: listingPath Memory.owner Memory.repo path := by
  rw [listingAddress, String.toList_append]
  rfl

theorem authority_listing (path : String) (query : Option String) :
    (listingAddress path query).authority = "api.github.com" := by
  have hplain : contains "api.github.com" ":" = false := by decide
  simp [Address.authority, listingAddress, hplain]

section

variable {path : String} (hpath : IsDirectoryPath path)
include hpath

theorem isOfSteps_listingPath : IsOfSteps (listingPath Memory.owner Memory.repo path) := by
  have hsplit : listingPath Memory.owner Memory.repo path = "repos/acme/widgets/contents/".toList ++ path.toList := rfl
  rw [hsplit, isOfSteps_append]
  exact ⟨by decide, hpath.isOfSteps⟩

variable (hshort : (listingText path).toList.length ≤ Address.longest)
include hshort

theorem ofText_listingText : Address.ofText (listingText path) = .ok (listingAddress path none) := by
  have hsteps := isOfSteps_listingPath hpath
  have hrooted := isOfSteps_cons hsteps
  have hunder := Address.ofText_under (toList_listing interfaceUrl Memory.owner Memory.repo path)
    (show Address.ofText interfaceUrl = .ok interface from rfl) (by decide) (by decide) hshort hsteps.isControl
  rw [hsteps.unmarkedPart, hrooted.normalPath, Address.encoded, hrooted.encodePart,
    Text.cutAtFirst_of_not_mem (hrooted.not_mem (show '#' ≠ '/' by decide) (by decide)),
    Text.cutAtFirst_of_not_mem (hrooted.not_mem (show '?' ≠ '/' by decide) (by decide)),
    ← toList_path_listing path none, String.ofList_toList] at hunder
  exact hunder

/-- The address of a directory is given the query for a branch unless that is too long. -/
theorem withQuery_listing {branch : String} (hbranch : (branchQuery branch).length ≤ Address.longest) :
    (listingAddress path none).withQuery "ref" branch =
      .ok (listingAddress path (some (String.ofList (branchQuery branch)))) := by
  have hrooted := isOfSteps_cons (isOfSteps_listingPath hpath)
  have hlength : ('/' :: listingPath Memory.owner Memory.repo path).length ≤ Address.longest := by
    rw [listingText, toList_listing, List.length_append] at hshort
    omega
  have hbare : ∀ query, (listingAddress path query).isBare = false := fun _ => rfl
  have hparts : (listingAddress path none).withQuery "ref" branch =
      Address.ofSizedParts ⟨"https".toList, "api.github.com".toList, '/' :: listingPath Memory.owner Memory.repo path,
        some (branchQuery branch), none⟩ := by
    rw [Address.withQuery, authority_listing, toList_path_listing]
    rfl
  -- scheme, host and port are read as they are in the address of the interface
  have hread := (Address.ofWritten_eq_ok.mp
    (Address.ofText_absolute (show Address.ofText interfaceUrl = .ok interface from rfl) (by decide))).2.2
  rw [hparts, Address.ofSizedParts_eq_ok]
  refine ⟨⟨(show "https".toList.length ≤ Address.longest by decide),
    (show "api.github.com".toList.length ≤ Address.longest by decide), hlength, ?_, ?_⟩,
    hread.scheme, hread.user, hread.host, hread.port, ?_, ?_, rfl, ?_, ?_⟩
  · rintro query ⟨⟩
    exact hbranch
  · rintro fragment ⟨⟩
  · rw [hbare, if_neg Bool.false_ne_true, hrooted.normalPath, Address.encoded, hrooted.encodePart,
      ← toList_path_listing path none, String.ofList_toList]
    rfl
  · exact congrArg some (encoded_form _ _).symm
  · intro _
    exact .inr rfl
  · intro h
    rw [hbare] at h
    cases h

/-- A request for a listing can be made or not whatever the directory is, and goes to its address. -/
theorem listingRequest_wordless (token : Option String) (branch : String) :
    (listingRequest token interfaceUrl Memory.owner Memory.repo path branch).wordless =
      (askedWith token branch).wordless.map fun asked =>
        ⟨.get, listingAddress path (some asked.2), asked.1, some listingForm, some agentName, none⟩ := by
  have hwritten :
      Address.ofText (interfaceUrl ++ "/repos/" ++ Memory.owner ++ "/" ++ Memory.repo ++ "/contents/" ++ path) =
        .ok (listingAddress path none) := ofText_listingText hpath hshort
  unfold listingRequest askedWith
  simp only [hwritten, bind, Except.bind, pure, Except.pure]
  cases headerToken token with
  | error failure => rfl
  | ok sendable =>
    by_cases hbranch : (branchQuery branch).length ≤ Address.longest
    · simp only [withQuery_listing hpath hshort hbranch, if_pos hbranch]
      rfl
    · simp only [if_neg hbranch]
      cases haddress : (listingAddress path none).withQuery "ref" branch with
      | error failure =>
        obtain ⟨message, rfl⟩ := Address.withQuery_error haddress
        rfl
      | ok address =>
        exact absurd ((Address.ofSizedParts_eq_ok.mp haddress).1.query _ rfl) hbranch

end

end Client

/-! ## Replies -/

namespace Network.Memory

/-- At the address of a directory the host lists it. -/
theorem reply_listing {path : String} (hpath : IsDirectoryPath path) (host : Memory) (query : Option String) :
    host.reply (Client.listingAddress path query) = host.listingReply path := by
  have hlisted : listedAt? (Client.listingAddress path query).path.toList = some path := by
    have hsplit : (Client.listingAddress path query).path.toList =
        ("/repos/" ++ owner ++ "/" ++ repo ++ "/contents").toList ++ '/' :: path.toList := by
      rw [Client.toList_path_listing]
      rfl
    have hstripped : Text.stripWhile (· == '/') ('/' :: path.toList) = path.toList := by
      have hkept := congrArg String.toList (withoutOuterSlashes_of_plain hpath)
      rw [withoutOuterSlashes, String.toList_ofList] at hkept
      exact hkept
    rw [listedAt?, hsplit, after?, if_pos (List.isPrefixOf_iff_prefix.mpr (List.prefix_append _ _)), List.drop_left,
      Option.map_some, hstripped, hpath.isOfSteps.decoded, String.ofList_toList]
  have hhost : ((Client.listingAddress path query).host == "api.github.com") = true := beq_self_eq_true _
  rw [reply, if_pos hhost, hlisted]

/-- What a client makes of a directory is the entries that the host has there, if the client can ask for them. -/
theorem outcome_listDirectory {client : Client} {token : Option String}
    (hdirect : client.transport = .direct token Client.interfaceUrl) (host : Memory) {path : String}
    (hpath : IsDirectoryPath path) (hshort : (Client.listingText path).toList.length ≤ Address.longest)
    (branch : Option String) :
    ((client.listDirectory owner repo path branch).outcome host.replies).wordless =
      (Client.askedWith token (Client.chosenBranch client.defaultBranch branch)).wordless.bind fun _ =>
        (Client.entriesOf (Client.listed owner repo path (host.listingReply path))).wordless := by
  have hrequest := Client.listingRequest_wordless hpath hshort token (Client.chosenBranch client.defaultBranch branch)
  rw [← Remote.run_eq_outcome, Client.run_listDirectory_eq (by decide) (by decide), withoutOuterSlashes_of_plain hpath,
    hdirect, wordless_bind]
  simp only [Transport.listingRequest, Transport.listed, replies]
  rw [hrequest]
  cases Client.askedWith token (Client.chosenBranch client.defaultBranch branch) with
  | error failure => rfl
  | ok asked =>
    have hreply := reply_listing hpath host (some asked.2)
    show (Client.entriesOf (Client.listed owner repo path
      (host.reply (Client.listingAddress path (some asked.2))))).wordless = _
    rw [hreply]
    rfl

end Network.Memory

end Showcase
