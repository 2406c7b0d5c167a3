import Showcase.Proofs.Address.Parts
import Showcase.Proofs.Transport.Content
import Showcase.Proofs.Transport.Listing

/-!
# Failures that reach a caller

A caller can act on typed failures only. A client fails otherwise when its request cannot be made, or when a reply of
success is JSON of a shape that is not expected: an entry of a listing lacks its name, or holds values of other kinds;
the files of a deployment are not a list; the content that it sends is no string. And the codec that a reply names may
fail. The theorem at the end says that these are all the ways, for both ways to the host.
-/

namespace Showcase

open Network

/-! ## How a computation ends -/

/-- A result is a value that fits, or a typed failure. -/
def EndsTyped {α : Type} (fits : α → Prop) : Fallible α → Prop
  | .ok value => fits value
  | .error failure => ∃ error, failure = .engine error

/-- Any value fits. -/
def Anything {α : Type} (_ : α) : Prop := True

/-- A value that is a string. -/
def IsText (value : Json) : Prop := ∃ s, value = .str s

section

variable {α β : Type}

theorem endsTyped_fail (fits : α → Prop) (cause : Cause) (message : String) : EndsTyped fits (fail cause message) :=
  ⟨_, rfl⟩

theorem endsTyped_map (f : α → β) (result : Fallible α) :
    EndsTyped Anything (result.map f) ↔ EndsTyped Anything result := by
  cases result <;> rfl

/-- Where no item ends in a typed failure, all of them have to be made. -/
theorem endsTyped_mapM {read : α → Fallible β} (hread : ∀ value error, read value ≠ .error (.engine error))
    (values : List α) :
    EndsTyped Anything (values.mapM read) ↔ ∀ value ∈ values, ∃ result, read value = .ok result := by
  induction values with
  | nil => simp [EndsTyped, Anything, pure, Except.pure]
  | cons value values ih =>
    rw [List.mapM_cons, List.forall_mem_cons, ← ih]
    cases hvalue : read value with
    | error failure =>
      refine iff_of_false ?_ ?_
      · rintro ⟨error, rfl⟩
        exact hread value error hvalue
      · rintro ⟨⟨result, hresult⟩, -⟩
        cases hresult
    | ok result =>
      simp only [Except.ok.injEq, exists_eq', true_and]
      cases values.mapM read with
      | error failure => rfl
      | ok results => rfl

end

/-! ## Entries -/

namespace Entry

/-- The members that an entry is made of. Only its name has to be there; a directory may have anything that counts as
true for its content address. -/
structure IsDescribed (members : List (JsonString × Json)) : Prop where
  name : ∃ s, Json.member? members "name" = some (.str s)
  path : ∀ value, Json.member? members "path" = some value → ∃ s, value = .str s
  address : ∀ value, Json.member? members "download_url" = some value →
    value = .null ∨ (∃ s, value = .str s) ∨
      (Json.member? members "type" = some (.ofString "dir") ∧ value.isTruthy = true)
  size : ∀ value, Json.member? members "size" = some value → value = .null ∨ ∃ n, Field.whole value = .ok n
  sha : ∀ value, Json.member? members "sha" = some value → value = .null ∨ ∃ s, value = .str s

/-- A value that an entry is made of. -/
def Describes (value : Json) : Prop := ∃ members, value = .obj members ∧ IsDescribed members

theorem ofContents_ne_engine (value : Json) (error : EngineError) : ofContents value ≠ .error (.engine error) := by
  intro h
  unfold ofContents at h
  split at h
  · dsimp only at h
    split at h
    · cases h
    · unfold Fallible.ofChecked at h
      split at h <;> cases h
  · cases h

/-- A member that may be absent or null is read if it is there with a value that is. -/
theorem nullable_isOk {α : Type} {read : Json → Checked α} (member : Option Json) :
    (∃ result, Field.nullable read (member.getD .null) = .ok result) ↔
      ∀ value, member = some value → value = .null ∨ ∃ x, read value = .ok x := by
  cases member with
  | none => exact iff_of_true ⟨none, rfl⟩ (by simp)
  | some value =>
    simp only [Option.getD_some, Option.some.injEq, forall_eq', Field.nullable_eq_ok]
    constructor
    · rintro ⟨result, ⟨hnull, -⟩ | ⟨-, x, hx, -⟩⟩
      · exact .inl hnull
      · exact .inr ⟨x, hx⟩
    · intro h
      by_cases hnull : value = .null
      · exact ⟨none, .inl ⟨hnull, rfl⟩⟩
      · obtain ⟨x, hx⟩ := h.resolve_left hnull
        exact ⟨some x, .inr ⟨hnull, x, hx, rfl⟩⟩

theorem text_isOk (value : Json) : (∃ s, Field.text value = .ok s) ↔ ∃ s, value = .str s := by
  simp only [Field.text_eq_ok, Json.isSome_text?]

/-- A content address that counts as true is dropped from a directory before it is read. -/
theorem address_isOk (isDirectory : Bool) (member : Option Json) :
    (∃ result, Field.nullable Field.text (addressFor isDirectory (member.getD .null)) = .ok result) ↔
      ∀ value, member = some value →
        value = .null ∨ (∃ s, value = .str s) ∨ (isDirectory = true ∧ value.isTruthy = true) := by
  by_cases hdropped : isDirectory = true ∧ (member.getD .null).isTruthy = true
  · have haddress : addressFor isDirectory (member.getD .null) = .null := by
      rw [addressFor, hdropped.1, hdropped.2]
      rfl
    rw [haddress]
    refine iff_of_true ⟨none, rfl⟩ ?_
    rintro value rfl
    exact .inr (.inr hdropped)
  · have haddress : addressFor isDirectory (member.getD .null) = member.getD .null := by
      rw [addressFor, if_neg (by rwa [Bool.and_eq_true])]
    rw [haddress, nullable_isOk]
    simp only [text_isOk]
    constructor
    · intro h value hvalue
      exact (h value hvalue).imp_right .inl
    · intro h value hvalue
      rcases h value hvalue with hnull | htext | hdirectory
      · exact .inl hnull
      · exact .inr htext
      · exact absurd (by rwa [hvalue]) hdropped

theorem isDirectory_iff (members : List (JsonString × Json)) :
    ((Json.member? members "type").bind Json.text? == some "dir") = true ↔
      Json.member? members "type" = some (.ofString "dir") := by
  simp only [beq_iff_eq, Option.bind_eq_some_iff, Json.text?_eq_some_iff (s := "dir") (by decide)]
  exact ⟨fun ⟨_, hvalue, htext⟩ => hvalue.trans (congrArg some htext), fun h => ⟨_, h, rfl⟩⟩

theorem exists_shown (member : Option Json) :
    (∃ s, member.bind Json.text? = some s) ↔ ∃ s, member = some (.str s) := by
  cases member with
  | none => simp
  | some value => simpa using Json.isSome_text?

/-- The path is there with a string if it is given as one, or not given beside a name. -/
theorem exists_path {members : List (JsonString × Json)} {name : JsonString}
    (hname : Json.member? members "name" = some (.str name)) :
    (∃ s, (Json.member? members "path" <|> Json.member? members "name") = some (.str s)) ↔
      ∀ value, Json.member? members "path" = some value → ∃ s, value = .str s := by
  cases Json.member? members "path" with
  | none => simpa using ⟨name, hname⟩
  | some value => simp

/-- The members of an object tell some entry if they are what an entry is made of. -/
theorem exists_tells {members : List (JsonString × Json)} : (∃ entry, Tells members entry) ↔ IsDescribed members := by
  have haddress := address_isOk ((Json.member? members "type").bind Json.text? == some "dir")
    (Json.member? members "download_url")
  have hsize := @nullable_isOk _ Field.whole (Json.member? members "size")
  have hsha := @nullable_isOk _ Field.text (Json.member? members "sha")
  rw [isDirectory_iff] at haddress
  simp only [text_isOk, Field.nullable_text_eq_ok] at haddress hsha
  constructor
  · rintro ⟨entry, htells⟩
    obtain ⟨name, hname⟩ := (exists_shown _).mp ⟨_, htells.name⟩
    refine ⟨⟨name, hname⟩, (exists_path hname).mp ((exists_shown _).mp ⟨_, htells.path⟩),
      haddress.mp ⟨entry.downloadUrl, ?_⟩, hsize.mp ⟨entry.size, htells.size⟩, hsha.mp ⟨entry.sha, htells.sha⟩⟩
    rw [htells.kind]
    exact htells.address
  · intro hdescribed
    obtain ⟨literal, hliteral⟩ := hdescribed.name
    obtain ⟨name, hname⟩ := (exists_shown _).mpr ⟨literal, hliteral⟩
    obtain ⟨path, hpath⟩ := (exists_shown _).mpr ((exists_path hliteral).mpr hdescribed.path)
    obtain ⟨url, hurl⟩ := haddress.mpr hdescribed.address
    obtain ⟨size, hwhole⟩ := hsize.mpr hdescribed.size
    obtain ⟨sha, hhash⟩ := hsha.mpr hdescribed.sha
    exact ⟨_, hname, hpath, (isDirectory_mk name path _ url size sha).symm, by rwa [isDirectory_mk], hwhole, hhash⟩

theorem ofContents_isOk {value : Json} : (∃ entry, ofContents value = .ok entry) ↔ Describes value := by
  simp only [ofContents_eq_ok, Describes, ← exists_tells]
  constructor
  · rintro ⟨entry, members, hvalue, htells⟩
    exact ⟨members, hvalue, entry, htells⟩
  · rintro ⟨members, hvalue, entry, htells⟩
    exact ⟨entry, members, hvalue, htells⟩

theorem endsTyped_ofContents (values : List Json) :
    EndsTyped Anything (values.mapM ofContents) ↔ ∀ value ∈ values, Describes value := by
  rw [endsTyped_mapM ofContents_ne_engine]
  simp only [ofContents_isOk]

end Entry

/-! ## What is asked for -/

namespace Transport

/-- The request for a listing, by either way. -/
def listingRequest : Transport → (owner repo path branch : String) → Fallible Request
  | direct token apiUrl, owner, repo, path, branch => Client.listingRequest token apiUrl owner repo path branch
  | proxy baseUrl, owner, repo, path, branch =>
    Client.proxyRequest baseUrl "browse" [("owner", owner), ("repo", repo), ("path", path), ("branch", branch)]

/-- What is made of the reply to it. -/
def listed : Transport → (owner repo path : String) → Reply → Fallible (List Json)
  | direct _ _ => Client.listed
  | proxy _ => Client.proxyListed

/-- The request for a content, by either way. -/
def contentRequest : Transport → (url : String) → Fallible Request
  | direct _ _, url => Client.contentRequest url
  | proxy baseUrl, url => Client.proxyRequest baseUrl "content" [("url", url)]

/-- What is made of the reply to it. -/
def fetched : Transport → (url : String) → Reply → Fallible Json
  | direct _ _, _ => Client.fetched
  | proxy _, url => Client.proxyFetched url

end Transport

namespace Client

/-- Whether a client refuses to fetch from an address. A deployment is left to refuse it itself. -/
def refuses (client : Client) (url : String) : Bool :=
  match client.transport with
  | .direct _ _ => !Address.isTrusted client.trustedHosts url
  | .proxy _ => false

theorem listEntries_eq (client : Client) (owner repo path branch : String) :
    client.listEntries owner repo path branch =
      asking (client.transport.listingRequest owner repo path branch) (client.transport.listed owner repo path) := by
  unfold listEntries
  cases client.transport <;> rfl

theorem fetch_eq (client : Client) (url : String) :
    client.fetch url =
      if client.refuses url then .ready (fail .untrusted ("Refusing to fetch content from untrusted URL: " ++ url))
      else asking (client.transport.contentRequest url) (client.transport.fetched url) := by
  unfold fetch refuses
  cases client.transport with
  | direct token apiUrl =>
    dsimp only
    cases Address.isTrusted client.trustedHosts url <;> rfl
  | proxy baseUrl => rfl

/-! ## Requests that cannot be made -/

theorem ne_engine_of_isRefusal {failure : Failure} (h : Address.IsRefusal failure) (error : EngineError) :
    failure ≠ .engine error := by
  obtain ⟨message, rfl⟩ := h
  intro heq
  cases heq

theorem contentRequest_ne_engine (url : String) (error : EngineError) :
    contentRequest url ≠ .error (.engine error) := by
  intro h
  rcases haddress : Address.ofText url with failure | address
  · simp only [contentRequest, haddress, bind, Except.bind] at h
    cases h
    exact ne_engine_of_isRefusal (Address.ofText_error haddress) error rfl
  · simp only [contentRequest, haddress, bind, Except.bind] at h
    cases h

theorem proxyRequest_ne_engine (baseUrl endpoint : String) (members : List (String × String)) (error : EngineError) :
    proxyRequest baseUrl endpoint members ≠ .error (.engine error) := by
  intro h
  rcases haddress : Address.ofText (baseUrl ++ "/api/github/" ++ endpoint) with failure | address
  · simp only [proxyRequest, haddress, bind, Except.bind] at h
    cases h
    exact ne_engine_of_isRefusal (Address.ofText_error haddress) error rfl
  · simp only [proxyRequest, haddress, bind, Except.bind] at h
    cases h

theorem headerToken_ne_engine (token : Option String) (error : EngineError) :
    headerToken token ≠ .error (.engine error) := by
  intro h
  unfold headerToken at h
  split at h
  · cases h
  · split at h
    · cases h
    · dsimp only at h
      split at h
      · cases h
      · cases h

theorem listingRequest_ne_engine (token : Option String) (apiUrl owner repo path branch : String)
    (error : EngineError) : listingRequest token apiUrl owner repo path branch ≠ .error (.engine error) := by
  intro h
  unfold listingRequest at h
  rcases hwritten : Address.ofText (apiUrl ++ "/repos/" ++ owner ++ "/" ++ repo ++ "/contents/" ++ path) with
    failure | written
  · simp only [hwritten, bind, Except.bind] at h
    cases h
    exact ne_engine_of_isRefusal (Address.ofText_error hwritten) error rfl
  rcases htoken : headerToken token with failure | sendable
  · simp only [hwritten, htoken, bind, Except.bind] at h
    cases h
    exact headerToken_ne_engine token error htoken
  rcases haddress : written.withQuery "ref" branch with failure | address
  · simp only [hwritten, htoken, haddress, bind, Except.bind] at h
    cases h
    exact ne_engine_of_isRefusal (Address.withQuery_error haddress) error rfl
  · simp only [hwritten, htoken, haddress, bind, Except.bind] at h
    cases h

end Client

theorem Transport.listingRequest_ne_engine (transport : Transport) (owner repo path branch : String)
    (error : EngineError) : transport.listingRequest owner repo path branch ≠ .error (.engine error) := by
  cases transport with
  | direct token apiUrl => exact Client.listingRequest_ne_engine token apiUrl owner repo path branch error
  | proxy baseUrl => exact Client.proxyRequest_ne_engine baseUrl _ _ error

theorem Transport.contentRequest_ne_engine (transport : Transport) (url : String) (error : EngineError) :
    transport.contentRequest url ≠ .error (.engine error) := by
  cases transport with
  | direct token apiUrl => exact Client.contentRequest_ne_engine url error
  | proxy baseUrl => exact Client.proxyRequest_ne_engine baseUrl _ _ error

/-! ## Replies -/

theorem Client.itemsOf_ne_engine (value : Json) (error : EngineError) : itemsOf value ≠ .error (.engine error) := by
  intro h
  unfold itemsOf at h
  split at h <;> cases h

theorem Client.listingFailure_isEngine (status : Int) (owner repo path : String) :
    ∃ error, listingFailure status owner repo path = .engine error := by
  unfold listingFailure
  split
  · exact ⟨_, rfl⟩
  · split
    · exact ⟨_, rfl⟩
    · exact ⟨_, rfl⟩

namespace Transport

/-- Whether the JSON of a listing is made of entries alone. What a deployment sends in another form is a failure of its
own. -/
def HoldsEntries : Transport → Json → Prop
  | direct _ _, .arr items => ∀ item ∈ items, Entry.Describes item
  | direct _ _, value => Entry.Describes value
  | proxy _, .obj members =>
    ((Json.member? members "success").getD .null).isTruthy = true →
      ∃ items, Client.itemsOf ((Json.member? members "files").getD (.arr [])) = .ok items ∧
        ∀ item ∈ items, Entry.Describes item
  | proxy _, _ => True

/-- Whether a listing or a typed failure is made of a reply. -/
def ListsTyped (transport : Transport) : Reply → Prop
  | .failed _ => True
  | .answered status body =>
    isSuccess status = true → ∀ value, body.json = .ok value → transport.HoldsEntries value

/-- Whether a string or a typed failure is made of a reply to a request for a content. A codec may fail to read the body
of a reply of the host. -/
def FetchesTyped : Transport → Reply → Prop
  | _, .failed _ => True
  | direct _ _, .answered status body => isSuccess status = true → ∃ s, body.text = .ok s
  | proxy _, .answered status body =>
    isSuccess status = true → ∀ members content,
      body.json = .ok (.obj members) → Json.member? members "content" = some content → IsText content

/-- What is made of a reply of success that is JSON. -/
theorem endsTyped_entriesOf_json (transport : Transport) (owner repo path : String) {status : Int} {body : Body}
    (hstatus : isSuccess status = true) {value : Json} (hbody : body.json = .ok value) :
    EndsTyped Anything (Client.entriesOf (transport.listed owner repo path (.answered status body))) ↔
      transport.HoldsEntries value := by
  cases transport with
  | direct token apiUrl =>
    simp only [listed, Client.listed, if_pos hstatus, Client.jsonOf, hbody, bind, Except.bind]
    cases value with
    | arr items => exact Entry.endsTyped_ofContents items
    | null | bool | int | decimal | str | obj =>
      refine (Entry.endsTyped_ofContents [_]).trans ?_
      simp only [List.mem_singleton, forall_eq]
      rfl
  | proxy baseUrl =>
    simp only [listed, Client.proxyListed, if_pos hstatus, Client.jsonOf, hbody, bind, Except.bind]
    cases value with
    | obj members =>
      dsimp only [HoldsEntries]
      by_cases hsuccess : ((Json.member? members "success").getD .null).isTruthy = true
      · rw [if_pos hsuccess]
        simp only [hsuccess, true_implies]
        cases hitems : Client.itemsOf ((Json.member? members "files").getD (.arr [])) with
        | error failure =>
          refine iff_of_false ?_ ?_
          · rintro ⟨error, rfl⟩
            exact Client.itemsOf_ne_engine _ error hitems
          · rintro ⟨items, h, -⟩
            cases h
        | ok items =>
          simp only [Except.ok.injEq, exists_eq_left']
          exact Entry.endsTyped_ofContents items
      · rw [if_neg hsuccess]
        exact iff_of_true (endsTyped_fail _ _ _) fun h => absurd h hsuccess
    | null | bool | int | decimal | str | arr => exact iff_of_true (endsTyped_fail _ _ _) trivial

/-- What is made of a reply that is no listing fails as the reply does. -/
theorem listed_error (transport : Transport) (owner repo path : String) {reply : Reply}
    (hreply : ∀ status body value, reply = .answered status body → isSuccess status = true → body.json ≠ .ok value) :
    ∃ error, transport.listed owner repo path reply = .error (.engine error) := by
  cases reply with
  | failed message => cases transport <;> exact ⟨_, rfl⟩
  | answered status body =>
    by_cases hstatus : isSuccess status = true
    · cases hbody : body.json with
      | ok value => exact absurd hbody (hreply status body value rfl hstatus)
      | error problem =>
        cases transport with
        | direct token apiUrl => exact ⟨_, by simp only [listed, Client.listed, if_pos hstatus, Client.jsonOf, hbody]; rfl⟩
        | proxy baseUrl => exact ⟨_, by simp only [listed, Client.proxyListed, if_pos hstatus, Client.jsonOf, hbody]; rfl⟩
    · obtain ⟨error, herror⟩ := Client.listingFailure_isEngine status owner repo path
      cases transport with
      | direct token apiUrl => exact ⟨error, by simp only [listed, Client.listed, if_neg hstatus, herror]⟩
      | proxy baseUrl => exact ⟨error, by simp only [listed, Client.proxyListed, if_neg hstatus, herror]⟩

theorem endsTyped_entriesOf (transport : Transport) (owner repo path : String) (reply : Reply) :
    EndsTyped Anything (Client.entriesOf (transport.listed owner repo path reply)) ↔ transport.ListsTyped reply := by
  by_cases hjson : ∃ status body value, reply = .answered status body ∧ isSuccess status = true ∧ body.json = .ok value
  · obtain ⟨status, body, value, rfl, hstatus, hbody⟩ := hjson
    rw [transport.endsTyped_entriesOf_json owner repo path hstatus hbody]
    simp only [ListsTyped, hstatus, hbody, true_implies, Except.ok.injEq, forall_eq']
  · have hreply : ∀ status body value, reply = .answered status body → isSuccess status = true →
        body.json ≠ .ok value :=
      fun status body value hanswer hstatus hbody => hjson ⟨status, body, value, hanswer, hstatus, hbody⟩
    obtain ⟨error, herror⟩ := transport.listed_error owner repo path hreply
    rw [herror]
    refine iff_of_true ⟨error, rfl⟩ ?_
    cases reply with
    | failed message => trivial
    | answered status body => exact fun hstatus value hbody => absurd hbody (hreply status body value rfl hstatus)

/-- A reply of success is an object with such a content. -/
def HoldsContent (reply : Reply) (content : Json) : Prop :=
  ∃ status body members, reply = .answered status body ∧ isSuccess status = true ∧ body.json = .ok (.obj members) ∧
    Json.member? members "content" = some content

theorem proxyFetched_of_holdsContent {reply : Reply} {content : Json} (h : HoldsContent reply content) (url : String) :
    Client.proxyFetched url reply = .ok content := by
  obtain ⟨status, body, members, rfl, hstatus, hbody, hcontent⟩ := h
  have hserved : status ≠ 400 := by
    rintro rfl
    cases hstatus
  simp only [Client.proxyFetched, if_neg hserved, if_pos hstatus, Client.jsonOf, hbody, bind, Except.bind, hcontent]
  rfl

/-- Every other reply is a failure with a type. -/
theorem proxyFetched_error {reply : Reply} (h : ∀ content, ¬HoldsContent reply content) (url : String) :
    ∃ error, Client.proxyFetched url reply = .error (.engine error) := by
  cases reply with
  | failed message => exact ⟨_, rfl⟩
  | answered status body =>
    unfold Client.proxyFetched
    dsimp only
    split
    · exact ⟨_, rfl⟩
    · split
      · rename_i hstatus
        cases hbody : body.json with
        | error problem =>
          simp only [Client.jsonOf, hbody]
          exact ⟨_, rfl⟩
        | ok value =>
          simp only [Client.jsonOf, hbody, bind, Except.bind]
          split
          · split
            · rename_i content hcontent
              exact absurd ⟨status, body, _, rfl, hstatus, hbody, hcontent⟩ (h content)
            · exact ⟨_, rfl⟩
          · exact ⟨_, rfl⟩
      · exact ⟨_, rfl⟩

theorem fetchesTyped_proxy_iff (baseUrl : String) (reply : Reply) :
    (proxy baseUrl).FetchesTyped reply ↔ ∀ content, HoldsContent reply content → IsText content := by
  constructor
  · rintro h content ⟨status, body, members, rfl, hstatus, hbody, hcontent⟩
    exact h hstatus members content hbody hcontent
  · intro h
    cases reply with
    | failed message => trivial
    | answered status body =>
      exact fun hstatus members content hbody hcontent => h content ⟨status, body, members, rfl, hstatus, hbody, hcontent⟩

theorem endsTyped_fetched (transport : Transport) (url : String) (reply : Reply) :
    EndsTyped IsText (transport.fetched url reply) ↔ transport.FetchesTyped reply := by
  cases transport with
  | direct token apiUrl =>
    cases reply with
    | failed message => exact iff_of_true ⟨_, rfl⟩ trivial
    | answered status body =>
      rw [fetched, Client.fetched, FetchesTyped]
      by_cases hstatus : isSuccess status = true
      · rw [if_pos hstatus]
        simp only [hstatus, true_implies]
        obtain ⟨s, htext⟩ | ⟨use, kind, htext⟩ := text_cases body
        · rw [htext]
          exact iff_of_true ⟨s, rfl⟩ ⟨s, rfl⟩
        · rw [htext]
          exact iff_of_false (fun ⟨error, h⟩ => by cases h) fun ⟨s, h⟩ => by cases h
      · rw [if_neg hstatus]
        exact iff_of_true ⟨_, rfl⟩ fun h => absurd h hstatus
  | proxy baseUrl =>
    rw [fetchesTyped_proxy_iff, fetched]
    by_cases hholds : ∃ content, HoldsContent reply content
    · obtain ⟨content, hcontent⟩ := hholds
      have hmade := proxyFetched_of_holdsContent hcontent url
      rw [hmade]
      constructor
      · -- a reply holds no content but the one that is made of it
        intro htext other hother
        obtain rfl : content = other := Except.ok.inj (hmade.symm.trans (proxyFetched_of_holdsContent hother url))
        exact htext
      · exact fun h => h content hcontent
    · have hnone : ∀ content, ¬HoldsContent reply content := not_exists.mp hholds
      obtain ⟨error, herror⟩ := proxyFetched_error hnone url
      rw [herror]
      exact iff_of_true ⟨error, rfl⟩ fun content hcontent => absurd hcontent (hnone content)

end Transport

/-! ## The client -/

namespace Client

variable {σ : Type}

theorem run_asking {α : Type} (request : Fallible Request) (read : Reply → Fallible α)
    (answer : σ → Request → Reply × σ) (state : σ) :
    ((asking request read).toRemote.run answer state).1 = request.bind fun made => read (answer state made).1 := by
  cases request <;> rfl

theorem run_listDirectory_eq {client : Client} {owner repo : String} (howner : owner ≠ "") (hrepo : repo ≠ "")
    (path : String) (branch : Option String) (answer : σ → Request → Reply × σ) (state : σ) :
    ((client.listDirectory owner repo path branch).run answer state).1 =
      (client.transport.listingRequest owner repo (withoutOuterSlashes path)
        (chosenBranch client.defaultBranch branch)).bind fun request =>
          entriesOf (client.transport.listed owner repo (withoutOuterSlashes path) (answer state request).1) := by
  rw [listDirectory_of_ne howner hrepo, listEntries_eq]
  cases client.transport.listingRequest owner repo (withoutOuterSlashes path)
      (chosenBranch client.defaultBranch branch) with
  | error failure => rfl
  | ok request =>
    simp only [asking, Remote.run_andThen, Fetch.run_ask, Except.bind, entriesOf]
    cases client.transport.listed owner repo (withoutOuterSlashes path) (answer state request).1 <;> rfl

theorem run_browse_eq (client : Client) (owner repo path : String) (branch : Option String)
    (answer : σ → Request → Reply × σ) (state : σ) :
    ((client.browse owner repo path branch).run answer state).1 =
      ((client.listDirectory owner repo path branch).run answer state).1.map (List.filter Entry.isDirectory) := by
  rw [browse, Remote.run_andThen]
  rcases (client.listDirectory owner repo path branch).run answer state with ⟨result, after⟩
  cases result <;> rfl

/-- What follows a request ends well if the request can be made and what follows it ends well. -/
theorem endsTyped_bind {α : Type} {fits : α → Prop} {request : Fallible Request}
    (hrequest : ∀ error, request ≠ .error (.engine error)) (next : Request → Fallible α) :
    EndsTyped fits (request.bind next) ↔ ∃ made, request = .ok made ∧ EndsTyped fits (next made) := by
  cases request with
  | error failure =>
    refine iff_of_false ?_ ?_
    · rintro ⟨error, rfl⟩
      exact hrequest error rfl
    · rintro ⟨made, h, -⟩
      cases h
  | ok made => simp [Except.bind]

/-- A client lists and browses, or fails with a typed failure, exactly when the request for the listing can be made and
the reply either is no JSON of success or holds entries; it fetches a string, or fails with a typed failure, exactly when
it refuses the address, or the request for the content can be made and the body of the reply can be decoded, or holds no
content but a string. -/
theorem failures_typed_iff (client : Client) {owner repo : String} (howner : owner ≠ "") (hrepo : repo ≠ "")
    (path : String) (branch : Option String) (url : String) (answer : σ → Request → Reply × σ) (state : σ) :
    let lists := ∃ request,
      client.transport.listingRequest owner repo (withoutOuterSlashes path)
          (chosenBranch client.defaultBranch branch) = .ok request ∧
        client.transport.ListsTyped (answer state request).1
    let fetches := client.refuses url = true ∨ ∃ request,
      client.transport.contentRequest url = .ok request ∧ client.transport.FetchesTyped (answer state request).1
    (EndsTyped Anything ((client.listDirectory owner repo path branch).run answer state).1 ↔ lists) ∧
      (EndsTyped Anything ((client.browse owner repo path branch).run answer state).1 ↔ lists) ∧
      (EndsTyped IsText ((client.fetch url).toRemote.run answer state).1 ↔ fetches) := by
  intro lists fetches
  have hlists : EndsTyped Anything ((client.listDirectory owner repo path branch).run answer state).1 ↔ lists := by
    rw [run_listDirectory_eq howner hrepo, endsTyped_bind (client.transport.listingRequest_ne_engine _ _ _ _)]
    simp only [Transport.endsTyped_entriesOf, lists]
  refine ⟨hlists, ?_, ?_⟩
  · rw [run_browse_eq, endsTyped_map]
    exact hlists
  · rw [fetch_eq]
    by_cases hrefused : client.refuses url = true
    · rw [if_pos hrefused]
      exact iff_of_true (endsTyped_fail _ _ _) (.inl hrefused)
    · rw [if_neg hrefused, run_asking, endsTyped_bind (client.transport.contentRequest_ne_engine url)]
      simp only [Transport.endsTyped_fetched, fetches, hrefused, Bool.false_eq_true, false_or]

/-- A host that always replies the same. -/
def replying (reply : Reply) (_ : Unit) (_ : Request) : Reply × Unit := (reply, ())

/-- When the host cannot be reached, every request ends in a typed failure. -/
theorem failures_typed_offline :
    let offline := replying (.failed "unreachable")
    EndsTyped Anything ((trusting.listDirectory "acme" "widgets" "/demo/" none).run offline ()).1 ∧
      EndsTyped Anything ((trusting.browse "acme" "widgets" "/demo/" none).run offline ()).1 ∧
      EndsTyped IsText ((trusting.fetch "https://raw.githubusercontent.com/acme/widgets/main/a.css").toRemote.run
        offline ()).1 := by
  intro offline
  obtain ⟨hlist, hbrowse, hfetch⟩ :=
    failures_typed_iff trusting (show "acme" ≠ "" by decide) (show "widgets" ≠ "" by decide) "/demo/" none
      "https://raw.githubusercontent.com/acme/widgets/main/a.css" offline ()
  refine ⟨hlist.mpr ?_, hbrowse.mpr ?_, hfetch.mpr (.inr ?_)⟩
  · exact ⟨_, rfl, trivial⟩
  · exact ⟨_, rfl, trivial⟩
  · exact ⟨_, rfl, trivial⟩

/-- An object with one member is read back from the body that it is sent as. -/
theorem json_ofJson_single (name : String) {value : Json} (hvalue : value.Travels) :
    (Body.ofJson (.ofMembers [(name, value)])).json = .ok (.ofMembers [(name, value)]) := by
  have htravels : (Json.ofMembers [(name, value)]).Travels := Json.Travels.ofMembers (by simp) (by simpa using hvalue)
  exact htravels.json_ofJson

/-- An entry without a name, a content that is no text, and an address with a control character end in failures of
other kinds, or in a value of another kind. -/
theorem not_failures_typed :
    (¬∀ (client : Client) (owner repo path : String) (branch : Option String) (reply : Reply), owner ≠ "" → repo ≠ "" →
      EndsTyped Anything ((client.listDirectory owner repo path branch).run (replying reply) ()).1) ∧
    (¬∀ (client : Client) (url : String) (reply : Reply),
      EndsTyped IsText ((client.fetch url).toRemote.run (replying reply) ()).1) ∧
    ¬∀ (client : Client) (owner repo path : String) (branch : Option String), owner ≠ "" → repo ≠ "" →
      EndsTyped Anything ((client.listDirectory owner repo path branch).run (replying (.failed "")) ()).1 := by
  refine ⟨fun h => ?_, fun h => ?_, fun h => ?_⟩
  · have hbody := json_ofJson_single "path" (.text "a")
    have hlist := h trusting "acme" "widgets" "" none (.answered 200 (.ofJson (.ofMembers [("path", .ofString "a")])))
      (by decide) (by decide)
    rw [run_listDirectory_eq (by decide) (by decide), endsTyped_bind (trusting.transport.listingRequest_ne_engine _ _ _ _)]
      at hlist
    obtain ⟨made, -, htyped⟩ := hlist
    obtain ⟨members, heq, hdescribed⟩ := (trusting.transport.endsTyped_entriesOf_json _ _ _ rfl hbody).mp htyped
    cases heq
    obtain ⟨s, hname⟩ := hdescribed.name
    cases hname
  · let client : Client := ⟨.proxy "https://builder.example", [], "main"⟩
    have hbody := json_ofJson_single "content" .null
    have hfetch := h client "" (.answered 200 (.ofJson (.ofMembers [("content", .null)])))
    rw [fetch_eq, if_neg (by decide), run_asking, endsTyped_bind (client.transport.contentRequest_ne_engine _)] at hfetch
    obtain ⟨made, -, htyped⟩ := hfetch
    obtain ⟨s, heq⟩ := (client.transport.endsTyped_fetched _ _).mp htyped rfl _ _ hbody rfl
    cases heq
  · have hlist := h trusting "acme" "widgets" "\x01" none (by decide) (by decide)
    have hfailure : ∃ message, ((trusting.listDirectory "acme" "widgets" "\x01" none).run
        (replying (.failed "")) ()).1 = .error (.badAddress message) := ⟨_, rfl⟩
    obtain ⟨message, hfailure⟩ := hfailure
    rw [hfailure] at hlist
    obtain ⟨error, heq⟩ := hlist
    cases heq

end Client

end Showcase
