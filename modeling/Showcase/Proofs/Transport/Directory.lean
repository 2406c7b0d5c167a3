import Showcase.Client
import Showcase.Proofs.Address.Parts
import Showcase.Proofs.Address.Steps
import Showcase.Text.Printable

/-!
# The directory that a listing addresses

A listing is asked for at an address that owner, repository and path are pasted into. The address is that of the
directory when these stand for themselves: they have no mark of a query or a fragment, nothing that reads as an escape,
and no steps to the same place or upwards. Otherwise it is the address of another directory. The branch is encoded, so
the query always asks for it, and for nothing else.
-/

namespace Showcase.Address

/-! ## Forms -/

/-- The bytes that a name or value in a form stands for. -/
def formBytes (s : List Char) : List UInt8 := decodedBytes (s.map fun c => if c == '+' then ' ' else c)

/-- The names and values of a query that is a form. -/
def formFields (query : List Char) : List (List UInt8 × List UInt8) :=
  (Text.splitAtChar '&' query).map fun field =>
    (formBytes (Text.cutAtFirst '=' field).1, formBytes ((Text.cutAtFirst '=' field).2.getD []))

theorem bounds_of_isUnreserved {c : Char} (hc : isUnreserved c = true) : 32 < c.toNat ∧ c.toNat < 127 := by
  simp only [isUnreserved, Text.isLetter, Text.isDigit, Bool.or_eq_true, Bool.and_eq_true, decide_eq_true_eq,
    beq_iff_eq] at hc
  rcases hc with (((((⟨hge, hle⟩ | ⟨hge, hle⟩) | ⟨hge, hle⟩) | rfl) | rfl) | rfl) | rfl
  · exact ⟨Nat.lt_of_lt_of_le (by decide) (Text.toNat_le_of_le hge), Nat.lt_of_le_of_lt (Text.toNat_le_of_le hle) (by decide)⟩
  · exact ⟨Nat.lt_of_lt_of_le (by decide) (Text.toNat_le_of_le hge), Nat.lt_of_le_of_lt (Text.toNat_le_of_le hle) (by decide)⟩
  · exact ⟨Nat.lt_of_lt_of_le (by decide) (Text.toNat_le_of_le hge), Nat.lt_of_le_of_lt (Text.toNat_le_of_le hle) (by decide)⟩
  · decide
  · decide
  · decide
  · decide

/-- Characters that stand for themselves everywhere stand for themselves among any exclusions but of them. -/
theorem isPlainExcept_of_isUnreserved {excluded : String}
    (hexcluded : (excluded.toList.all fun c => !isUnreserved c) = true) {c : Char} (hc : isUnreserved c = true) :
    isPlainExcept excluded c = true := by
  have hbounds := bounds_of_isUnreserved hc
  have hkept : c ∉ excluded.toList := by
    intro hmem
    have hreserved := List.all_eq_true.mp hexcluded c hmem
    rw [hc] at hreserved
    cases hreserved
  simp [isPlainExcept, hbounds.1, hbounds.2, hkept]

theorem mem_encodeFormValue {s : List Char} {d : Char} (h : d ∈ encodeFormValue s) :
    d = '+' ∨ d = '%' ∨ isUnreserved d = true := by
  obtain ⟨c, -, hd⟩ := List.mem_flatMap.mp h
  split at hd
  · exact .inl (List.mem_singleton.mp hd)
  split at hd
  · rename_i hc
    rw [List.mem_singleton.mp hd]
    exact .inr (.inr hc)
  · rcases mem_percentEncode hd with rfl | hhex
    · exact .inr (.inl rfl)
    · exact .inr (.inr (isUnreserved_of_hexValue? hhex))

/-- A value of a form is read back from what is written of it. -/
theorem formBytes_encodeFormValue (s : List Char) :
    formBytes (encodeFormValue s) = s.flatMap String.utf8EncodeChar := by
  induction s with
  | nil => rfl
  | cons c rest ih =>
    have hcons : encodeFormValue (c :: rest) =
        (if c == ' ' then ['+'] else if isUnreserved c then [c] else percentEncode c) ++ encodeFormValue rest := rfl
    rw [hcons, formBytes, List.map_append, List.flatMap_cons, ← ih]
    -- a blank stands as a plus, a plain character for itself, and anything else as escapes
    by_cases hblank : c = ' '
    · subst hblank
      exact decodedBytes_of_alone (beginsEscape_of_ne (by decide) _)
    rw [if_neg (by simpa using hblank)]
    by_cases hplain : isUnreserved c = true
    · have hplus : c ≠ '+' := by
        rintro rfl
        cases hplain
      have hpercent : c ≠ '%' := by
        rintro rfl
        cases hplain
      have hkept : (if c == '+' then ' ' else c) = c := if_neg (by simpa using hplus)
      rw [if_pos hplain, List.map_singleton, hkept, List.singleton_append]
      exact decodedBytes_of_alone (beginsEscape_of_ne hpercent _)
    · have hkept : (percentEncode c).map (fun d => if d == '+' then ' ' else d) = percentEncode c := by
        conv_rhs => rw [← List.map_id (percentEncode c)]
        apply List.map_congr_left
        intro d hd
        apply if_neg
        rw [beq_iff_eq]
        rintro rfl
        rcases mem_percentEncode hd with hpercent | hhex
        · cases hpercent
        · cases hhex
      rw [if_neg hplain, hkept, decodedBytes_percentEncode]
      rfl

theorem formFields_encodeFormValue (name value : List Char) :
    formFields (encodeFormValue name ++ '=' :: encodeFormValue value) =
      [(name.flatMap String.utf8EncodeChar, value.flatMap String.utf8EncodeChar)] := by
  have hnone : ∀ {s : List Char} {d : Char}, d ≠ '+' → d ≠ '%' → isUnreserved d = false → d ∉ encodeFormValue s := by
    intro s d hplus hpercent hreserved hd
    rcases mem_encodeFormValue hd with h | h | h
    · exact hplus h
    · exact hpercent h
    · rw [hreserved] at h
      cases h
  have hone : '&' ∉ encodeFormValue name ++ '=' :: encodeFormValue value := by
    simp only [List.mem_append, List.mem_cons, not_or]
    exact ⟨hnone (by decide) (by decide) (by decide), by decide, hnone (by decide) (by decide) (by decide)⟩
  have hcut : Text.cutAtFirst '=' (encodeFormValue name ++ '=' :: encodeFormValue value) =
      (encodeFormValue name, some (encodeFormValue value)) :=
    Text.cutAtFirst_append (hnone (by decide) (by decide) (by decide)) _
  rw [formFields, Text.splitAtChar_of_not_mem hone, List.map_singleton, hcut]
  simp only [Option.getD_some, formBytes_encodeFormValue]

/-! ## Texts that stand for themselves -/

/-- A text that stands in a path for itself: it has no mark of a query or a fragment, nothing that reads as an escape,
and no steps to the same place or upwards. -/
structure IsLiteral (s : List Char) : Prop where
  unmarked : '?' ∉ s ∧ '#' ∉ s
  unescaped : IsUnescaped s
  settled : IsSettled s

theorem isSettled_append {s t : List Char} : IsSettled (s ++ '/' :: t) ↔ IsSettled s ∧ IsSettled t := by
  rw [IsSettled, Text.splitAtChar_append]
  exact List.forall_mem_append

theorem isLiteral_append {s t : List Char} : IsLiteral (s ++ '/' :: t) ↔ IsLiteral s ∧ IsLiteral t := by
  constructor
  · intro h
    have hunmarked := h.unmarked
    simp only [List.mem_append, List.mem_cons, not_or] at hunmarked
    have hunescaped := (isUnescaped_append (by decide) (by decide)).mp h.unescaped
    have hsettled := isSettled_append.mp h.settled
    exact ⟨⟨⟨hunmarked.1.1, hunmarked.2.1⟩, hunescaped.1, hsettled.1⟩,
      ⟨⟨hunmarked.1.2.2, hunmarked.2.2.2⟩, hunescaped.2, hsettled.2⟩⟩
  · rintro ⟨hs, ht⟩
    refine ⟨?_, (isUnescaped_append (by decide) (by decide)).mpr ⟨hs.unescaped, ht.unescaped⟩,
      isSettled_append.mpr ⟨hs.settled, ht.settled⟩⟩
    simp [hs.unmarked, ht.unmarked]

/-- A text without any of the marks of a path stands for itself. -/
theorem isLiteral_of_not_mem {s : List Char} (hquery : '?' ∉ s) (hfragment : '#' ∉ s) (hescape : '%' ∉ s)
    (hdot : '.' ∉ s) : IsLiteral s :=
  ⟨⟨hquery, hfragment⟩, isUnescaped_of_not_mem hescape, isSettled_of_not_mem hdot⟩

/-! ## Paths that go on -/

theorem length_flatMap_unmarkedPart (s : List Char) :
    ((unmarkedPart s).flatMap String.utf8EncodeChar).length ≤ (s.flatMap String.utf8EncodeChar).length ∧
      (((unmarkedPart s).flatMap String.utf8EncodeChar).length = (s.flatMap String.utf8EncodeChar).length →
        unmarkedPart s = s) := by
  obtain ⟨rest, hrest⟩ := List.takeWhile_prefix (p := fun c => c != '#' && c != '?') (l := s)
  have hsplit : unmarkedPart s ++ rest = s := hrest
  have hsum : (s.flatMap String.utf8EncodeChar).length =
      ((unmarkedPart s).flatMap String.utf8EncodeChar).length + (rest.flatMap String.utf8EncodeChar).length := by
    conv_lhs => rw [← hsplit]
    rw [List.flatMap_append, List.length_append]
  refine ⟨by omega, fun heq => ?_⟩
  rcases rest with _ | ⟨c, others⟩
  · rwa [List.append_nil] at hsplit
  · have hpositive := length_utf8EncodeChar_pos c
    rw [List.flatMap_cons, List.length_append] at hsum
    omega

/-- What is pasted after a path stands for itself, before any mark in the path, exactly when it is literal and there is
no such mark. In any other case something is lost. -/
theorem decodedBytes_pasted_iff {path : List Char} (hpath : unmarkedPart path = [] ∨ (unmarkedPart path).head? = some '/')
    (rest : List Char) :
    decodedBytes (normalPath (unmarkedPart (path ++ '/' :: rest))) =
        decodedBytes (normalPath (unmarkedPart path)) ++ ('/' :: rest).flatMap String.utf8EncodeChar ↔
      unmarkedPart path = path ∧ IsLiteral rest := by
  have hslash : (String.utf8EncodeChar '/').length = 1 := by decide
  constructor
  · intro h
    have hlength := congrArg List.length h
    rw [List.length_append, List.flatMap_cons, List.length_append, hslash, unmarkedPart_append] at hlength
    by_cases hkept : unmarkedPart path = path
    · rw [if_pos hkept, hkept] at hlength
      rw [hkept] at hpath
      -- each of the three ways to lose something makes the path stand for less
      have hresolved := length_normalPath_append hpath (unmarkedPart rest)
      have hdecoded := length_decodedBytes (unmarkedPart rest)
      have hcut := length_flatMap_unmarkedPart rest
      have hrest : unmarkedPart rest = rest := hcut.2 (by omega)
      rw [hrest] at hresolved hdecoded hlength
      exact ⟨hkept, unmarkedPart_eq_self.mp hrest, hdecoded.2 (by omega), hresolved.2 (by omega)⟩
    · rw [if_neg hkept] at hlength
      omega
  · rintro ⟨hkept, hliteral⟩
    rw [hkept] at hpath
    rw [unmarkedPart_append, if_pos hkept, hkept, unmarkedPart_eq_self.mpr hliteral.unmarked,
      normalPath_append hpath hliteral.settled, decodedBytes_append (by decide) (by decide),
      decodedBytes_of_unescaped hliteral.unescaped, List.flatMap_cons]

end Showcase.Address

namespace Showcase.Client

open Address Network

/-! ## Requests for listings -/

/-- What stands in the address of a listing after that of the interface and a slash. -/
def listingPath (owner repo path : String) : List Char :=
  "repos".toList ++ '/' :: (owner.toList ++ '/' :: (repo.toList ++ '/' :: ("contents".toList ++ '/' :: path.toList)))

theorem toList_listing (apiUrl owner repo path : String) :
    (apiUrl ++ "/repos/" ++ owner ++ "/" ++ repo ++ "/contents/" ++ path).toList =
      apiUrl.toList ++ '/' :: listingPath owner repo path := by
  simp only [String.toList_append, List.append_assoc]
  rfl

/-- What a request for a listing consists of. -/
theorem listingRequest_cases {token : Option String} {apiUrl owner repo path branch : String} {request : Request}
    (h : listingRequest token apiUrl owner repo path branch = .ok request) :
    ∃ written sendable, ofText (apiUrl ++ "/repos/" ++ owner ++ "/" ++ repo ++ "/contents/" ++ path) = .ok written ∧
      headerToken token = .ok sendable ∧ written.withQuery "ref" branch = .ok request.address ∧
      request = ⟨.get, request.address, if request.address.hasCredentials then none else sendable, some listingForm,
        some agentName, none⟩ := by
  unfold listingRequest at h
  rcases hwritten : ofText (apiUrl ++ "/repos/" ++ owner ++ "/" ++ repo ++ "/contents/" ++ path) with failure | written
  · simp only [hwritten, bind, Except.bind] at h
    cases h
  rcases htoken : headerToken token with failure | sendable
  · simp only [hwritten, htoken, bind, Except.bind] at h
    cases h
  rcases haddress : written.withQuery "ref" branch with failure | address
  · simp only [hwritten, htoken, haddress, bind, Except.bind] at h
    cases h
  · simp only [hwritten, htoken, haddress, bind, Except.bind, pure, Except.pure] at h
    cases h
    exact ⟨written, sendable, rfl, rfl, haddress, rfl⟩

/-- What a request for a content consists of. -/
theorem contentRequest_cases {url : String} {request : Request} (h : contentRequest url = .ok request) :
    request = ⟨.get, request.address, none, none, some agentName, none⟩ := by
  rcases haddress : ofText url with failure | address
  · simp only [contentRequest, haddress, bind, Except.bind] at h
    cases h
  · simp only [contentRequest, haddress, bind, Except.bind, pure, Except.pure] at h
    cases h
    rfl

/-- What a request to a deployment consists of. -/
theorem proxyRequest_cases {baseUrl endpoint : String} {members : List (String × String)} {request : Request}
    (h : proxyRequest baseUrl endpoint members = .ok request) :
    request = ⟨.post, request.address, none, none, none, some (.ofBindings members)⟩ := by
  rcases haddress : ofText (baseUrl ++ "/api/github/" ++ endpoint) with failure | address
  · simp only [proxyRequest, haddress, bind, Except.bind] at h
    cases h
  · simp only [proxyRequest, haddress, bind, Except.bind, pure, Except.pure] at h
    cases h
    rfl

/-- The address of a directory below that of the interface: when the encoding is undone its path is the one that leads
to the directory, and its query asks for the branch and nothing else. -/
structure Addresses (base : Address) (owner repo path branch : String) (address : Address) : Prop where
  path : decodedBytes address.path.toList =
    decodedBytes base.path.toList ++ ('/' :: listingPath owner repo path).flatMap String.utf8EncodeChar
  query : address.query.map (fun query => formFields query.toList) =
    some [("ref".toList.flatMap String.utf8EncodeChar, branch.toList.flatMap String.utf8EncodeChar)]
  fragment : address.fragment = none

/-- A form is encoded already. -/
theorem encoded_form (name value : List Char) :
    encoded queryExclusions (encodeFormValue name ++ '=' :: encodeFormValue value) =
      String.ofList (encodeFormValue name ++ '=' :: encodeFormValue value) := by
  have hplain : ∀ {s : List Char}, ∀ d ∈ encodeFormValue s, isPlainExcept queryExclusions d = true := by
    intro s d hd
    rcases mem_encodeFormValue hd with rfl | rfl | hreserved
    · decide
    · decide
    · exact isPlainExcept_of_isUnreserved (by decide) hreserved
  rw [encoded, encodePart_eq_self]
  intro d hd
  rcases List.mem_append.mp hd with hname | hrest
  · exact hplain d hname
  · rcases List.mem_cons.mp hrest with rfl | hvalue
    · decide
    · exact hplain d hvalue

/-- The address that was written in the request, whose path has been resolved, keeps what its path stands for when it is
given its query. -/
theorem withQuery_ok {text : List Char} {written address : Address} {name value : String}
    (hwritten : Consists (writtenParts text) written) (hbare : written.isBare = false)
    (h : written.withQuery name value = .ok address) :
    decodedBytes address.path.toList = decodedBytes (normalPath (writtenParts text).path) ∧
      address.query.map (fun query => formFields query.toList) =
        some [(name.toList.flatMap String.utf8EncodeChar, value.toList.flatMap String.utf8EncodeChar)] ∧
      (address.fragment = none ↔ written.fragment = none) := by
  have hparts := (ofSizedParts_eq_ok.mp h).2
  have hpath := hwritten.path
  rw [hbare, if_neg Bool.false_ne_true] at hpath
  refine ⟨?_, ?_, ?_⟩
  · have hsettled : IsSettled written.path.toList := by
      rw [hpath, encoded, String.toList_ofList]
      exact IsSettled.encodePart (by decide) (by decide) (isSettled_normalPath _)
    have hkept : (if address.isBare then written.path.toList else normalPath written.path.toList) =
        written.path.toList := by
      rw [normalPath_of_settled hsettled, ite_self]
    rw [hparts.path, hkept, encoded, String.toList_ofList, decodedBytes_encodePart, hpath, encoded,
      String.toList_ofList, decodedBytes_encodePart]
  · rw [hparts.query, Option.map_some, Option.map_some, encoded_form, String.toList_ofList, formFields_encodeFormValue]
  · rw [hparts.fragment]
    simp

/-- An address without query and fragment was written without their marks. -/
theorem unmarkedPart_of_none {text : List Char} {base : Address} (h : Consists (writtenParts text) base) :
    (base.query = none ∧ base.fragment = none) ↔
      unmarkedPart (afterAuthority (cutScheme text).2) = afterAuthority (cutScheme text).2 := by
  rw [h.query, h.fragment, Option.map_eq_none_iff, Option.map_eq_none_iff, writtenParts_eq, beforeFragment,
    unmarkedPart_eq_self, Text.cutAtFirst_eq_none, Text.cutAtFirst_eq_none]
  constructor
  · rintro ⟨hquery, hfragment⟩
    rw [Text.cutAtFirst_of_not_mem hfragment] at hquery
    exact ⟨hquery, hfragment⟩
  · rintro ⟨hquery, hfragment⟩
    rw [Text.cutAtFirst_of_not_mem hfragment]
    exact ⟨hquery, hfragment⟩

theorem isLiteral_listingPath {owner repo path : String} :
    IsLiteral (listingPath owner repo path) ↔
      IsLiteral owner.toList ∧ IsLiteral repo.toList ∧ IsLiteral path.toList := by
  have hrepos : IsLiteral "repos".toList := isLiteral_of_not_mem (by decide) (by decide) (by decide) (by decide)
  have hcontents : IsLiteral "contents".toList :=
    isLiteral_of_not_mem (by decide) (by decide) (by decide) (by decide)
  rw [listingPath, isLiteral_append, isLiteral_append, isLiteral_append, isLiteral_append]
  simp only [hrepos, hcontents, true_and]

/-- A request for a listing is at the address of its directory exactly when the address of the interface has no query
and no fragment, and owner, repository and path are literal. -/
theorem addresses_iff {token : Option String} {apiUrl owner repo path branch : String} {base : Address}
    (hbase : ofText apiUrl = .ok base) (habsolute : base.isAbsolute = true) {request : Request}
    (hrequest : listingRequest token apiUrl owner repo path branch = .ok request) :
    Addresses base owner repo path branch request.address ↔
      (base.query = none ∧ base.fragment = none) ∧
        IsLiteral owner.toList ∧ IsLiteral repo.toList ∧ IsLiteral path.toList := by
  obtain ⟨written, sendable, hwritten, -, haddress, -⟩ := listingRequest_cases hrequest
  have hparts := (ofWritten_eq_ok.mp (ofText_absolute hbase habsolute)).2.2
  obtain ⟨hlonger, hsame, hafter⟩ :=
    ofText_append (toList_listing apiUrl owner repo path) hbase habsolute hwritten
  obtain ⟨hpath, hquery, hfragment⟩ := withQuery_ok hlonger (hasAuthority_of_isAbsolute hsame).2 haddress
  -- the paths are compared as they were written: decoding undoes the escapes that reading them put in
  have hbasePath : decodedBytes base.path.toList =
      decodedBytes (normalPath (unmarkedPart (afterAuthority (cutScheme apiUrl.toList).2))) := by
    rw [hparts.path, (hasAuthority_of_isAbsolute habsolute).2, if_neg Bool.false_ne_true, encoded, String.toList_ofList,
      decodedBytes_encodePart, path_writtenParts]
  have hrooted := hparts.rooted (hasAuthority_of_isAbsolute habsolute).1
  rw [path_writtenParts] at hrooted
  rw [path_writtenParts, hafter] at hpath
  have hpasted := decodedBytes_pasted_iff hrooted (listingPath owner repo path)
  rw [← hpath, ← hbasePath, ← unmarkedPart_of_none hparts, isLiteral_listingPath] at hpasted
  constructor
  · intro h
    exact hpasted.mp h.path
  · intro h
    refine ⟨hpasted.mpr h, hquery, ?_⟩
    rw [hfragment, hlonger.fragment, Option.map_eq_none_iff, writtenParts_eq, hafter, Text.cutAtFirst_eq_none]
    have hkept := (unmarkedPart_of_none hparts).mp h.1
    have hliteral := isLiteral_listingPath.mpr h.2
    simp [(unmarkedPart_eq_self.mp hkept).2, hliteral.unmarked.2]

/-- The first slash after a text without slashes is where it ends. -/
theorem eq_of_append_slash {first second rest later : List Char} (hfirst : '/' ∉ first) (hsecond : '/' ∉ second)
    (h : first ++ '/' :: rest = second ++ '/' :: later) : first = second ∧ rest = later := by
  have hcut := congrArg (Text.cutAtFirst '/') h
  rw [Text.cutAtFirst_append hfirst, Text.cutAtFirst_append hsecond] at hcut
  exact ⟨(Prod.mk.inj hcut).1, Option.some.inj (Prod.mk.inj hcut).2⟩

/-- One address is that of one directory and one branch. -/
theorem Addresses.unique {base address : Address} {owner repo path branch owner' repo' path' branch' : String}
    (h : Addresses base owner repo path branch address) (h' : Addresses base owner' repo' path' branch' address)
    (howner : '/' ∉ owner.toList ∧ '/' ∉ owner'.toList) (hrepo : '/' ∉ repo.toList ∧ '/' ∉ repo'.toList) :
    owner = owner' ∧ repo = repo' ∧ path = path' ∧ branch = branch' := by
  have hpath : listingPath owner repo path = listingPath owner' repo' path' := by
    have hbytes := h.path.symm.trans h'.path
    exact (List.cons.inj (Text.flatMap_utf8EncodeChar_injective (List.append_cancel_left hbytes))).2
  have hrest := (List.cons.inj (List.append_cancel_left hpath)).2
  obtain ⟨hsameOwner, hrest⟩ := eq_of_append_slash howner.1 howner.2 hrest
  obtain ⟨hsameRepo, hrest⟩ := eq_of_append_slash hrepo.1 hrepo.2 hrest
  have hsamePath := (List.cons.inj (List.append_cancel_left hrest)).2
  have hquery := h.query.symm.trans h'.query
  simp only [Option.some.injEq, List.cons.injEq, Prod.mk.injEq, true_and, and_true] at hquery
  exact ⟨String.toList_inj.mp hsameOwner, String.toList_inj.mp hsameRepo, String.toList_inj.mp hsamePath,
    String.toList_inj.mp (Text.flatMap_utf8EncodeChar_injective hquery)⟩

theorem mem_requests_asking {α : Type} {request : Fallible Request} {read : Reply → Fallible α} {made : Request} :
    made ∈ Fetch.requests [asking request read] ↔ request = .ok made := by
  cases request with
  | error failure => simp [asking, Fetch.requests]
  | ok other => simp [asking, Fetch.requests, eq_comm]

/-- A direct client and the requests by which it lists. A request is at the address of the directory that is listed
exactly when the address of the interface has no query and no fragment, and owner, repository and path are literal; and
then no request for another directory or branch is at the same address. -/
theorem listing_addresses_directory {client : Client} {token : Option String} {apiUrl : String}
    (hdirect : client.transport = .direct token apiUrl) {base : Address} (hbase : ofText apiUrl = .ok base)
    (habsolute : base.isAbsolute = true) {owner repo path branch : String} {request : Request}
    (hrequest : request ∈ Fetch.requests [client.listEntries owner repo path branch]) :
    (Addresses base owner repo path branch request.address ↔
      (base.query = none ∧ base.fragment = none) ∧
        IsLiteral owner.toList ∧ IsLiteral repo.toList ∧ IsLiteral path.toList) ∧
    ((base.query = none ∧ base.fragment = none) → IsLiteral owner.toList → IsLiteral repo.toList →
      IsLiteral path.toList → '/' ∉ owner.toList → '/' ∉ repo.toList →
      ∀ {owner' repo' path' branch' : String} {request' : Request},
        request' ∈ Fetch.requests [client.listEntries owner' repo' path' branch'] →
        IsLiteral owner'.toList → IsLiteral repo'.toList → IsLiteral path'.toList →
        '/' ∉ owner'.toList → '/' ∉ repo'.toList → request.address = request'.address →
        owner = owner' ∧ repo = repo' ∧ path = path' ∧ branch = branch') := by
  have hasked : ∀ {owner repo path branch : String} {request : Request},
      request ∈ Fetch.requests [client.listEntries owner repo path branch] →
      listingRequest token apiUrl owner repo path branch = .ok request := by
    intro owner repo path branch request hmem
    rw [listEntries, hdirect] at hmem
    exact mem_requests_asking.mp hmem
  refine ⟨addresses_iff hbase habsolute (hasked hrequest), ?_⟩
  intro hplain howner hrepo hpath howned hnamed owner' repo' path' branch' request' hrequest' howner' hrepo' hpath'
    howned' hnamed' hsame
  have hfirst := (addresses_iff hbase habsolute (hasked hrequest)).mpr ⟨hplain, howner, hrepo, hpath⟩
  have hsecond := (addresses_iff hbase habsolute (hasked hrequest')).mpr ⟨hplain, howner', hrepo', hpath'⟩
  rw [← hsame] at hsecond
  exact hfirst.unique hsecond ⟨howned, howned'⟩ ⟨hnamed, hnamed'⟩

/-- A client of the interface, without a token. -/
def bareClient : Client := ⟨.direct none "https://api.github.com", [], "main"⟩

/-- The address of the interface. -/
def interface : Address := ⟨"https", "", "api.github.com", none, "", none, none⟩

/-- The directory `demo` is asked for at its own address, and `src` at another. -/
theorem listing_addresses_demo :
    ∃ request, request ∈ Fetch.requests [bareClient.listEntries "acme" "widgets" "demo" "main"] ∧
      Addresses interface "acme" "widgets" "demo" "main" request.address ∧
      ∀ request' ∈ Fetch.requests [bareClient.listEntries "acme" "widgets" "src" "main"],
        request.address ≠ request'.address := by
  have hliteral : ∀ s ∈ ["acme", "widgets", "demo", "src"], IsLiteral s.toList := by
    have hplain : ∀ s ∈ ["acme", "widgets", "demo", "src"],
        '?' ∉ s.toList ∧ '#' ∉ s.toList ∧ '%' ∉ s.toList ∧ '.' ∉ s.toList := by decide
    intro s hs
    obtain ⟨hquery, hfragment, hescape, hdot⟩ := hplain s hs
    exact isLiteral_of_not_mem hquery hfragment hescape hdot
  obtain ⟨request, hrequest⟩ : ∃ request, listingRequest none "https://api.github.com" "acme" "widgets" "demo" "main" =
      .ok request := ⟨_, rfl⟩
  have hmem : request ∈ Fetch.requests [bareClient.listEntries "acme" "widgets" "demo" "main"] :=
    mem_requests_asking.mpr hrequest
  obtain ⟨haddresses, hunique⟩ := listing_addresses_directory (show bareClient.transport = .direct none _ from rfl)
    (show ofText "https://api.github.com" = .ok interface from rfl) (by decide) hmem
  refine ⟨request, hmem, ?_, fun request' hrequest' hsame => ?_⟩
  · exact haddresses.mpr ⟨⟨rfl, rfl⟩, hliteral _ (by simp), hliteral _ (by simp), hliteral _ (by simp)⟩
  · have hequal := hunique ⟨rfl, rfl⟩ (hliteral _ (by simp)) (hliteral _ (by simp)) (hliteral _ (by simp)) (by decide)
      (by decide) hrequest' (hliteral _ (by simp)) (hliteral _ (by simp)) (hliteral _ (by simp)) (by decide) (by decide)
      hsame
    exact absurd hequal.2.2.1 (by decide)

/-- Printable and without slashes at its ends. -/
def IsAskedFor (path : String) : Prop :=
  (∀ c ∈ path.toList, Text.isPrintable c = true) ∧ path.toList.head? ≠ some '/' ∧ path.toList.getLast? ≠ some '/'

/-- The directory `c#d` is asked for at another address, and `c?d` at the same address as `c`. -/
theorem not_listing_addresses_directory :
    (¬∀ (owner repo path branch : String) (request : Request), owner ≠ "" → '/' ∉ owner.toList → repo ≠ "" →
      '/' ∉ repo.toList → IsAskedFor path →
      request ∈ Fetch.requests [bareClient.listEntries owner repo path branch] →
      Addresses interface owner repo path branch request.address) ∧
    ¬∀ (owner repo path path' branch : String) (request request' : Request), owner ≠ "" → '/' ∉ owner.toList →
      repo ≠ "" → '/' ∉ repo.toList → IsAskedFor path → IsAskedFor path' →
      request ∈ Fetch.requests [bareClient.listEntries owner repo path branch] →
      request' ∈ Fetch.requests [bareClient.listEntries owner repo path' branch] →
      request.address = request'.address → path = path' := by
  constructor
  · intro h
    obtain ⟨request, hrequest⟩ : ∃ request,
        listingRequest none "https://api.github.com" "acme" "widgets" "c#d" "main" = .ok request := ⟨_, rfl⟩
    have haddresses := h "acme" "widgets" "c#d" "main" request (by decide) (by decide) (by decide) (by decide)
      ⟨List.all_eq_true.mp (by decide), by decide, by decide⟩ (mem_requests_asking.mpr hrequest)
    have hliteral := ((addresses_iff (show ofText "https://api.github.com" = .ok interface from rfl) (by decide)
      hrequest).mp haddresses).2.2.2
    exact absurd hliteral.unmarked.2 (by decide)
  · intro h
    let address : Address :=
      ⟨"https", "", "api.github.com", none, "/repos/acme/widgets/contents/c", some "ref=main", none⟩
    let request : Request := ⟨.get, address, none, some listingForm, some agentName, none⟩
    have hrequest : listingRequest none "https://api.github.com" "acme" "widgets" "c" "main" = .ok request := rfl
    have hrequest' : listingRequest none "https://api.github.com" "acme" "widgets" "c?d" "main" = .ok request := rfl
    have hasked : IsAskedFor "c" ∧ IsAskedFor "c?d" :=
      ⟨⟨List.all_eq_true.mp (by decide), by decide, by decide⟩, List.all_eq_true.mp (by decide), by decide, by decide⟩
    have hpaths := h "acme" "widgets" "c" "c?d" "main" request request (by decide) (by decide) (by decide) (by decide)
      hasked.1 hasked.2 (mem_requests_asking.mpr hrequest) (mem_requests_asking.mpr hrequest') rfl
    exact absurd hpaths (by decide)

end Showcase.Client
