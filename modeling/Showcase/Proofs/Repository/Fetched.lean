import Showcase.Proofs.Repository.Listed

/-!
# Contents of files below a directory

The content of a file is fetched from an address that its path is pasted into, with all that the path may have in it:
what stands after a mark of a query or a fragment is lost, escapes are read, and a last step that is cut down to points
is resolved. None of this reaches up into the path of the directory, but for a step upwards right below it, which leads
to where there are no files. So what is fetched depends on the path below the directory alone.
-/

namespace Showcase

open Network Repository

namespace Repository

/-! ## Paths of files -/

/-- The path of a file: no step is empty, leads to the same place or upwards. -/
def IsFilePath (path : String) : Prop :=
  ∀ step ∈ Text.splitAtChar '/' path.toList, step ≠ [] ∧ Address.isDotStep step = false

theorem IsFilePath.ne_empty {path : String} (h : IsFilePath path) : path ≠ "" := by
  rintro rfl
  exact (h [] List.mem_cons_self).1 rfl

/-- What is left of the path of a file before a mark is one step, or a last step after others that are settled. -/
theorem IsFilePath.unmarkedPart_cases {path : String} (h : IsFilePath path) :
    '/' ∉ Address.unmarkedPart path.toList ∨
      ∃ before last, Address.unmarkedPart path.toList = before ++ '/' :: last ∧ '/' ∉ last ∧
        Address.IsSettled before := by
  by_cases hslash : '/' ∈ Address.unmarkedPart path.toList
  · obtain ⟨before, last, hsplit, hlast⟩ := Text.exists_last_of_mem hslash
    obtain ⟨rest, hrest⟩ := List.takeWhile_prefix (p := fun c => c != '#' && c != '?') (l := path.toList)
    have hwhole : path.toList = before ++ '/' :: (last ++ rest) := by
      rw [← hrest, show path.toList.takeWhile _ = Address.unmarkedPart path.toList from rfl, hsplit]
      simp
    refine .inr ⟨before, last, hsplit, hlast, fun step hstep => ?_⟩
    refine (h step ?_).2
    rw [hwhole, Text.splitAtChar_append]
    exact List.mem_append_left _ hstep
  · exact .inl hslash

/-! ## The path of a directory in an address -/

/-- The path of a directory in the address of a content. -/
def contentBase (directory : Directory) : List Char :=
  "/acme/widgets/main".toList ++ if directory.path.isEmpty then [] else '/' :: directory.path.toList

theorem contentBase_append (directory : Directory) (rest : List Char) :
    contentBase directory ++ '/' :: rest = "/acme/widgets/main/".toList ++ (stem directory.path ++ rest) := by
  unfold contentBase stem
  split
  · rfl
  · simp

theorem length_contentBase (directory : Directory) :
    (contentBase directory).length ≤ 19 + directory.path.toList.length := by
  have hmain : "/acme/widgets/main".toList.length = 18 := by decide
  unfold contentBase
  split
  · rw [List.append_nil, hmain]
    omega
  · rw [List.length_append, hmain, List.length_cons]
    omega

theorem isOfSteps_contentBase (directory : Directory) : IsOfSteps (contentBase directory) := by
  unfold contentBase
  refine isOfSteps_append.mpr ⟨by decide, ?_⟩
  split
  · decide
  · exact isOfSteps_cons directory.plain.isOfSteps

theorem isSettled_contentBase (directory : Directory) : Address.IsSettled (contentBase directory) :=
  Address.isSettled_of_not_mem ((isOfSteps_contentBase directory).not_mem (by decide) (by decide))

/-- An address that goes on after the path of a directory leads below the directory, the same way for every directory, or
nowhere but to the directory or above it. -/
def LeadsAlike (path : List Char) : Prop :=
  (∃ rest, ∀ directory : Directory,
    Address.normalPath (contentBase directory ++ '/' :: path) = contentBase directory ++ '/' :: rest) ∨
  ∀ directory : Directory,
    IsOfSteps (Address.normalPath (contentBase directory ++ '/' :: path)) ∧
      (Address.normalPath (contentBase directory ++ '/' :: path)).length ≤ (contentBase directory).length

theorem leadsAlike_step {step : List Char} (hstep : '/' ∉ step) : LeadsAlike step := by
  by_cases hsame : step = ['.']
  · -- the directory itself
    refine .inr fun directory => ?_
    rw [hsame, Address.normalPath_same (isSettled_contentBase directory)]
    exact ⟨isOfSteps_contentBase directory, Nat.le_refl _⟩
  by_cases hup : step = ['.', '.']
  · -- the directory above it
    refine .inr fun directory => ?_
    have hslash : '/' ∈ contentBase directory := List.mem_append_left _ (by decide)
    obtain ⟨above, last, habove, hlast⟩ := Text.exists_last_of_mem hslash
    have hsettled := isSettled_contentBase directory
    have hsteps := isOfSteps_contentBase directory
    rw [habove] at hsettled hsteps
    rw [hup, habove, Address.normalPath_up hlast hsettled, List.length_append]
    exact ⟨(isOfSteps_append.mp hsteps).1, Nat.le_add_right _ _⟩
  · refine .inl ⟨step, fun directory => ?_⟩
    have hsettled := Address.isSettled_of_single hstep hsame hup
    exact Address.normalPath_of_settled (Address.isSettled_append.mpr ⟨isSettled_contentBase directory, hsettled⟩)

theorem leadsAlike_steps {before last : List Char} (hbefore : Address.IsSettled before) (hlast : '/' ∉ last) :
    LeadsAlike (before ++ '/' :: last) := by
  have hassoc : ∀ directory, contentBase directory ++ '/' :: (before ++ '/' :: last) =
      (contentBase directory ++ '/' :: before) ++ '/' :: last := by
    intro directory
    simp
  have hsettled : ∀ directory, Address.IsSettled (contentBase directory ++ '/' :: before) :=
    fun directory => Address.isSettled_append.mpr ⟨isSettled_contentBase directory, hbefore⟩
  by_cases hsame : last = ['.']
  · -- the directory that the file would be in
    refine .inl ⟨before, fun directory => ?_⟩
    rw [hassoc, hsame, Address.normalPath_same (hsettled directory)]
  by_cases hup : last = ['.', '.']
  · by_cases hslash : '/' ∈ before
    · -- the directory above that, still below the directory
      obtain ⟨above, step, rfl, hstep⟩ := Text.exists_last_of_mem hslash
      refine .inl ⟨above, fun directory => ?_⟩
      have hlonger : contentBase directory ++ '/' :: (above ++ '/' :: step) =
          (contentBase directory ++ '/' :: above) ++ '/' :: step := by
        simp
      have hall := hsettled directory
      rw [hlonger] at hall
      rw [hassoc, hup, hlonger, Address.normalPath_up hstep hall]
    · -- back at the directory itself
      refine .inr fun directory => ?_
      rw [hassoc, hup, Address.normalPath_up hslash (hsettled directory)]
      exact ⟨isOfSteps_contentBase directory, Nat.le_refl _⟩
  · refine .inl ⟨before ++ '/' :: last, fun directory => ?_⟩
    have hlastSettled := Address.isSettled_of_single hlast hsame hup
    have hall := Address.isSettled_append.mpr ⟨hsettled directory, hlastSettled⟩
    rw [hassoc, Address.normalPath_of_settled hall]

/-- The address of a file does so. Only its last step can be cut down to points. -/
theorem IsFilePath.leadsAlike {path : String} (h : IsFilePath path) : LeadsAlike (Address.unmarkedPart path.toList) := by
  rcases h.unmarkedPart_cases with hsingle | ⟨before, last, hsplit, hlast, hbefore⟩
  · exact leadsAlike_step hsingle
  · rw [hsplit]
    exact leadsAlike_steps hbefore hlast

end Repository

namespace Network.Memory

/-! ## What is found -/

/-- What a host finds at the path of the address of a content. -/
def contentAt (host : Memory) (path : List Char) : Option String :=
  (after? "/acme/widgets/main/" (Address.encodePart (Address.isPlainExcept Address.pathExclusions) path)).bind
    fun rest => host.file? (decoded rest)

/-- What stands before a path is read as it is written. -/
theorem decodedBytes_stem (directory : Directory) (rest : List Char) :
    Address.decodedBytes (stem directory.path ++ rest) =
      (stem directory.path).flatMap String.utf8EncodeChar ++ Address.decodedBytes rest := by
  unfold stem
  split
  · rfl
  · rw [List.append_assoc, List.singleton_append, Address.decodedBytes_append (by decide) (by decide),
      directory.plain.isOfSteps.decodedBytes, List.flatMap_append, List.flatMap_singleton, List.append_assoc]

variable (files : List (String × String))

/-- The content that some files have at what a path stands for. -/
def readAt (rest : List Char) : Option String :=
  (holding files).file? (String.ofList (Text.lenientUtf8 (Address.decodedBytes rest)))

/-- Below the path of a directory the files that are placed there are found. -/
theorem contentAt_below (directory : Directory) (rest : List Char) :
    (holding (placed directory files)).contentAt (contentBase directory ++ '/' :: rest) = readAt files rest := by
  have hencoded : Address.encodePart (Address.isPlainExcept Address.pathExclusions)
      (contentBase directory ++ '/' :: rest) = "/acme/widgets/main/".toList ++
        (stem directory.path ++ Address.encodePart (Address.isPlainExcept Address.pathExclusions) rest) := by
    have hslash : Address.encodePart (Address.isPlainExcept Address.pathExclusions) ('/' :: rest) =
        '/' :: Address.encodePart (Address.isPlainExcept Address.pathExclusions) rest := by
      rw [Address.encodePart_of_alone _ (Address.beginsEscape_of_ne (by decide) _), if_pos (by decide)]
      rfl
    rw [Address.encodePart_append _ (by decide), (isOfSteps_contentBase directory).encodePart, hslash,
      contentBase_append]
  have hdecoded : decoded (stem directory.path ++
      Address.encodePart (Address.isPlainExcept Address.pathExclusions) rest) =
        directory.below (String.ofList (Text.lenientUtf8 (Address.decodedBytes rest))) := by
    rw [← String.toList_inj, directory.toList_below, String.toList_ofList, decoded, String.toList_ofList,
      decodedBytes_stem, Address.decodedBytes_encodePart, Text.lenientUtf8_append]
  rw [contentAt, hencoded, after?, if_pos (List.isPrefixOf_iff_prefix.mpr (List.prefix_append _ _)), List.drop_left,
    Option.bind_some, hdecoded, file?_below, readAt]

/-- No file is found at the path of a directory, or above it. -/
theorem contentAt_of_short {files : List (String × String)} (hfilled : ∀ file ∈ files, file.1 ≠ "")
    {directory : Directory} {path : List Char} (hsteps : IsOfSteps path)
    (hshort : path.length ≤ (contentBase directory).length) :
    (holding (placed directory files)).contentAt path = none := by
  unfold contentAt after?
  rw [hsteps.encodePart]
  split
  · rename_i hprefix
    obtain ⟨rest, rfl⟩ := List.isPrefixOf_iff_prefix.mp hprefix
    have hrest : IsOfSteps rest := (isOfSteps_append.mp hsteps).2
    have hlength : rest.length ≤ directory.path.toList.length := by
      have hmain : "/acme/widgets/main/".toList.length = 19 := by decide
      have hbase := Nat.le_trans hshort (length_contentBase directory)
      rw [List.length_append, hmain] at hbase
      exact Nat.le_of_add_le_add_left hbase
    rw [List.drop_left, Option.bind_some, hrest.decoded]
    exact file?_of_short hfilled (by rwa [String.toList_ofList])
  · rfl

/-- What is found at the address of a file depends on its path below the directory alone. -/
theorem exists_contentAt {files : List (String × String)} (hfilled : ∀ file ∈ files, file.1 ≠ "") {path : String}
    (hpath : IsFilePath path) :
    ∃ found, ∀ directory : Directory, (holding (placed directory files)).contentAt
      (Address.normalPath (contentBase directory ++ '/' :: Address.unmarkedPart path.toList)) = found := by
  rcases hpath.leadsAlike with ⟨rest, hbelow⟩ | habove
  · refine ⟨readAt files rest, fun directory => ?_⟩
    rw [hbelow directory]
    exact contentAt_below files directory rest
  · refine ⟨none, fun directory => ?_⟩
    exact contentAt_of_short hfilled (habove directory).1 (habove directory).2

/-! ## What is fetched -/

theorem toList_contentAddress (path : String) :
    (contentAddress path).toList =
      "https://raw.githubusercontent.com".toList ++ '/' :: ("acme/widgets/main/".toList ++ path.toList) := by
  have hwhole : contentAddress path = "https://raw.githubusercontent.com" ++ "/acme/widgets/main/" ++ path := rfl
  rw [hwhole, String.toList_append, String.toList_append, List.append_assoc]
  rfl

/-- The host of the address of a content does not depend on the path. -/
theorem webHost?_contentAddress (path : String) :
    Address.webHost? (contentAddress path) = some "raw.githubusercontent.com" := by
  have hbreaks : ((contentAddress path).toList.filter fun c => !Address.isBreak c) =
      "https".toList ++ ':' :: ('/' :: '/' :: ("raw.githubusercontent.com".toList ++
        '/' :: ("acme/widgets/main/".toList ++ path.toList).filter fun c => !Address.isBreak c)) := by
    rw [toList_contentAddress, List.filter_append]
    rfl
  have hscheme : Address.splitScheme ((contentAddress path).toList.filter fun c => !Address.isBreak c) =
      ("https".toList, '/' :: '/' :: ("raw.githubusercontent.com".toList ++
        '/' :: ("acme/widgets/main/".toList ++ path.toList).filter fun c => !Address.isBreak c)) := by
    rw [hbreaks, Address.splitScheme, Text.cutAtFirst_append (by decide)]
    rfl
  have hauthority : Address.authorityOf ('/' :: '/' :: ("raw.githubusercontent.com".toList ++
      '/' :: ("acme/widgets/main/".toList ++ path.toList).filter fun c => !Address.isBreak c)) =
        "raw.githubusercontent.com".toList := by
    rw [Address.authorityOf, (Text.takeWhile_append_cons (by decide) _ _).1]
    decide
  unfold Address.webHost?
  rw [hscheme]
  dsimp only
  rw [hauthority]
  decide

/-- The address that contents are fetched from. -/
def rawAddress : Address := ⟨"https", "", "raw.githubusercontent.com", none, "", none, none⟩

/-- The reply when a content is found or not. -/
def contentAnswer : Option String → Reply
  | some content => .answered 200 (.ofText content)
  | none => notFound

/-- A content that is found is fetched as it is. -/
theorem fetched_contentAnswer (content : String) :
    Client.fetched (contentAnswer (some content)) = .ok (.ofString content) := by
  rw [contentAnswer, Client.fetched, if_pos (by decide), Body.text_ofText]
  rfl

/-- A host is asked for what it has at the path of an address. -/
theorem reply_content {host : Memory} (hcontents : host.contents = []) {address : Address} {path : List Char}
    (hhost : address.host = "raw.githubusercontent.com")
    (hpath : address.path = Address.encoded Address.pathExclusions path) :
    host.reply address = contentAnswer (host.contentAt path) := by
  have hcontent : ∀ asked, host.contentReply asked = contentAnswer (host.file? asked) := by
    intro asked
    rw [contentReply, hcontents]
    rfl
  have hprefix : "/" ++ owner ++ "/" ++ repo ++ "/main/" = "/acme/widgets/main/" := by decide
  rw [reply, hhost, if_neg (by decide), if_pos (by decide), hpath, Address.encoded, String.toList_ofList, contentAt,
    hprefix]
  cases after? "/acme/widgets/main/" (Address.encodePart (Address.isPlainExcept Address.pathExclusions) path) with
  | none => rfl
  | some rest => exact hcontent _

/-- The address of a content is one of the host of contents, unless there are control characters in it. -/
theorem ofText_contentAddress {path : String} (hshort : (contentAddress path).toList.length ≤ Address.longest)
    (hplain : ∀ c ∈ path.toList, Address.isControl c = false) :
    ∃ address, Address.ofText (contentAddress path) = .ok address ∧ address.host = "raw.githubusercontent.com" ∧
      address.path = Address.encoded Address.pathExclusions
        (Address.normalPath ('/' :: Address.unmarkedPart ("acme/widgets/main/".toList ++ path.toList))) := by
  have hbefore : IsOfSteps "acme/widgets/main/".toList := by decide
  have hunder := Address.ofText_under (toList_contentAddress path)
    (show Address.ofText "https://raw.githubusercontent.com" = .ok rawAddress from rfl) (by decide) (by decide) hshort
    (List.forall_mem_append.mpr ⟨hbefore.isControl, hplain⟩)
  exact ⟨_, hunder, rfl, rfl⟩

/-- There is no request for an address with control characters. -/
theorem ofText_contentAddress_of_control {path : String} {c : Char} (hc : c ∈ path.toList)
    (hcontrol : Address.isControl c = true) :
    ∃ message, Address.ofText (contentAddress path) = .error (.badAddress message) := by
  cases htext : Address.ofText (contentAddress path) with
  | error failure =>
    obtain ⟨message, rfl⟩ := Address.ofText_error htext
    exact ⟨message, rfl⟩
  | ok address =>
    have hmem : c ∈ (contentAddress path).toList := by
      rw [toList_contentAddress]
      exact List.mem_append_right _ (List.mem_cons_of_mem _ (List.mem_append_right _ hc))
    cases hwritten : Address.ofWritten (contentAddress path).toList with
    | error failure =>
      rw [Address.ofText, hwritten] at htext
      cases htext
    | ok written =>
      rw [(Address.ofWritten_eq_ok.mp hwritten).2.1 c hmem] at hcontrol
      cases hcontrol

/-- What a client makes of the content of a file is told from what the host has at the path of its address. -/
theorem outcome_fetch {client : Client} {token : Option String} {apiUrl : String}
    (hdirect : client.transport = .direct token apiUrl) {host : Memory} (hcontents : host.contents = []) {path : String}
    (hshort : (contentAddress path).toList.length ≤ Address.longest) :
    ((client.fetch (contentAddress path)).toRemote.outcome host.replies).wordless =
      if Address.isWithin client.trustedHosts "raw.githubusercontent.com" then
        if path.toList.any Address.isControl then .error (.badAddress "")
        else (Client.fetched (contentAnswer (host.contentAt
          (Address.normalPath ('/' :: Address.unmarkedPart ("acme/widgets/main/".toList ++ path.toList)))))).wordless
      else fail .untrusted "" := by
  have htrusted : Address.isTrusted client.trustedHosts (contentAddress path) =
      Address.isWithin client.trustedHosts "raw.githubusercontent.com" := by
    rw [Address.isTrusted, webHost?_contentAddress]
    rfl
  simp only [Client.fetch, hdirect, htrusted]
  by_cases hknown : Address.isWithin client.trustedHosts "raw.githubusercontent.com" = true
  · rw [if_pos hknown, if_pos hknown]
    by_cases hcontrol : path.toList.any Address.isControl = true
    · obtain ⟨c, hc, hin⟩ := List.any_eq_true.mp hcontrol
      obtain ⟨message, hrefused⟩ := ofText_contentAddress_of_control hc hin
      rw [if_pos hcontrol, Client.contentRequest, hrefused]
      rfl
    · have hplain : ∀ c ∈ path.toList, Address.isControl c = false := by simpa using hcontrol
      obtain ⟨address, haddress, hhost, hpath⟩ := ofText_contentAddress hshort hplain
      rw [if_neg hcontrol, Client.contentRequest, haddress, ← reply_content hcontents hhost hpath]
      rfl
  · rw [if_neg hknown, if_neg hknown]
    rfl

/-- What a client makes of the content of a file below a directory. -/
theorem outcome_fetch_below {client : Client} {token : Option String} {apiUrl : String}
    (hdirect : client.transport = .direct token apiUrl) (files : List (String × String)) {directory : Directory}
    {path : String} (hshort : (contentAddress (directory.below path)).toList.length ≤ Address.longest) :
    ((client.fetch (contentAddress (directory.below path))).toRemote.outcome
      (holding (placed directory files)).replies).wordless =
      if Address.isWithin client.trustedHosts "raw.githubusercontent.com" then
        if path.toList.any Address.isControl then .error (.badAddress "")
        else (Client.fetched (contentAnswer ((holding (placed directory files)).contentAt
          (Address.normalPath (contentBase directory ++ '/' :: Address.unmarkedPart path.toList))))).wordless
      else fail .untrusted "" := by
  have hbase : '/' :: Address.unmarkedPart ("acme/widgets/main/".toList ++ (directory.below path).toList) =
      contentBase directory ++ '/' :: Address.unmarkedPart path.toList := by
    have hmain := Address.unmarkedPart_append (contentBase directory) path.toList
    rw [if_pos (isOfSteps_contentBase directory).unmarkedPart, contentBase_append] at hmain
    rw [directory.toList_below, ← hmain]
    rfl
  have hcontrol : (directory.below path).toList.any Address.isControl = path.toList.any Address.isControl := by
    have hstem : (stem directory.path).any Address.isControl = false := by
      simpa using directory.isOfSteps_stem.isControl
    rw [directory.toList_below, List.any_append, hstem, Bool.false_or]
  rw [outcome_fetch hdirect rfl hshort, hbase, hcontrol]

/-- What a client makes of the content of a file below a directory does not depend on the directory. -/
theorem exists_outcome_fetch {client : Client} {token : Option String} {apiUrl : String}
    (hdirect : client.transport = .direct token apiUrl) {files : List (String × String)}
    (hfilled : ∀ file ∈ files, file.1 ≠ "") {path : String} (hpath : IsFilePath path) :
    ∃ found, ∀ directory : Directory, (contentAddress (directory.below path)).toList.length ≤ Address.longest →
      ((client.fetch (contentAddress (directory.below path))).toRemote.outcome
        (holding (placed directory files)).replies).wordless = found := by
  obtain ⟨content, hcontent⟩ := exists_contentAt hfilled hpath
  refine ⟨if Address.isWithin client.trustedHosts "raw.githubusercontent.com" then
    if path.toList.any Address.isControl then .error (.badAddress "")
    else (Client.fetched (contentAnswer content)).wordless else fail .untrusted "", fun directory hshort => ?_⟩
  rw [outcome_fetch_below hdirect files hshort, hcontent]

end Network.Memory

end Showcase
