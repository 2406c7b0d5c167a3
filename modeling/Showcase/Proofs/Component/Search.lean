import Showcase.Proofs.Component.Orderly

/-!
# The search for a framework component

A framework project is searched in a few directories, one after the other. The first that has a source ends the search, and
so does a listing that fails for another reason than that there is no such directory.

* `proceeds_ofProject` — the calls that read a project and what they come to follow one course.
* `Course.stops`, `Course.isParseFailure_iff` — which failures such a course has, and when.
* `sameRun_ofProject` — a directory that does not exist leads no other way than an empty one.
* `framework_search` — all of it, for any host.
-/

namespace Showcase.Component

open Network

variable {σ : Type} {client : Client} {location : SourceLocation}

/-! ## The search -/

/-- The source that the entries of a directory offer, and the address of its content. -/
def offered (entries : List Entry) : Option (Entry × String) :=
  (Listing.componentSource? entries).bind fun entry => entry.address?.map fun url => (entry, url)

/-- A directory does not exist, or offers no source. -/
inductive IsBlank : Fallible (List Entry) → Prop where
  | absent {failure : Failure} (habsent : IsAbsence failure) : IsBlank (.error failure)
  | sourceless {entries : List Entry} (hnone : offered entries = none) : IsBlank (.ok entries)

/-- The calls that list directories of a project, with what they came to. -/
def listings (location : SourceLocation) (directories : List String) (made : List (Fallible (List Entry))) : List Call :=
  List.zipWith (fun directory made => .listing (Listing.joinPath location.path directory) made) directories made

/-- How a search of directories ends: there is none left, the first cannot be listed, or it offers a source, whose content
is fetched. -/
inductive SearchEnd (location : SourceLocation) :
    List String → List Call → Fallible (Option (Entry × Json)) → Prop where
  | exhausted : SearchEnd location [] [] (.ok none)
  | failed {directory : String} {others : List String} {failure : Failure} (hpresent : ¬IsAbsence failure) :
    SearchEnd location (directory :: others) [.listing (Listing.joinPath location.path directory) (.error failure)]
      (.error failure)
  | found {directory : String} {others : List String} {entries : List Entry} {entry : Entry} {url : String}
    {content : Fallible Json} (hoffered : offered entries = some (entry, url)) :
    SearchEnd location (directory :: others)
      [.listing (Listing.joinPath location.path directory) (.ok entries), .content url content]
      (content.map fun source => some (entry, source))

/-- A search passes directories that are blank, and ends with the first that is not. -/
def Search (location : SourceLocation) (directories : List String) (calls : List Call)
    (result : Fallible (Option (Entry × Json))) : Prop :=
  ∃ passed ended, (∀ made ∈ passed, IsBlank made) ∧ passed.length ≤ directories.length ∧
    calls = listings location directories passed ++ ended ∧
    SearchEnd location (directories.drop passed.length) ended result

theorem Search.pass {directory : String} {others : List String} {made : Fallible (List Entry)} {calls : List Call}
    {result : Fallible (Option (Entry × Json))} (hblank : IsBlank made) (h : Search location others calls result) :
    Search location (directory :: others) (.listing (Listing.joinPath location.path directory) made :: calls) result := by
  obtain ⟨passed, ended, hpassed, hlength, rfl, hended⟩ := h
  exact ⟨made :: passed, ended, List.forall_mem_cons.mpr ⟨hblank, hpassed⟩, Nat.succ_le_succ hlength, rfl, hended⟩

/-- A directory that offers no source is passed; the content of one that is offered is fetched. -/
theorem findSource_cons (client : Client) (location : SourceLocation) (directory : String) (others : List String) :
    findSource client location (directory :: others) =
      (listOrEmpty client location (Listing.joinPath location.path directory)).andThen fun entries =>
        match offered entries with
        | none => findSource client location others
        | some (entry, url) => (client.fetch url).toRemote.andThen fun content => .done (.ok (some (entry, content))) := by
  rw [findSource]
  congr 1
  funext entries
  unfold offered
  cases Listing.componentSource? entries with
  | none => rfl
  | some entry =>
    dsimp only [Option.bind_some]
    cases entry.address? <;> rfl

theorem proceeds_findSource (directories : List String) :
    Proceeds client location (findSource client location directories) (Search location directories) := by
  induction directories with
  | nil => exact .done ⟨[], [], nofun, Nat.le_refl 0, rfl, .exhausted⟩
  | cons directory others ih =>
    rw [findSource_cons]
    refine (proceeds_listOrEmpty client location _).andThen ?_ ?_
    · rintro calls failure ⟨made, rfl, hmade⟩
      obtain ⟨rfl, hpresent⟩ := orEmpty_eq_error.mp hmade.symm
      exact ⟨[], _, nofun, Nat.zero_le _, rfl, .failed hpresent⟩
    · rintro calls entries ⟨made, rfl, hmade⟩
      have hcases := orEmpty_eq_ok.mp hmade.symm
      cases hoffered : offered entries with
      | none =>
        -- the directory is passed, whether it exists or not
        have hblank : IsBlank made := by
          rcases hcases with rfl | ⟨-, failure, rfl, habsent⟩
          · exact .sourceless hoffered
          · exact .absent habsent
        exact ih.mono fun later result hlater => hlater.pass hblank
      | some source =>
        obtain ⟨entry, url⟩ := source
        obtain rfl : made = .ok entries := by
          rcases hcases with h | ⟨rfl, -⟩
          · exact h
          · cases hoffered
        refine (proceeds_fetch client location url).andThen ?_ ?_
        · rintro later failure rfl
          exact ⟨[], _, nofun, Nat.zero_le _, rfl, .found hoffered⟩
        · rintro later content rfl
          exact .done ⟨[], _, nofun, Nat.zero_le _, rfl, .found hoffered⟩

/-! ## The course of a parse -/

/-- The path of the directory whose entries are the sources of a project. -/
def sourcePath (location : SourceLocation) : String := Listing.joinPath location.path Listing.sourceDirectory

/-- How a framework project is read: the sources are listed, directories are searched, and beside the source that is found
there are styles and metadata. -/
inductive Course (location : SourceLocation) : List Call → Fallible Component → Prop where
  | unlisted {failure : Failure} (hpresent : ¬IsAbsence failure) :
    Course location [.listing (sourcePath location) (.error failure)] (.error failure)
  | failed {sources : Fallible (List Entry)} {entries : List Entry} {calls : List Call} {failure : Failure}
    (hsources : orEmpty sources = .ok entries) (hsearch : Search location sourceDirectories calls (.error failure)) :
    Course location (.listing (sourcePath location) sources :: calls) (.error failure)
  | absent {sources : Fallible (List Entry)} {entries : List Entry} {calls : List Call}
    (hsources : orEmpty sources = .ok entries) (hsearch : Search location sourceDirectories calls (.ok none)) :
    Course location (.listing (sourcePath location) sources :: calls)
      (fail .parse "No component file found in src/app/components/ or fallbacks")
  | found {sources : Fallible (List Entry)} {entries : List Entry} {calls rest : List Call} {entry : Entry}
    {source : Json} {outcome : Fallible Component} (hsources : orEmpty sources = .ok entries)
    (hsearch : Search location sourceDirectories calls (.ok (some (entry, source))))
    (hrest : Orderly (IsBeside location entries) rest outcome)
    (hcomponent : ∀ component, outcome = .ok component →
      ∃ css metadata, ofSource entry source css metadata = .ok component) :
    Course location (.listing (sourcePath location) sources :: (calls ++ rest)) outcome

/-- A source that is found is made a component with the styles and metadata beside it. -/
theorem proceeds_ofSource (sources : List Entry) (entry : Entry) (source : Json) :
    Proceeds client location
      ((collectStyles client location sources).andThen fun css =>
        (rootMetadata client location).andThen fun metadata => .done (ofSource entry source css metadata))
      fun rest outcome => Orderly (IsBeside location sources) rest outcome ∧
        ∀ component, outcome = .ok component → ∃ css metadata, ofSource entry source css metadata = .ok component := by
  refine (proceeds_collectStyles sources).andThen (fun calls failure hcalls => ⟨hcalls.cast, nofun⟩) ?_
  intro calls css hcalls
  refine (proceeds_rootMetadata sources).andThen (fun later failure hlater => ⟨hcalls.append hlater.cast, nofun⟩) ?_
  intro later metadata hlater
  refine .done ⟨hcalls.append (hlater.append (orderly_nil ?_)), fun component h => ⟨css, metadata, h⟩⟩
  exact (failsWithin_ofSource entry source css metadata).not_isParseFailure

theorem proceeds_ofProject (client : Client) (location : SourceLocation) :
    Proceeds client location (ofProject client location) (Course location) := by
  refine (proceeds_listOrEmpty client location (sourcePath location)).andThen ?_ ?_
  · rintro calls failure ⟨made, rfl, hmade⟩
    obtain ⟨rfl, hpresent⟩ := orEmpty_eq_error.mp hmade.symm
    exact .unlisted hpresent
  · rintro calls entries ⟨sources, rfl, hsources⟩
    refine (proceeds_findSource sourceDirectories).andThen ?_ ?_
    · intro searched failure hsearch
      exact .failed hsources.symm hsearch
    · intro searched found hsearch
      cases found with
      | none => exact .done (by rw [List.append_nil]; exact .absent hsources.symm hsearch)
      | some found =>
        obtain ⟨entry, source⟩ := found
        refine (proceeds_ofSource entries entry source).mono ?_
        rintro rest outcome ⟨hrest, hcomponent⟩
        have hfound := Course.found hsources.symm hsearch hrest hcomponent
        exact hfound

/-! ## What follows from it -/

theorem mem_listings {directories : List String} {made : List (Fallible (List Entry))} {call : Call}
    (h : call ∈ listings location directories made) : ∃ path, ∃ listing ∈ made, call = .listing path listing := by
  induction directories generalizing made with
  | nil => cases h
  | cons directory others ih =>
    cases made with
    | nil => cases h
    | cons listing later =>
      rcases List.mem_cons.mp h with rfl | hlater
      · exact ⟨_, listing, List.mem_cons_self .., rfl⟩
      · obtain ⟨path, other, hmem, heq⟩ := ih hlater
        exact ⟨path, other, List.mem_cons_of_mem _ hmem, heq⟩

theorem IsBlank.not_failsWith {made : Fallible (List Entry)} (h : IsBlank made) (path : String) (failure : Failure) :
    ¬(Call.listing path made).FailsWith failure := by
  rw [failsWith_listing]
  rintro ⟨rfl, hpresent⟩
  cases h with
  | absent habsent => exact hpresent habsent

theorem Search.stops {directories : List String} {calls : List Call} {result : Fallible (Option (Entry × Json))}
    (h : Search location directories calls result) : StopsAtFailure calls result := by
  obtain ⟨passed, ended, hpassed, -, rfl, hended⟩ := h
  refine StopsAtFailure.append (fun call hcall failure => ?_) ?_
  · obtain ⟨path, made, hmade, rfl⟩ := mem_listings hcall
    exact (hpassed made hmade).not_failsWith path failure
  · generalize directories.drop passed.length = left at hended
    cases hended with
    | exhausted => trivial
    | failed hpresent => exact stopsAtFailure_listing _ _
    | found hoffered =>
      refine ⟨fun failure hfails => ?_, fun failure hfails => absurd hfails not_failsWith_content, trivial⟩
      cases (failsWith_listing.mp hfails).1

theorem Course.stops {calls : List Call} {outcome : Fallible Component} (h : Course location calls outcome) :
    StopsAtFailure calls outcome := by
  cases h with
  | unlisted hpresent => exact stopsAtFailure_listing _ _
  | failed hsources hsearch =>
    exact ⟨fun failure hfails => absurd hfails (not_failsWith_of_orEmpty hsources _ failure), hsearch.stops.cast⟩
  | absent hsources hsearch =>
    refine ⟨fun failure hfails => absurd hfails (not_failsWith_of_orEmpty hsources _ failure), ?_⟩
    exact stopsAtFailure_of_not_failsWith hsearch.stops.not_failsWith
  | found hsources hsearch hrest hcomponent =>
    refine ⟨fun failure hfails => absurd hfails (not_failsWith_of_orEmpty hsources _ failure), ?_⟩
    exact hrest.stops.append hsearch.stops.not_failsWith

/-- A search that finds nothing passes all directories. -/
theorem Search.passed_of_none {directories : List String} {calls : List Call}
    (h : Search location directories calls (.ok none)) :
    ∃ passed, (∀ made ∈ passed, IsBlank made) ∧ passed.length = directories.length ∧
      calls = listings location directories passed := by
  obtain ⟨passed, ended, hpassed, hlength, rfl, hended⟩ := h
  generalize hleft : directories.drop passed.length = left at hended
  generalize hresult : (.ok none : Fallible (Option (Entry × Json))) = result at hended
  cases hended with
  | exhausted =>
    have hall := List.drop_eq_nil_iff.mp hleft
    exact ⟨passed, hpassed, Nat.le_antisymm hlength hall, List.append_nil _⟩
  | failed hpresent => cases hresult
  | @found _ _ _ _ _ content hoffered => cases content <;> cases hresult

/-- A search that only passes directories finds nothing. -/
theorem Search.eq_none {directories : List String} {made : List (Fallible (List Entry))}
    {result : Fallible (Option (Entry × Json))}
    (h : Search location directories (listings location directories made) result)
    (hblank : ∀ listing ∈ made, IsBlank listing) : result = .ok none := by
  obtain ⟨passed, ended, -, -, hcalls, hended⟩ := h
  have hmem : ∀ call ∈ ended, ∃ path, ∃ listing ∈ made, call = .listing path listing := by
    intro call hcall
    have hlisted : call ∈ listings location directories made := by
      rw [hcalls]
      exact List.mem_append_right _ hcall
    exact mem_listings hlisted
  generalize directories.drop passed.length = left at hended
  cases hended with
  | exhausted => rfl
  | failed hpresent =>
    obtain ⟨path, listing, hlisting, heq⟩ := hmem _ (List.mem_cons_self ..)
    obtain ⟨-, rfl⟩ := Call.listing.inj heq
    exact absurd (.listing hpresent) ((hblank _ hlisting).not_failsWith path _)
  | found hoffered =>
    obtain ⟨path, listing, -, heq⟩ := hmem _ (List.mem_cons_of_mem _ (List.mem_cons_self ..))
    cases heq

/-- A search that finds a source has fetched it. -/
theorem Search.content_mem {directories : List String} {calls : List Call} {entry : Entry} {source : Json}
    (h : Search location directories calls (.ok (some (entry, source)))) : ∃ url, .content url (.ok source) ∈ calls := by
  obtain ⟨passed, ended, -, -, rfl, hended⟩ := h
  generalize directories.drop passed.length = left at hended
  generalize hresult : (.ok (some (entry, source)) : Fallible (Option (Entry × Json))) = result at hended
  cases hended with
  | exhausted => cases hresult
  | failed hpresent => cases hresult
  | @found _ _ _ _ url content hoffered =>
    cases content with
    | error failure => cases hresult
    | ok found =>
      cases hresult
      exact ⟨url, List.mem_append_right _ (List.mem_cons_of_mem _ (List.mem_cons_self ..))⟩

/-- A search fails as a call does. -/
theorem Search.not_isParseFailure {directories : List String} {calls : List Call}
    {result : Fallible (Option (Entry × Json))} (h : Search location directories calls result)
    (hunparsed : ∀ call ∈ calls, call.IsUnparsed) : ¬IsParseFailure result := by
  obtain ⟨passed, ended, -, -, rfl, hended⟩ := h
  have hlast : ∀ call ∈ ended, call.IsUnparsed := fun call hcall => hunparsed call (List.mem_append_right _ hcall)
  generalize directories.drop passed.length = left at hended
  cases hended with
  | exhausted => exact (failsWithin_ok none).not_isParseFailure
  | failed hpresent =>
    have hmade := hlast _ (List.mem_cons_self ..)
    exact fun hparse => hmade hparse.cast
  | found hoffered =>
    have hcontent := hlast _ (List.mem_cons_of_mem _ (List.mem_cons_self ..))
    exact ((not_isParseFailure_iff.mp hcontent).map _).not_isParseFailure

theorem Course.isParseFailure_iff {calls : List Call} {outcome : Fallible Component} (h : Course location calls outcome)
    (hunparsed : ∀ call ∈ calls, call.IsUnparsed) :
    IsParseFailure outcome ↔ ∃ sources entries passed, orEmpty sources = .ok entries ∧
      (∀ made ∈ passed, IsBlank made) ∧ passed.length = sourceDirectories.length ∧
        calls = .listing (sourcePath location) sources :: listings location sourceDirectories passed := by
  cases h with
  | unlisted hpresent =>
    have hmade := hunparsed _ (List.mem_cons_self ..)
    refine iff_of_false (fun hparse => hmade hparse.cast) ?_
    rintro ⟨sources, entries, passed, hsources, -, -, hcalls⟩
    obtain ⟨hfirst, -⟩ := List.cons.inj hcalls
    obtain ⟨-, rfl⟩ := Call.listing.inj hfirst
    cases hsources.symm.trans (orEmpty_eq_error.mpr ⟨rfl, hpresent⟩)
  | failed hsources hsearch =>
    have hfailure := hsearch.not_isParseFailure fun call hcall => hunparsed call (List.mem_cons_of_mem _ hcall)
    refine iff_of_false (fun hparse => hfailure hparse.cast) ?_
    rintro ⟨sources, entries, passed, -, hpassed, -, hcalls⟩
    obtain ⟨-, rfl⟩ := List.cons.inj hcalls
    cases hsearch.eq_none hpassed
  | @absent sources entries calls hsources hsearch =>
    obtain ⟨passed, hpassed, hlength, rfl⟩ := hsearch.passed_of_none
    exact iff_of_true (isParseFailure_fail _) ⟨sources, entries, passed, hsources, hpassed, hlength, rfl⟩
  | found hsources hsearch hrest hcomponent =>
    refine iff_of_false (hrest.unparsed fun call hcall => ?_) ?_
    · exact hunparsed call (List.mem_cons_of_mem _ (List.mem_append_right _ hcall))
    · rintro ⟨sources, entries, passed, -, -, -, hcalls⟩
      -- what is found is fetched, and a search in vain fetches nothing
      obtain ⟨-, hsearched⟩ := List.cons.inj hcalls
      obtain ⟨url, hcontent⟩ := hsearch.content_mem
      obtain ⟨path, listing, -, heq⟩ := mem_listings (hsearched ▸ List.mem_append_left _ hcontent)
      cases heq

/-! ## Hosts that forgive -/

section

variable {answer other : σ → Request → Reply × σ}

theorem sameRun_listOrEmpty (h : Forgives client.transport answer other) (path : String) :
    SameRun answer other (listOrEmpty client location path) := by
  rw [listOrEmpty_eq]
  exact h.listing location.owner location.repo path (some location.branch)

theorem sameRun_findSource (h : Forgives client.transport answer other) (directories : List String) :
    SameRun answer other (findSource client location directories) := by
  induction directories with
  | nil => exact .done _
  | cons directory others ih =>
    rw [findSource_cons]
    refine (sameRun_listOrEmpty h _).andThen fun entries => ?_
    split
    · exact ih
    · exact (h.fetch _).andThen fun content => .done _

theorem sameRun_fetchEach (h : Forgives client.transport answer other) (urls : List String) :
    SameRun answer other (fetchEach client urls) := by
  induction urls with
  | nil => exact .done _
  | cons url urls ih => exact (h.fetch url).andThen fun content => ih.andThen fun contents => .done _

theorem sameRun_collectStyles (h : Forgives client.transport answer other) (sources : List Entry) :
    SameRun answer other (collectStyles client location sources) := by
  unfold collectStyles
  split
  · exact .done _
  · exact (sameRun_listOrEmpty h _).andThen fun entries => (sameRun_fetchEach h _).andThen fun contents => .done _

theorem sameRun_rootMetadata (h : Forgives client.transport answer other) :
    SameRun answer other (rootMetadata client location) := by
  refine (sameRun_listOrEmpty h _).andThen fun entries => ?_
  split
  · exact .done _
  · refine (h.fetch _).attempt.andThen fun made => ?_
    split <;> exact .done _

theorem sameRun_ofProject (h : Forgives client.transport answer other) :
    SameRun answer other (ofProject client location) := by
  refine (sameRun_listOrEmpty h _).andThen fun sources => (sameRun_findSource h _).andThen fun found => ?_
  split
  · exact .done _
  · exact (sameRun_collectStyles h _).andThen fun css => (sameRun_rootMetadata h).andThen fun metadata => .done _

end

/-! ## Main result -/

/-- A framework project is read by calls that follow one course, whatever the host answers. The sources are listed; then the
first directories of `sourceDirectories` are listed in order, all of them blank, up to one that fails, or has a source, or
until none is left. A source that is found is fetched and used, and after that only styles and metadata beside it are
looked for. A listing that fails, and not because there is no such directory, is the last call, and its failure is the
outcome. There is a failure of parsing exactly if the sources and all of the directories were listed, and none of them has
a source. If some listings are answered as empty instead of as missing, the same requests are made and the outcome is the
same. -/
theorem framework_search (client : Client) (location : SourceLocation) (answer : σ → Request → Reply × σ) (state : σ) :
    let run := (ofProject client location).run (Remote.noting answer) (state, [])
    (∃ calls, Made (Remote.noting answer) client location (state, []) calls run.2 ∧ Course location calls run.1 ∧
      StopsAtFailure calls run.1 ∧
      (IsParseFailure run.1 ↔ ∃ sources entries passed, orEmpty sources = .ok entries ∧
        (∀ made ∈ passed, IsBlank made) ∧ passed.length = sourceDirectories.length ∧
          calls = .listing (sourcePath location) sources :: listings location sourceDirectories passed)) ∧
    ∀ other, Forgives client.transport answer other →
      (ofProject client location).run (Remote.noting other) (state, []) = run := by
  intro run
  obtain ⟨calls, hmade, hcourse⟩ := proceeds_ofProject client location _ (Remote.noting answer) (state, [])
  refine ⟨⟨calls, hmade, hcourse, hcourse.stops, hcourse.isParseFailure_iff hmade.isUnparsed⟩, ?_⟩
  intro other hforgives
  exact sameRun_ofProject hforgives.noting (state, [])

/-- A host without any repository. -/
def missing (_ : Unit) (_ : Request) : Reply × Unit := (.answered 404 (.ofJson .null), ())

/-- A host all of whose directories are empty, and that has nothing else. -/
def emptied (_ : Unit) (request : Request) : Reply × Unit :=
  if request.accept = some Client.listingForm then (.answered 200 (.ofJson (.arr [])), ())
  else (.answered 404 (.ofJson .null), ())

/-- A project that does not exist is searched like one of which every listing is empty. -/
theorem framework_search_missing :
    let client := Client.trusting
    let location : SourceLocation := ⟨"acme", "widgets", "ui", "main", none⟩
    (∀ owner repo path branch request, client.transport.listingRequest owner repo path branch = .ok request →
      emptied () request = (.answered 200 (.ofJson (.arr [])), ())) ∧
    (ofProject client location).run (Remote.noting emptied) ((), []) =
      (ofProject client location).run (Remote.noting missing) ((), []) := by
  intro client location
  have hbody : (Body.ofJson (.arr [])).json = .ok (.arr []) := by
    have htravels : (Json.arr []).Travels := .arr [] nofun
    have htext : (Json.arr []).write .compact = ['[', ']'] := rfl
    exact htravels.json_of_bracket htext (.inl rfl) (by decide)
  have hforgives : Forgives client.transport missing emptied := by
    intro state request
    refine ⟨rfl, ?_⟩
    unfold emptied
    split
    · rename_i hlisting
      exact .inr ⟨hlisting, ⟨_, rfl⟩, .direct rfl hbody⟩
    · exact .inl rfl
  refine ⟨fun owner repo path branch request hrequest => ?_, ?_⟩
  · exact if_pos (Transport.isListing_of_listingRequest hrequest)
  · exact (framework_search client location missing ()).2 emptied hforgives

end Showcase.Component
