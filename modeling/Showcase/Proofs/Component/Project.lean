import Showcase.Proofs.Repository.Project

/-!
# Framework projects anywhere

A framework project is read alike below any two directories: every step of reading is alike, given that the steps before
it are. The one choice that looks at the directory is which source is taken, since a source counts as a helper whenever
the directory of the project leads through a directory of helpers. So a project can be moved between any two directories
that both lead through one, or both do not.
-/

namespace Showcase.Component

open Network Network.Memory Repository

/-- The location of a project below a directory. -/
def locationOf (directory : Directory) (branch : String) (token : Option String) : SourceLocation :=
  ⟨owner, repo, directory.path, branch, token⟩

theorem joinPath_locationOf (directory : Directory) (branch : String) (given : Option String) {path : String}
    (hpath : path ∈ searched) : Listing.joinPath (locationOf directory branch given).path path = directory.sub path :=
  directory.joinPath_eq (isDirectoryPath_of_searched path hpath)

/-- Of the entry of a source only its name is used. -/
theorem ofSource_entry (project : Project) (directory : Directory) (path : String) (source : Json) (css : String)
    (metadata : Metadata) : ofSource (project.entry directory path) source css metadata =
      ofSource (project.entry .root path) source css metadata := by
  rw [ofSource, ofSource, project.name_entry, project.name_entry]

theorem ofListing_entries (client : Client) (project : Project) (directory : Directory) (location : SourceLocation) :
    ofListing client ((project.under "").map (project.entry directory)) (some location) =
      ofProject client location := by
  have hverdict : Listing.validate ((project.under "").map (project.entry directory)) =
      ⟨true, [], ["React/Vite project detected - will parse from src/"], .framework⟩ :=
    if_pos (project.isFramework_entries directory)
  unfold ofListing
  rw [hverdict]
  rfl

section

variable {project : Project} {first second : Directory} {client : Client} {token : Option String}
  (hfirst : project.Fits first) (hsecond : project.Fits second)
  (hdirect : client.transport = .direct token Client.interfaceUrl) (branch : String) (given : Option String)

/-! ## Listings -/

include hfirst hsecond hdirect

theorem alike_listed {path : String} (hpath : path ∈ searched) :
    Remote.Alike (project.host first).replies (project.host second).replies
      (project.Listed first second (project.under path))
      (listOrEmpty client (locationOf first branch given) (first.sub path))
      (listOrEmpty client (locationOf second branch given) (second.sub path)) :=
  Project.alike_listOrEmpty hdirect hpath hfirst hsecond ⟨rfl, rfl⟩ ⟨rfl, rfl⟩ rfl

/-! ## The source -/

/-- The same source with the same content, if any, below two directories; it was chosen among some paths. -/
def SourceAlike (project : Project) (first second : Directory) (found copy : Option (Entry × Json)) : Prop :=
  ∃ source : Option (String × Json), found = source.map (fun file => (project.entry first file.1, file.2)) ∧
    copy = source.map (fun file => (project.entry second file.1, file.2)) ∧
    ∀ file ∈ source, ∃ paths, project.source? second.leadsThroughHelpers paths = some file.1

theorem alike_findSource (hsame : first.leadsThroughHelpers = second.leadsThroughHelpers) {directories : List String}
    (hdirectories : directories ⊆ searched) :
    Remote.Alike (project.host first).replies (project.host second).replies (SourceAlike project first second)
      (findSource client (locationOf first branch given) directories)
      (findSource client (locationOf second branch given) directories) := by
  induction directories with
  | nil => exact Remote.alike_done (.ok ⟨none, rfl, rfl, fun _ h => absurd h (Option.not_mem_none _)⟩)
  | cons directory others ih =>
    have hdirectory : directory ∈ searched := hdirectories List.mem_cons_self
    have hrest := ih fun path hpath => hdirectories (List.mem_cons_of_mem _ hpath)
    unfold findSource
    rw [joinPath_locationOf first branch given hdirectory, joinPath_locationOf second branch given hdirectory]
    refine (alike_listed hfirst hsecond hdirect branch given hdirectory).andThen ?_
    rintro entries copies ⟨rfl, rfl⟩
    -- the choice among the same paths is the same, since both or neither of the directories make them helpers
    rw [project.componentSource?_entries, project.componentSource?_entries, hsame]
    cases hsource : project.source? second.leadsThroughHelpers (project.under directory) with
    | none => exact hrest
    | some path =>
      have hfile := project.isFile_of_source? hsource
      simp only [Option.map_some, project.address?_entry, if_pos hfile]
      refine (Project.alike_fetch hdirect hfirst hsecond hfile).andThen ?_
      rintro content _ rfl
      refine Remote.alike_done (.ok ⟨some (path, content), rfl, rfl, ?_⟩)
      rintro _ ⟨⟩
      exact ⟨_, hsource⟩

/-! ## Styles -/

theorem alike_fetchEach {paths : List String} (hfiles : ∀ path ∈ paths, project.isFile path = true) :
    Remote.Alike (project.host first).replies (project.host second).replies Eq
      (fetchEach client (paths.map fun path => contentAddress (first.below path)))
      (fetchEach client (paths.map fun path => contentAddress (second.below path))) := by
  induction paths with
  | nil => exact Remote.alike_done (.ok rfl)
  | cons path others ih =>
    have hrest := ih fun other hother => hfiles other (List.mem_cons_of_mem _ hother)
    refine (Project.alike_fetch hdirect hfirst hsecond (hfiles path List.mem_cons_self)).andThen ?_
    rintro content _ rfl
    refine hrest.andThen ?_
    rintro contents _ rfl
    exact Remote.alike_done (.ok rfl)

theorem alike_collectStyles :
    Remote.Alike (project.host first).replies (project.host second).replies Eq
      (collectStyles client (locationOf first branch given)
        ((project.under Listing.sourceDirectory).map (project.entry first)))
      (collectStyles client (locationOf second branch given)
        ((project.under Listing.sourceDirectory).map (project.entry second))) := by
  have hstyles : ∀ directory, ((project.under Listing.sourceDirectory).map (project.entry directory)).find?
      (fun entry => entry.isDirectory && entry.name == stylesDirectory) =
        ((project.under Listing.sourceDirectory).find? fun path =>
          !project.isFile path && Project.nameOf path == stylesDirectory).map (project.entry directory) := by
    intro directory
    simp only [Project.isDirectory_eq_not_isFile]
    exact project.find?_entries directory (fun file name => !file && name == stylesDirectory) _
  unfold collectStyles
  rw [hstyles, hstyles]
  cases hfound : (project.under Listing.sourceDirectory).find? fun path =>
      !project.isFile path && Project.nameOf path == stylesDirectory with
  | none => exact Remote.alike_done (.ok rfl)
  | some path =>
    have hname := List.find?_some hfound
    rw [Bool.and_eq_true, beq_iff_eq] at hname
    -- what is found by its name can be listed, as it stands where it is searched
    have hpath := project.eq_styles (List.mem_of_find?_eq_some hfound) hname.2
    rw [hpath]
    refine (alike_listed hfirst hsecond hdirect branch given (show "src/styles" ∈ searched by decide)).andThen ?_
    rintro entries copies ⟨rfl, rfl⟩
    dsimp only
    rw [project.filterMap_addresses, project.filterMap_addresses]
    refine (alike_fetchEach hfirst hsecond hdirect fun other hother => ?_).andThen ?_
    · have hboth := (List.mem_filter.mp hother).2
      rw [Bool.and_eq_true] at hboth
      exact hboth.1
    · rintro contents _ rfl
      exact Remote.alike_done (Fallible.alike_self _)

/-! ## Metadata -/

theorem alike_rootMetadata :
    Remote.Alike (project.host first).replies (project.host second).replies Eq
      (rootMetadata client (locationOf first branch given)) (rootMetadata client (locationOf second branch given)) := by
  unfold rootMetadata
  refine (alike_listed hfirst hsecond hdirect branch given (show "" ∈ searched by decide)).andThen ?_
  rintro entries copies ⟨rfl, rfl⟩
  rw [project.address?_find?, project.address?_find?]
  cases hfound : (project.under "").find? fun path =>
        project.isFile path && Project.nameOf path == Listing.metadataName with
  | none => exact Remote.alike_done (.ok rfl)
  | some path =>
    have hboth := List.find?_some hfound
    rw [Bool.and_eq_true] at hboth
    refine (Project.alike_fetch hdirect hfirst hsecond hboth.1).attempt_andThen fun found copy h => ?_
    cases h with
    | ok related =>
      subst related
      exact Remote.alike_done (Fallible.alike_self _)
    | error same =>
      -- a typed failure counts as no metadata, any other failure is that of the whole
      rcases Failure.cases_of_wordless same with ⟨error, copied, rfl, rfl, -⟩ | ⟨htyped, hcopied⟩
      · exact Remote.alike_done (.ok rfl)
      · split
        · rename_i heq
          cases heq
        · rename_i heq
          cases heq
          exact absurd rfl (htyped _)
        · rename_i heq
          cases heq
          exact Remote.alike_done (.error same)

/-! ## The component -/

/-- The same component below two directories, of a source that was chosen among some paths. -/
def ReadAlike (project : Project) (second : Directory) (component copy : Component) : Prop :=
  component = copy ∧ ∃ paths path, project.source? second.leadsThroughHelpers paths = some path

theorem alike_ofProject (hsame : first.leadsThroughHelpers = second.leadsThroughHelpers) :
    Remote.Alike (project.host first).replies (project.host second).replies (ReadAlike project second)
      (ofProject client (locationOf first branch given)) (ofProject client (locationOf second branch given)) := by
  have hsource : Listing.sourceDirectory ∈ searched := by decide
  unfold ofProject
  rw [joinPath_locationOf first branch given hsource, joinPath_locationOf second branch given hsource]
  refine (alike_listed hfirst hsecond hdirect branch given hsource).andThen ?_
  rintro sources copies ⟨rfl, rfl⟩
  refine (alike_findSource hfirst hsecond hdirect branch given hsame
    (show sourceDirectories ⊆ searched from List.subset_append_right _ _)).andThen ?_
  rintro _ _ ⟨_ | ⟨path, content⟩, rfl, rfl, hchosen⟩
  · exact Remote.alike_done (.error rfl)
  · refine (alike_collectStyles hfirst hsecond hdirect branch given).andThen ?_
    rintro css _ rfl
    refine (alike_rootMetadata hfirst hsecond hdirect branch given).andThen ?_
    rintro metadata _ rfl
    rw [ofSource_entry project first, ofSource_entry project second]
    obtain ⟨among, hamong⟩ := hchosen _ rfl
    refine Remote.alike_done ((Fallible.alike_self _).imp ?_)
    rintro component _ rfl
    exact ⟨rfl, among, path, hamong⟩

theorem alike_atLocation (hsame : first.leadsThroughHelpers = second.leadsThroughHelpers) :
    Remote.Alike (project.host first).replies (project.host second).replies (ReadAlike project second)
      (atLocation client (locationOf first branch given)) (atLocation client (locationOf second branch given)) := by
  unfold atLocation
  refine (Project.alike_listDirectory hdirect (show "" ∈ searched by decide) hfirst hsecond (some branch)).andThen ?_
  rintro entries copies ⟨rfl, rfl⟩
  rw [ofListing_entries, ofListing_entries]
  exact alike_ofProject hfirst hsecond hdirect branch given hsame

end

/-! ## One directory -/

section

variable {project : Project} {directory : Directory} (hfits : project.Fits directory) {client : Client}
  {token : Option String} (hdirect : client.transport = .direct token Client.interfaceUrl) {branch : String}
  {asked : Option String × String}
  (hasked : Client.askedWith token (Client.chosenBranch client.defaultBranch (some branch)) = .ok asked)
  (given : Option String)
include hfits hdirect hasked

theorem listOrEmpty_of_asked {path : String} (hpath : path ∈ searched) :
    (listOrEmpty client (locationOf directory branch given) (directory.sub path)).outcome
      (project.host directory).replies = .ok ((project.under path).map (project.entry directory)) := by
  have hlisted := Project.outcome_listOrEmpty hdirect hpath hfits
    (show (locationOf directory branch given).owner = owner ∧ _ from ⟨rfl, rfl⟩)
  rw [show (locationOf directory branch given).branch = branch from rfl, hasked] at hlisted
  exact eq_ok_of_wordless hlisted

/-- A directory with a source ends the search with its content, any other is passed over. -/
theorem findSource_of_asked {path : String} (hpath : path ∈ searched) (others : List String) :
    (findSource client (locationOf directory branch given) (path :: others)).outcome (project.host directory).replies =
      match project.source? directory.leadsThroughHelpers (project.under path) with
      | none => (findSource client (locationOf directory branch given) others).outcome (project.host directory).replies
      | some found =>
        ((client.fetch (contentAddress (directory.below found))).toRemote.outcome
          (project.host directory).replies).bind fun content =>
            .ok (some (project.entry directory found, content)) := by
  rw [findSource, Remote.outcome_andThen, joinPath_locationOf _ _ _ hpath,
    listOrEmpty_of_asked hfits hdirect hasked given hpath, Except.bind, project.componentSource?_entries]
  cases hsource : project.source? directory.leadsThroughHelpers (project.under path) with
  | none => rfl
  | some found =>
    simp only [Option.map_some, project.address?_entry, if_pos (project.isFile_of_source? hsource)]
    rw [Remote.outcome_andThen]
    rfl

theorem atLocation_of_asked :
    (atLocation client (locationOf directory branch given)).outcome (project.host directory).replies =
      (ofProject client (locationOf directory branch given)).outcome (project.host directory).replies := by
  have hlisted := Project.outcome_listDirectory hdirect (show "" ∈ searched by decide) hfits (some branch)
  rw [hasked, if_neg (List.ne_nil_of_mem project.mem_root_source)] at hlisted
  have hroot := eq_ok_of_wordless hlisted
  rw [atLocation, Remote.outcome_andThen]
  show Except.bind ((client.listDirectory owner repo (directory.sub "") (some branch)).outcome _) _ = _
  rw [hroot, Except.bind, ofListing_entries]

end

/-! ## A project of one source -/

/-- A source with one component. -/
def pageSource : String := "export default function App() \x7b return (<div>Hi</div>); \x7d"

/-- The files of a project of one source. -/
def pageFiles : List (String × String) := [("package.json", "\x7b\x7d"), ("src/App.tsx", pageSource)]

/-- A project of one source. -/
def page : Project where
  files := pageFiles
  paths := show ∀ file ∈ pageFiles, ∀ step ∈ Text.splitAtChar '/' file.1.toList,
    step ≠ [] ∧ Address.isDotStep step = false by decide
  source := ⟨("src/App.tsx", _), List.mem_cons_of_mem _ List.mem_cons_self, rfl⟩
  directory := by decide
  manifest := ⟨_, List.mem_cons_self, rfl⟩
  sized := by
    have hshort : ∀ file ∈ pageFiles, file.2.length ≤ 100 := by decide
    have hpow : ∀ count length, length ≤ count → length < 10 ^ count := fun count length hlength =>
      Nat.lt_of_lt_of_le (Nat.lt_pow_self (by decide)) (Nat.pow_le_pow_right (by decide) hlength)
    exact fun file hfile => hpow 4300 _ (Nat.le_trans (hshort file hfile) (by decide))

section

variable {directory : Directory} (hshort : directory.path.toList.length ≤ 1000) {client : Client}
  {token : Option String}
include hshort

theorem fits_page : page.Fits directory := by
  have hpaths : ∀ file ∈ pageFiles, file.1.toList.length ≤ 1000 := by decide
  have hlongest : 3000 ≤ Address.longest := by decide
  refine page.fits_of_length fun file hfile => ?_
  have hpath := hpaths file hfile
  omega

variable (hdirect : client.transport = .direct token Client.interfaceUrl)
  (htrusted : Address.isWithin client.trustedHosts "raw.githubusercontent.com" = true)
include hdirect htrusted

theorem fetch_page :
    (client.fetch (contentAddress (directory.below "src/App.tsx"))).toRemote.outcome (page.host directory).replies =
      .ok (.ofString pageSource) := by
  have hmem : ("src/App.tsx", pageSource) ∈ page.files := List.mem_cons_of_mem _ List.mem_cons_self
  have hunmarked : Address.unmarkedPart "src/App.tsx".toList = "src/App.tsx".toList := by decide
  have hsettled : Address.IsSettled (contentBase directory ++ '/' :: "src/App.tsx".toList) := by
    have hpath : ∀ step ∈ Text.splitAtChar '/' "src/App.tsx".toList, Address.isDotStep step = false := by decide
    exact Address.isSettled_append.mpr ⟨isSettled_contentBase directory, hpath⟩
  have hread : readAt pageFiles "src/App.tsx".toList = some pageSource := by decide +kernel
  have hfetched := outcome_fetch_below hdirect page.files ((fits_page hshort).fetched _ hmem)
  rw [if_pos htrusted, if_neg (by decide), hunmarked, Address.normalPath_of_settled hsettled, contentAt_below,
    show page.files = pageFiles from rfl, hread, fetched_contentAnswer] at hfetched
  exact eq_ok_of_wordless hfetched

variable {branch : String} {asked : Option String × String}
  (hasked : Client.askedWith token (Client.chosenBranch client.defaultBranch (some branch)) = .ok asked)
  (given : Option String)
include hasked

/-- The source is found in the last of the directories. -/
theorem findSource_page (hhelpers : directory.leadsThroughHelpers = false) :
    (findSource client (locationOf directory branch given) sourceDirectories).outcome (page.host directory).replies =
      .ok (some (page.entry directory "src/App.tsx", .ofString pageSource)) := by
  have hsources : page.source? false (page.under "src/app/components") = none ∧
      page.source? false (page.under "src/components") = none ∧ page.source? false (page.under "src/app") = none ∧
      page.source? false (page.under "src") = some "src/App.tsx" := by decide +kernel
  have hfits := fits_page hshort
  have hsearched : ∀ path ∈ sourceDirectories, path ∈ searched := by decide
  -- three directories that are not there are passed over
  rw [sourceDirectories, findSource_of_asked hfits hdirect hasked given (hsearched _ (by decide)), hhelpers, hsources.1]
  dsimp only
  rw [findSource_of_asked hfits hdirect hasked given (hsearched _ (by decide)), hhelpers, hsources.2.1]
  dsimp only
  rw [findSource_of_asked hfits hdirect hasked given (hsearched _ (by decide)), hhelpers, hsources.2.2.1]
  dsimp only
  rw [findSource_of_asked hfits hdirect hasked given (hsearched _ (by decide)), hhelpers, hsources.2.2.2]
  dsimp only
  rw [fetch_page hshort hdirect htrusted]
  rfl

omit hshort htrusted hdirect hasked in
theorem collectStyles_page :
    (collectStyles client (locationOf directory branch given)
      ((page.under Listing.sourceDirectory).map (page.entry directory))).outcome (page.host directory).replies =
        .ok defaultStyle := by
  have hunder : page.under Listing.sourceDirectory = ["src/App.tsx"] := by decide +kernel
  have hnone : ((page.under Listing.sourceDirectory).map (page.entry directory)).find?
      (fun entry => entry.isDirectory && entry.name == stylesDirectory) = none := by
    have hname : Project.nameOf "src/App.tsx" ≠ stylesDirectory := by decide
    rw [hunder, List.map_singleton, List.find?_singleton, page.name_entry, if_neg]
    simp [hname]
  rw [collectStyles, hnone]
  rfl

omit htrusted in
theorem rootMetadata_page :
    (rootMetadata client (locationOf directory branch given)).outcome (page.host directory).replies =
      .ok MetadataOf.none := by
  have hnone : ((page.under "").map (page.entry directory)).find?
      (fun entry => entry.isFile && entry.name == Listing.metadataName) = none := by
    rw [List.find?_eq_none]
    intro entry hentry
    obtain ⟨path, hpath, rfl⟩ := List.mem_map.mp hentry
    rw [page.mem_under, page.isFile_empty] at hpath
    obtain ⟨file, hfile, hchild⟩ := hpath
    have hnames : ∀ file ∈ pageFiles, ∀ path ∈ childPath? "" file.1, Project.nameOf path ≠ Listing.metadataName := by
      decide
    rw [page.name_entry, Bool.and_eq_true, beq_iff_eq]
    exact fun h => hnames file hfile path hchild h.2
  have hlisted := listOrEmpty_of_asked (fits_page hshort) hdirect hasked given (show "" ∈ searched by decide)
  rw [rootMetadata, Remote.outcome_andThen, show (locationOf directory branch given).path = directory.sub "" from rfl,
    hlisted, Except.bind, hnone]
  rfl

/-- The project is read wherever its source is no helper. -/
theorem exists_component_page (hhelpers : directory.leadsThroughHelpers = false) :
    ∃ component, ((atLocation client (locationOf directory branch given)).run answer (page.host directory)).1 =
      .ok component := by
  have hfits := fits_page hshort
  have hsource : Listing.sourceDirectory ∈ searched := by decide
  have hread : (atLocation client (locationOf directory branch given)).outcome (page.host directory).replies =
      ofSource (page.entry .root "src/App.tsx") (.ofString pageSource) defaultStyle MetadataOf.none := by
    rw [atLocation_of_asked hfits hdirect hasked, ofProject, Remote.outcome_andThen, joinPath_locationOf _ _ _ hsource,
      listOrEmpty_of_asked hfits hdirect hasked given hsource, Except.bind, Remote.outcome_andThen,
      findSource_page hshort hdirect htrusted hasked given hhelpers, Except.bind]
    dsimp only
    rw [Remote.outcome_andThen, collectStyles_page, Except.bind, Remote.outcome_andThen,
      rootMetadata_page hshort hdirect hasked, Except.bind, Remote.outcome_done, ofSource_entry]
  have hcomponent : (ofSource (page.entry .root "src/App.tsx") (.ofString pageSource) defaultStyle MetadataOf.none).isOk =
      true := by decide +kernel
  rw [run_answer rfl, hread]
  cases hmade : ofSource (page.entry .root "src/App.tsx") (.ofString pageSource) defaultStyle MetadataOf.none with
  | error failure =>
    rw [hmade] at hcomponent
    cases hcomponent
  | ok component => exact ⟨component, rfl⟩

end

/-! ## Projects that are moved -/

/-- What is read of a project below a directory; a failure is taken apart from its words. -/
def readBelow (client : Client) (branch : String) (given : Option String) (project : Project) (directory : Directory) :
    Fallible Component :=
  ((atLocation client (locationOf directory branch given)).run answer (project.host directory)).1.wordless

section

variable {client : Client} {token : Option String} (hdirect : client.transport = .direct token Client.interfaceUrl)
include hdirect

theorem readBelow_eq {project : Project} {first second : Directory} (hfirst : project.Fits first)
    (hsecond : project.Fits second) (hsame : first.leadsThroughHelpers = second.leadsThroughHelpers) (branch : String)
    (given : Option String) :
    readBelow client branch given project first = readBelow client branch given project second := by
  have halike := alike_atLocation hfirst hsecond hdirect branch given hsame
  rw [readBelow, readBelow, run_answer rfl, run_answer rfl]
  exact Fallible.alike_eq.mp (halike.imp fun _ _ h => h.1)

/-- Below a directory that leads through a directory of helpers there is no component without a barrel file. -/
theorem readBelow_ne_ok {project : Project} {directory : Directory} (hfits : project.Fits directory)
    (hhelpers : directory.leadsThroughHelpers = true)
    (hbarrel : ∀ file ∈ project.files, Project.nameOf file.1 ∉ Listing.barrelNames) (branch : String)
    (given : Option String) (component : Component) :
    readBelow client branch given project directory ≠ .ok component := by
  intro hok
  have hread := eq_ok_of_wordless hok
  rw [run_answer rfl] at hread
  -- read twice at one directory, the component is of a source that was chosen there
  have halike := alike_atLocation hfits hfits hdirect branch given rfl
  unfold Remote.Alike at halike
  rw [hread] at halike
  cases halike with
  | ok related =>
    obtain ⟨-, paths, path, hsource⟩ := related
    rw [hhelpers] at hsource
    obtain ⟨content, hcontent⟩ := Option.isSome_iff_exists.mp (project.isFile_of_source? hsource)
    exact hbarrel _ (mem_of_file? hcontent) (project.nameOf_of_source? hsource)

/-- Of two directories of which only one leads through a directory of helpers the other alone has the component. -/
theorem readBelow_page_ne {branch : String} {asked : Option String × String}
    (hasked : Client.askedWith token (Client.chosenBranch client.defaultBranch (some branch)) = .ok asked)
    (htrusted : Address.isWithin client.trustedHosts "raw.githubusercontent.com" = true) (given : Option String)
    {directory other : Directory} (hshort : directory.path.toList.length ≤ 1000)
    (hother : other.path.toList.length ≤ 1000) (hhelpers : directory.leadsThroughHelpers = true)
    (hplain : other.leadsThroughHelpers = false) :
    readBelow client branch given page directory ≠ readBelow client branch given page other := by
  obtain ⟨component, hcomponent⟩ := exists_component_page hother hdirect htrusted hasked given hplain
  have hbarrel : ∀ file ∈ pageFiles, Project.nameOf file.1 ∉ Listing.barrelNames := by decide
  have hread : readBelow client branch given page other = .ok component := by
    rw [readBelow, hcomponent]
    rfl
  rw [hread]
  exact readBelow_ne_ok hdirect (fits_page hshort) hhelpers hbarrel branch given component

/-- Below two directories every framework project gives the same component, or the same failure apart from its words, if
both or neither of them lead through a directory of helpers. If only one does, there is a project that does not, for a
client that can ask for listings and fetches contents. -/
theorem readBelow_moved (first second : Directory) :
    (first.leadsThroughHelpers = second.leadsThroughHelpers →
      ∀ project : Project, project.Fits first → project.Fits second → ∀ branch given,
        readBelow client branch given project first = readBelow client branch given project second) ∧
      (first.leadsThroughHelpers ≠ second.leadsThroughHelpers →
        first.path.toList.length ≤ 1000 → second.path.toList.length ≤ 1000 →
          Address.isWithin client.trustedHosts "raw.githubusercontent.com" = true → ∀ branch asked given,
            Client.askedWith token (Client.chosenBranch client.defaultBranch (some branch)) = .ok asked →
              ∃ project : Project, project.Fits first ∧ project.Fits second ∧
                readBelow client branch given project first ≠ readBelow client branch given project second) := by
  constructor
  · intro hsame project hfirst hsecond branch given
    exact readBelow_eq hdirect hfirst hsecond hsame branch given
  · intro hdiffer hfirst hsecond htrusted branch asked given hasked
    refine ⟨page, fits_page hfirst, fits_page hsecond, ?_⟩
    cases hhelpers : first.leadsThroughHelpers with
    | true =>
      have hplain : second.leadsThroughHelpers = false := by
        rw [hhelpers] at hdiffer
        simpa using hdiffer.symm
      exact readBelow_page_ne hdirect hasked htrusted given hfirst hsecond hhelpers hplain
    | false =>
      have hother : second.leadsThroughHelpers = true := by
        rw [hhelpers] at hdiffer
        simpa using hdiffer.symm
      exact (readBelow_page_ne hdirect hasked htrusted given hsecond hfirst hother hhelpers).symm

end

/-- A directory with one step. -/
def demo : Directory := ⟨"demo", .inr (by decide)⟩

/-- A directory that leads through a directory of helpers. -/
def helpers : Directory := ⟨"ui", .inr (by decide)⟩

/-- A project is read alike at the root and in a directory. -/
theorem readBelow_moved_to_demo :
    Client.trusting.transport = .direct none Client.interfaceUrl ∧ page.Fits .root ∧ page.Fits demo ∧
      Directory.root.leadsThroughHelpers = demo.leadsThroughHelpers ∧
      readBelow Client.trusting "main" none page .root = readBelow Client.trusting "main" none page demo :=
  have hroot : page.Fits .root := fits_page (by decide)
  have hdemo : page.Fits demo := fits_page (by decide)
  have hsame : Directory.root.leadsThroughHelpers = demo.leadsThroughHelpers := by decide
  have hmoved := readBelow_moved (show Client.trusting.transport = .direct none _ from rfl) .root demo
  ⟨rfl, hroot, hdemo, hsame, hmoved.1 hsame page hroot hdemo "main" none⟩

/-- A project is not read alike everywhere. -/
theorem not_readBelow_moved :
    ¬∀ (client : Client) (token : Option String), client.transport = .direct token Client.interfaceUrl →
      ∀ (project : Project) (first second : Directory), project.Fits first → project.Fits second →
        ∀ branch given, readBelow client branch given project first = readBelow client branch given project second := by
  intro h
  have hhelpers : page.Fits helpers := fits_page (by decide)
  have hmoved := h Client.trusting none rfl page helpers .root hhelpers (fits_page (by decide)) "main" none
  have hasked : Client.askedWith none (Client.chosenBranch Client.trusting.defaultBranch (some "main")) =
      .ok (none, "ref=main") := by decide
  exact readBelow_page_ne rfl hasked (by decide) none (by decide) (by decide) (by decide) (by decide) hmoved

end Showcase.Component
