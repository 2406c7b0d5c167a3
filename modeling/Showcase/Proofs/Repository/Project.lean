import Showcase.Component.Remote
import Showcase.Proofs.Repository.Fetched

/-!
# Projects below a directory

A framework project is placed below a directory of a repository that has nothing else in it. What is listed of it is the
same for all directories, but for the place of each entry, and what is fetched is the same altogether. Of the choices
that are made among its entries one depends on the directory: whether a source counts as a helper.
-/

namespace Showcase.Repository

open Network Network.Memory

/-- A framework project: a source directory, a manifest, and any other files. -/
structure Project where
  /-- The paths and contents of the files. -/
  files : List (String × String)
  paths : ∀ file ∈ files, IsFilePath file.1
  source : ∃ file ∈ files, childPath? "" file.1 = some Listing.sourceDirectory
  /-- The source directory is no file. -/
  directory : ∀ file ∈ files, file.1 ≠ Listing.sourceDirectory
  manifest : ∃ file ∈ files, file.1 = Listing.manifestName
  /-- The length of a content can be told. -/
  sized : ∀ file ∈ files, file.2.length < 10 ^ 4300

/-- The directories of a project that are searched. -/
def searched : List String := ["", Listing.sourceDirectory, "src/styles"] ++ Component.sourceDirectories

theorem isDirectoryPath_of_searched : ∀ path ∈ searched, IsDirectoryPath path := by
  have hplain : ∀ path ∈ searched, path = "" ∨ IsPlainPath path.toList := by decide
  exact hplain

namespace Project

variable (project : Project)

/-- The host of a project below a directory. -/
def host (directory : Directory) : Memory := holding (placed directory project.files)

/-- The directories that a project can be read at: there is an address for each directory that is searched and for each
file. -/
structure Fits (directory : Directory) : Prop where
  listed : ∀ path ∈ searched, (Client.listingText (directory.sub path)).toList.length ≤ Address.longest
  fetched : ∀ file ∈ project.files, (contentAddress (directory.below file.1)).toList.length ≤ Address.longest

/-- The name of what stands at a path. -/
def nameOf (path : String) : String := String.ofList (Text.afterLast '/' path.toList)

/-- The entry of what stands at a path of a project. -/
def entry (directory : Directory) (path : String) : Entry := (project.host directory).entry (directory.below path)

/-- Whether a file of a project stands at a path. -/
def isFile (path : String) : Bool := ((holding project.files).file? path).isSome

/-- What is found when a path of a project is listed. -/
def under (path : String) : List String :=
  if project.isFile path then [path] else (holding project.files).childPaths path

/-! ## Addresses -/

/-- Below a directory with a short path a project with short paths can be read. -/
theorem fits_of_length {directory : Directory}
    (hshort : ∀ file ∈ project.files,
      directory.path.toList.length + file.1.toList.length + 100 ≤ Address.longest) : project.Fits directory := by
  constructor
  · intro path hpath
    obtain ⟨file, hfile, -⟩ := project.manifest
    have hfits := hshort file hfile
    have hsearched : path.toList.length ≤ 18 := (show ∀ path ∈ searched, path.toList.length ≤ 18 by decide) path hpath
    have hbefore : Client.interfaceUrl.toList.length = 22 ∧ "repos/acme/widgets/contents/".toList.length = 28 := by
      decide
    have hlisting : (Client.listingText (directory.sub path)).toList = Client.interfaceUrl.toList ++
        '/' :: ("repos/acme/widgets/contents/".toList ++ (directory.sub path).toList) :=
      Client.toList_listing _ _ _ _
    have hsub : (directory.sub path).toList.length ≤ directory.path.toList.length + 1 + path.toList.length := by
      unfold Directory.sub
      split
      · omega
      · exact directory.length_below_le path
    rw [hlisting, List.length_append, List.length_cons, List.length_append]
    omega
  · intro file hfile
    have hfits := hshort file hfile
    have hbelow := directory.length_below_le file.1
    have hbefore : "https://raw.githubusercontent.com".toList.length = 33 ∧
        "acme/widgets/main/".toList.length = 18 := by
      decide
    rw [toList_contentAddress, List.length_append, List.length_cons, List.length_append]
    omega

/-! ## Entries -/

section

variable (directory : Directory)

theorem filled : ∀ file ∈ project.files, file.1 ≠ "" := fun file hfile => (project.paths file hfile).ne_empty

theorem isSome_file?_below (path : String) :
    ((project.host directory).file? (directory.below path)).isSome = project.isFile path := by
  rw [host, file?_below, isFile]

theorem isFile_empty : project.isFile "" = false := by
  rw [isFile, Bool.eq_false_iff]
  intro h
  obtain ⟨content, hcontent⟩ := Option.isSome_iff_exists.mp h
  exact project.filled _ (mem_of_file? hcontent) rfl

/-- The name of an entry does not depend on the directory. -/
theorem name_entry (path : String) :
    (project.entry directory path).name = nameOf path := by
  have hname : Text.afterLast '/' (directory.below path).toList = Text.afterLast '/' path.toList := by
    rw [directory.toList_below]
    unfold stem
    split
    · rfl
    · rw [List.append_assoc]
      exact Text.afterLast_append _ _
  rw [entry, Memory.entry, hname, nameOf]

theorem path_entry (path : String) : (project.entry directory path).path = directory.below path := rfl

theorem kind_entry (path : String) :
    (project.entry directory path).kind = if project.isFile path then .file else .directory := by
  rw [entry, Memory.entry, isSome_file?_below]

theorem isFile_entry (path : String) : (project.entry directory path).isFile = project.isFile path := by
  rw [Entry.isFile, kind_entry]
  cases project.isFile path <;> rfl

theorem isDirectory_eq_not_isFile (entry : Entry) : entry.isDirectory = !entry.isFile := by
  rw [Entry.isDirectory, Entry.isFile]
  cases entry.kind <;> rfl

theorem isDirectory_entry (path : String) : (project.entry directory path).isDirectory = !project.isFile path := by
  rw [isDirectory_eq_not_isFile, isFile_entry]

theorem address?_entry (path : String) :
    (project.entry directory path).address? =
      if project.isFile path then some (contentAddress (directory.below path)) else none := by
  have haddress : (project.entry directory path).downloadUrl =
      if project.isFile path then some (contentAddress (directory.below path)) else none := by
    rw [entry, Memory.entry, isSome_file?_below]
  rw [Entry.address?, haddress]
  cases project.isFile path with
  | false => rfl
  | true =>
    have hfilled : (contentAddress (directory.below path)).isEmpty = false := by
      rw [Bool.eq_false_iff]
      intro h
      have hlist := congrArg String.toList (String.isEmpty_iff.mp h)
      rw [toList_contentAddress] at hlist
      cases hlist
    simp only [if_true, hfilled, Bool.false_eq_true, if_false]

/-- Whether an entry is a helper is told from the directory and from its path below the directory. -/
theorem isHelper_entry (path : String) :
    Listing.isHelper (project.entry directory path) =
      (directory.leadsThroughHelpers || Listing.isHelper (project.entry .root path)) := by
  have hroot : Directory.root.leadsThroughHelpers = false := by decide
  rw [Listing.isHelper, Listing.isHelper, name_entry, name_entry, path_entry, path_entry, directory.any_contains_below,
    Directory.root.any_contains_below, hroot, Bool.false_or]
  ac_rfl

/-! ## Listings -/

theorem file?_sub (path : String) :
    ((project.host directory).file? (directory.sub path)).isSome = project.isFile path := by
  unfold Directory.sub
  split
  · rename_i hempty
    rw [String.isEmpty_iff.mp hempty, isFile_empty, host, file?_of_short project.filled (Nat.le_refl _)]
    rfl
  · exact project.isSome_file?_below directory path

theorem isSized_host : (project.host directory).IsSized := by
  intro path content hcontent
  obtain ⟨file, hfile, heq⟩ := List.mem_map.mp (mem_of_file? hcontent)
  rw [← (Prod.mk.inj heq).2]
  exact project.sized file hfile

theorem mem_under {path child : String} :
    child ∈ project.under path ↔
      if project.isFile path then child = path else ∃ file ∈ project.files, childPath? path file.1 = some child := by
  unfold under
  split
  · exact List.mem_singleton
  · exact mem_childPaths

theorem mem_root_source : Listing.sourceDirectory ∈ project.under "" := by
  rw [mem_under, isFile_empty]
  exact project.source

theorem mem_root_manifest : Listing.manifestName ∈ project.under "" := by
  obtain ⟨file, hfile, hpath⟩ := project.manifest
  rw [mem_under, isFile_empty]
  refine ⟨file, hfile, ?_⟩
  rw [hpath]
  rfl

theorem isFile_source : project.isFile Listing.sourceDirectory = false := by
  rw [isFile, Bool.eq_false_iff]
  intro h
  obtain ⟨content, hcontent⟩ := Option.isSome_iff_exists.mp h
  exact project.directory _ (mem_of_file? hcontent) rfl

theorem isFile_manifest : project.isFile Listing.manifestName = true := by
  obtain ⟨file, hfile, hpath⟩ := project.manifest
  rw [← hpath]
  exact isSome_file? hfile

/-- A path of a project is listed as it is at the root, but for the place of what is found. -/
theorem entriesOf_listingReply (path : String) :
    (Client.entriesOf (Client.listed owner repo (directory.sub path)
      ((project.host directory).listingReply (directory.sub path)))).wordless =
      if project.under path = [] then fail .notFound ""
      else .ok ((project.under path).map (project.entry directory)) := by
  have hchildren := childPaths_sub directory project.files path
  -- only the root of the host has an empty path, and a project has files there
  have hroot : directory.sub path = "" → (project.host directory).childPaths (directory.sub path) ≠ [] := by
    intro hempty hnone
    have hstem := directory.stem_sub path
    rw [hempty] at hstem
    have hpath : path = "" := by
      by_contra hfilled
      have hslash : stem path = path.toList ++ ['/'] := if_neg (by simpa using hfilled)
      rw [hslash] at hstem
      simp [stem] at hstem
    rw [host, hchildren, hpath, List.map_eq_nil_iff] at hnone
    have hmem := project.mem_root_source
    rw [under, if_neg (by rw [isFile_empty]; exact Bool.false_ne_true), hnone] at hmem
    cases hmem
  rw [Memory.entriesOf_listingReply (project.isSized_host directory) rfl hroot, file?_sub, under]
  by_cases hfile : project.isFile path = true
  · have hfilled : ¬path.isEmpty = true := by
      intro hempty
      rw [String.isEmpty_iff.mp hempty, isFile_empty] at hfile
      cases hfile
    simp only [if_pos hfile, List.map_cons, List.map_nil]
    rw [if_neg (List.cons_ne_nil _ _), entry, Directory.sub, if_neg hfilled, wordless_ok]
  · rw [if_neg hfile, if_neg hfile, host, hchildren]
    by_cases hnone : (holding project.files).childPaths path = []
    · rw [if_pos hnone, if_pos (by rw [hnone]; rfl)]
      rfl
    · rw [if_neg hnone, if_neg (by rwa [List.map_eq_nil_iff]), List.map_map]
      rfl

/-! ## Choices -/

/-- The first path that is no helper, else the first barrel file; `hidden` is whether all of them are helpers. -/
def source? (hidden : Bool) (paths : List String) : Option String :=
  let sources := paths.filter fun path => project.isFile path && endsWithAny (nameOf path) Listing.sourceEndings
  match sources.find? fun path => !(hidden || Listing.isHelper (project.entry .root path)) with
  | some path => some path
  | none => sources.find? fun path => Listing.barrelNames.contains (nameOf path)

theorem isFile_of_source? {hidden : Bool} {paths : List String} {path : String}
    (h : project.source? hidden paths = some path) : project.isFile path = true := by
  have hmem : path ∈ paths.filter fun path =>
      project.isFile path && endsWithAny (nameOf path) Listing.sourceEndings := by
    unfold source? at h
    dsimp only at h
    split at h
    · rename_i found hfound
      exact Option.some.inj h ▸ List.mem_of_find?_eq_some hfound
    · exact List.mem_of_find?_eq_some h
  have hboth := (List.mem_filter.mp hmem).2
  rw [Bool.and_eq_true] at hboth
  exact hboth.1

/-- Among helpers only a barrel file is taken. -/
theorem nameOf_of_source? {paths : List String} {path : String} (h : project.source? true paths = some path) :
    nameOf path ∈ Listing.barrelNames := by
  have hnone : ∀ sources : List String,
      (sources.find? fun path => !(true || Listing.isHelper (project.entry .root path))) = none := by
    intro sources
    rw [List.find?_eq_none]
    intro path _
    simp
  unfold source? at h
  dsimp only at h
  rw [hnone] at h
  have hbarrel := List.find?_some
    (show List.find? (fun path => Listing.barrelNames.contains (nameOf path)) _ = _ from h)
  exact List.contains_iff_mem.mp hbarrel

/-- What is chosen among entries by what they are and by their names is chosen among their paths. -/
theorem find?_entries (chosen : Bool → String → Bool) (paths : List String) :
    ((paths.map (project.entry directory)).find? fun entry => chosen entry.isFile entry.name) =
      (paths.find? fun path => chosen (project.isFile path) (nameOf path)).map (project.entry directory) := by
  rw [List.find?_map]
  congr 2
  funext path
  rw [Function.comp_apply, isFile_entry, name_entry]

/-- The file of a name among entries, by its address. -/
theorem address?_find? (name : String) (paths : List String) :
    ((paths.map (project.entry directory)).find? fun entry => entry.isFile && entry.name == name).bind Entry.address? =
      (paths.find? fun path => project.isFile path && nameOf path == name).map
        fun path => contentAddress (directory.below path) := by
  have hfound := project.find?_entries directory (fun file named => file && named == name) paths
  rw [hfound]
  cases hpath : paths.find? fun path => project.isFile path && nameOf path == name with
  | none => rfl
  | some path =>
    have hboth := List.find?_some hpath
    rw [Bool.and_eq_true] at hboth
    rw [Option.map_some, Option.bind_some, address?_entry, if_pos hboth.1, Option.map_some]

/-- The files among entries that have some ending, by their addresses. -/
theorem filterMap_addresses (paths endings : List String) :
    ((paths.map (project.entry directory)).filterMap fun entry =>
      if entry.isFile && Listing.hasEnding entry.name endings then entry.address? else none) =
        (paths.filter fun path => project.isFile path && Listing.hasEnding (nameOf path) endings).map
          fun path => contentAddress (directory.below path) := by
  induction paths with
  | nil => rfl
  | cons path others ih =>
    rw [List.map_cons, List.filterMap_cons, ih, isFile_entry, name_entry, address?_entry]
    by_cases hchosen : (project.isFile path && Listing.hasEnding (nameOf path) endings) = true
    · have hfile : project.isFile path = true := (Bool.and_eq_true _ _ ▸ hchosen).1
      rw [if_pos hchosen, if_pos hfile, List.filter_cons, if_pos hchosen]
      rfl
    · rw [if_neg hchosen, List.filter_cons, if_neg hchosen]

/-- What is named like the directory of styles among what is beside the source is at its path. -/
theorem eq_styles {path : String} (hpath : path ∈ project.under Listing.sourceDirectory)
    (hname : nameOf path = Component.stylesDirectory) : path = "src/styles" := by
  rw [mem_under, isFile_source] at hpath
  obtain ⟨file, -, hchild⟩ := hpath
  obtain ⟨rest, -, hlist⟩ := childPath?_eq_some.mp hchild
  have hsource : stem Listing.sourceDirectory = "src".toList ++ ['/'] := by decide
  have hslash : '/' ∉ (Text.cutAtFirst '/' rest).1 := by
    rw [Text.cutAtFirst_fst]
    intro hin
    exact absurd (List.mem_takeWhile_imp hin) (by decide)
  have hlast := congrArg String.toList hname
  rw [nameOf, String.toList_ofList, hlist, hsource, List.append_assoc, List.singleton_append,
    Text.afterLast_append, Text.afterLast_of_not_mem hslash] at hlast
  rw [← String.toList_inj, hlist, hlast, hsource]
  decide

/-- The listing of a project is one of a framework project. -/
theorem isFramework_entries :
    Listing.isFramework ((project.under "").map (project.entry directory)) = true := by
  rw [Listing.isFramework, Bool.and_eq_true, List.any_eq_true, List.any_eq_true]
  constructor
  · refine ⟨_, List.mem_map_of_mem project.mem_root_source, ?_⟩
    rw [isDirectory_entry, isFile_source, name_entry]
    decide
  · refine ⟨_, List.mem_map_of_mem project.mem_root_manifest, ?_⟩
    rw [isDirectory_entry, isFile_manifest, name_entry]
    decide

theorem componentSource?_entries (paths : List String) :
    Listing.componentSource? (paths.map (project.entry directory)) =
      (project.source? directory.leadsThroughHelpers paths).map (project.entry directory) := by
  have hsources : (fun entry : Entry => entry.isFile && endsWithAny entry.name Listing.sourceEndings) ∘
      project.entry directory =
        fun path => project.isFile path && endsWithAny (nameOf path) Listing.sourceEndings := by
    funext path
    rw [Function.comp_apply, isFile_entry, name_entry]
  have hhelpers : (fun entry => !Listing.isHelper entry) ∘ project.entry directory = fun path =>
      !(directory.leadsThroughHelpers || Listing.isHelper (project.entry .root path)) := by
    funext path
    rw [Function.comp_apply, isHelper_entry]
  have hbarrels : (fun entry : Entry => Listing.barrelNames.contains entry.name) ∘ project.entry directory =
      fun path => Listing.barrelNames.contains (nameOf path) := by
    funext path
    rw [Function.comp_apply, name_entry]
  rw [Listing.componentSource?, source?, List.filter_map, hsources, List.find?_map, hhelpers, List.find?_map, hbarrels]
  cases List.find? _ _ <;> rfl

end

/-! ## What a client makes of a project -/

section

variable {project} {client : Client} {token : Option String}
  (hdirect : client.transport = .direct token Client.interfaceUrl) {path : String} (hpath : path ∈ searched)

section

variable {directory : Directory} (hfits : project.Fits directory)
include hdirect hpath hfits

theorem outcome_listDirectory (branch : Option String) :
    ((client.listDirectory owner repo (directory.sub path) branch).outcome (project.host directory).replies).wordless =
      (Client.askedWith token (Client.chosenBranch client.defaultBranch branch)).wordless.bind fun _ =>
        if project.under path = [] then fail .notFound ""
        else .ok ((project.under path).map (project.entry directory)) := by
  rw [Memory.outcome_listDirectory hdirect _ (directory.sub_plain (isDirectoryPath_of_searched path hpath))
    (hfits.listed path hpath), project.entriesOf_listingReply]

/-- A directory that is not in a project counts as empty. -/
theorem outcome_listOrEmpty {location : SourceLocation} (hlocation : location.owner = owner ∧ location.repo = repo) :
    ((Component.listOrEmpty client location (directory.sub path)).outcome (project.host directory).replies).wordless =
      (Client.askedWith token (Client.chosenBranch client.defaultBranch (some location.branch))).wordless.bind fun _ =>
        .ok ((project.under path).map (project.entry directory)) := by
  have hlisted := outcome_listDirectory hdirect hpath hfits (some location.branch)
  unfold Component.listOrEmpty
  rw [Remote.outcome_attempt_andThen, hlocation.1, hlocation.2]
  generalize (client.listDirectory owner repo (directory.sub path) (some location.branch)).outcome
    (project.host directory).replies = found at hlisted ⊢
  cases hasked : Client.askedWith token (Client.chosenBranch client.defaultBranch (some location.branch)) with
  | error failure =>
    -- a request that cannot be made fails without a typed failure
    rw [hasked] at hlisted
    obtain ⟨other, rfl, hsame⟩ := eq_error_of_wordless hlisted
    rcases Failure.cases_of_wordless hsame with ⟨_, error, -, rfl, -⟩ | ⟨htyped, -⟩
    · exact absurd hasked (Client.askedWith_ne_engine _ _ _)
    · split
      · rename_i heq
        cases heq
        exact absurd rfl (htyped _)
      · exact hlisted
  | ok asked =>
    rw [hasked] at hlisted
    by_cases hnone : project.under path = []
    · -- what is not found is told by a typed failure, and counts as empty
      have hmissing : found.wordless = .error (.engine (.of .notFound "")) := by
        rw [hlisted, wordless_ok]
        exact if_pos hnone
      obtain ⟨other, rfl, hsame⟩ := @eq_error_of_wordless _ _ (.engine (.of .notFound "")) hmissing
      rcases Failure.cases_of_wordless hsame with ⟨error, copied, rfl, heq, hcause⟩ | ⟨-, hcopied⟩
      · cases heq
        have hempty : (project.under path).map (project.entry directory) = [] := by
          rw [hnone]
          rfl
        have hgone : error.cause = .notFound := hcause
        rw [hempty]
        simp only [if_pos hgone]
        rfl
      · exact absurd rfl (hcopied _)
    · have hfound : found.wordless = .ok ((project.under path).map (project.entry directory)) := by
        rw [hlisted, wordless_ok]
        exact if_neg hnone
      rw [eq_ok_of_wordless hfound]
      rfl

end

/-! ## Two directories -/

variable {first second : Directory} (hfirst : project.Fits first) (hsecond : project.Fits second)

/-- Entries of the same paths below two directories. -/
def Listed (project : Project) (first second : Directory) (paths : List String) (entries others : List Entry) : Prop :=
  entries = paths.map (project.entry first) ∧ others = paths.map (project.entry second)

include hdirect hfirst hsecond

/-- A file of a project is fetched alike. -/
theorem alike_fetch (hfile : project.isFile path = true) :
    Remote.Alike (project.host first).replies (project.host second).replies Eq
      (client.fetch (contentAddress (first.below path))).toRemote
      (client.fetch (contentAddress (second.below path))).toRemote := by
  obtain ⟨content, hcontent⟩ := Option.isSome_iff_exists.mp hfile
  have hmem := mem_of_file? hcontent
  obtain ⟨found, hfound⟩ := exists_outcome_fetch hdirect project.filled (project.paths _ hmem)
  exact Fallible.alike_eq.mpr
    ((hfound first (hfirst.fetched _ hmem)).trans (hfound second (hsecond.fetched _ hmem)).symm)

include hpath

theorem alike_listDirectory (branch : Option String) :
    Remote.Alike (project.host first).replies (project.host second).replies
      (project.Listed first second (project.under path)) (client.listDirectory owner repo (first.sub path) branch)
      (client.listDirectory owner repo (second.sub path) branch) := by
  unfold Remote.Alike
  rw [← Fallible.alike_wordless, outcome_listDirectory hdirect hpath hfirst,
    outcome_listDirectory hdirect hpath hsecond]
  refine (Fallible.alike_self _).bind fun _ _ _ => ?_
  split
  · exact .error rfl
  · exact .ok ⟨rfl, rfl⟩

theorem alike_listOrEmpty {location other : SourceLocation} (hlocation : location.owner = owner ∧ location.repo = repo)
    (hother : other.owner = owner ∧ other.repo = repo) (hbranch : location.branch = other.branch) :
    Remote.Alike (project.host first).replies (project.host second).replies
      (project.Listed first second (project.under path)) (Component.listOrEmpty client location (first.sub path))
      (Component.listOrEmpty client other (second.sub path)) := by
  unfold Remote.Alike
  rw [← Fallible.alike_wordless, outcome_listOrEmpty hdirect hpath hfirst hlocation,
    outcome_listOrEmpty hdirect hpath hsecond hother, hbranch]
  exact (Fallible.alike_self _).bind fun _ _ _ => .ok ⟨rfl, rfl⟩

end

end Project

end Showcase.Repository
