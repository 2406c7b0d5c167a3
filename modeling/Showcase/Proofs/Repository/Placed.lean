import Showcase.Network.Memory
import Showcase.Proofs.Repository.Directory

/-!
# Files below a directory

The files of a repository may be placed below a directory. A host that holds them there has the content of each at its
place, nothing anywhere else, and lists the directories below as it would list them at the root, but for the place of
what it finds.
-/

namespace Showcase.Network.Memory

open Repository

/-- A host that holds some files and has no prepared replies. -/
def holding (files : List (String × String)) : Memory := ⟨files, [], [], none, []⟩

/-- Files below a directory. -/
def placed (directory : Directory) (files : List (String × String)) : List (String × String) :=
  files.map fun file => (directory.below file.1, file.2)

section

variable (directory : Directory) (files : List (String × String))

/-! ## Contents -/

theorem lookup_placed (path : String) : (placed directory files).lookup (directory.below path) = files.lookup path := by
  induction files with
  | nil => rfl
  | cons file files ih =>
    have hsame : (directory.below path == directory.below file.1) = (path == file.1) := by
      rw [Bool.eq_iff_iff, beq_iff_eq, beq_iff_eq, directory.below_inj]
    have hcons : placed directory (file :: files) = (directory.below file.1, file.2) :: placed directory files := rfl
    rw [hcons, List.lookup_cons, List.lookup_cons, hsame, ih]

theorem file?_below (path : String) :
    (holding (placed directory files)).file? (directory.below path) = (holding files).file? path := by
  have hreverse : (placed directory files).reverse = placed directory files.reverse := by
    rw [placed, placed, List.map_reverse]
  rw [file?, holding, hreverse, lookup_placed]
  rfl

variable {files}

theorem mem_of_file? {path content : String} (h : (holding files).file? path = some content) :
    (path, content) ∈ files := by
  obtain ⟨before, after, hsplit, -⟩ := List.lookup_eq_some_iff.mp h
  have hmem : (path, content) ∈ files.reverse := by
    rw [show files.reverse = before ++ (path, content) :: after from hsplit]
    simp
  exact List.mem_reverse.mp hmem

theorem isSome_file? {path content : String} (h : (path, content) ∈ files) :
    ((holding files).file? path).isSome = true := by
  cases hfile : (holding files).file? path with
  | some found => rfl
  | none =>
    have hnone := List.lookup_eq_none_iff.mp hfile (path, content) (List.mem_reverse.mpr h)
    simp at hnone

variable {directory}

/-- There is nothing at a path that is no longer than that of the directory. -/
theorem file?_of_short (hfilled : ∀ file ∈ files, file.1 ≠ "") {path : String}
    (hshort : path.toList.length ≤ directory.path.toList.length) :
    (holding (placed directory files)).file? path = none := by
  cases hfile : (holding (placed directory files)).file? path with
  | none => rfl
  | some content =>
    obtain ⟨file, hfile, heq⟩ := List.mem_map.mp (mem_of_file? hfile)
    have hpath : path = directory.below file.1 := (Prod.mk.inj heq).1.symm
    have hlength := congrArg List.length (directory.toList_below file.1)
    have hpositive : 0 < file.1.toList.length := by
      rw [List.length_pos_iff, ne_eq, String.toList_eq_nil_iff]
      exact hfilled file hfile
    have hstem : directory.path.toList.length ≤ (stem directory.path).length := by
      unfold stem
      split
      · rename_i hroot
        rw [String.isEmpty_iff.mp hroot]
        exact Nat.le_refl _
      · rw [List.length_append]
        exact Nat.le_add_right _ _
    rw [hpath, hlength, List.length_append] at hshort
    omega

/-! ## Listings -/

/-- A path right below a directory goes on after the directory up to the next slash. -/
theorem childPath?_eq_some {listed path child : String} :
    childPath? listed path = some child ↔
      ∃ rest, path.toList = stem listed ++ rest ∧ child.toList = stem listed ++ (Text.cutAtFirst '/' rest).1 := by
  have hstem : (if listed.isEmpty then "" else listed ++ "/").toList = stem listed := by
    unfold stem
    split
    · rfl
    · simp [String.toList_append]
  unfold childPath? after?
  dsimp only
  rw [hstem, Option.map_eq_some_iff]
  constructor
  · rintro ⟨rest, hrest, rfl⟩
    split at hrest
    · rename_i hprefix
      obtain ⟨later, hlater⟩ := List.isPrefixOf_iff_prefix.mp hprefix
      cases hrest
      refine ⟨later, hlater.symm, ?_⟩
      rw [String.toList_append, hstem, String.toList_ofList, ← hlater, List.drop_left]
    · cases hrest
  · rintro ⟨rest, hpath, hchild⟩
    refine ⟨rest, ?_, ?_⟩
    · rw [hpath, if_pos (List.isPrefixOf_iff_prefix.mpr (List.prefix_append _ _)), List.drop_left]
    · rw [← String.toList_inj, String.toList_append, hstem, String.toList_ofList, hchild]

theorem childPath?_below (directory : Directory) (listed path : String) :
    childPath? (directory.sub listed) (directory.below path) = (childPath? listed path).map directory.below := by
  apply Option.ext
  intro child
  rw [childPath?_eq_some, Option.map_eq_some_iff, directory.stem_sub, directory.toList_below]
  simp only [childPath?_eq_some, List.append_assoc, List.append_cancel_left_eq]
  constructor
  · rintro ⟨rest, hpath, hchild⟩
    refine ⟨String.ofList (stem listed ++ (Text.cutAtFirst '/' rest).1), ⟨rest, hpath, String.toList_ofList⟩, ?_⟩
    rw [← String.toList_inj, directory.toList_below, String.toList_ofList, hchild]
  · rintro ⟨found, ⟨rest, hpath, hfound⟩, rfl⟩
    exact ⟨rest, hpath, by rw [directory.toList_below, hfound]⟩

theorem eraseDups_map_below (directory : Directory) (paths : List String) :
    (paths.map directory.below).eraseDups = paths.eraseDups.map directory.below := by
  induction hlength : paths.length using Nat.strongRecOn generalizing paths with
  | ind n ih =>
    cases paths with
    | nil => rfl
    | cons path paths =>
      have hsame : (fun other => !directory.below other == directory.below path) = fun other => !other == path := by
        funext other
        rw [Bool.eq_iff_iff, Bool.not_eq_true', Bool.not_eq_true', beq_eq_false_iff_ne, beq_eq_false_iff_ne, ne_eq,
          directory.below_inj]
      have hshorter : (paths.filter fun other => !other == path).length < n := by
        rw [← hlength, List.length_cons]
        exact Nat.lt_succ_of_le (List.length_filter_le _ _)
      rw [List.map_cons, List.eraseDups_cons, List.eraseDups_cons, List.map_cons, List.filter_map]
      have hfilter : (fun other => !other == directory.below path) ∘ directory.below =
          fun other => !directory.below other == directory.below path := rfl
      rw [hfilter, hsame, ih _ hshorter _ rfl]

theorem append_lt_append_iff (before first second : List Char) : before ++ first < before ++ second ↔ first < second := by
  induction before with
  | nil => rfl
  | cons c rest ih =>
    rw [List.cons_append, List.cons_append, List.cons_lt_cons_iff, ih]
    simp

/-- Paths below a directory are in the order of the paths. -/
theorem below_le (directory : Directory) {path other : String} :
    directory.below path ≤ directory.below other ↔ path ≤ other := by
  have hlt : directory.below other < directory.below path ↔ other < path := by
    rw [String.lt_iff, String.lt_iff, directory.toList_below, directory.toList_below,
      append_lt_append_iff]
  exact not_congr hlt

/-- A directory below another is listed as at the root, but for the place of what is in it. -/
theorem childPaths_sub (directory : Directory) (files : List (String × String)) (listed : String) :
    (holding (placed directory files)).childPaths (directory.sub listed) =
      ((holding files).childPaths listed).map directory.below := by
  have hpaths : ((placed directory files).filterMap fun file => childPath? (directory.sub listed) file.1) =
      (files.filterMap fun file => childPath? listed file.1).map directory.below := by
    rw [placed, List.filterMap_map, List.map_filterMap]
    congr 1
    funext file
    exact childPath?_below directory listed file.1
  have horder : ∀ path ∈ (files.filterMap fun file => childPath? listed file.1).eraseDups,
      ∀ other ∈ (files.filterMap fun file => childPath? listed file.1).eraseDups,
      decide (path ≤ other) = decide (directory.below path ≤ directory.below other) := by
    intro path _ other _
    rw [decide_eq_decide, below_le]
  have hsorted := @List.map_mergeSort _ _ _ (fun path other => decide (path ≤ other)) directory.below _ horder
  rw [← eraseDups_map_below, ← hpaths] at hsorted
  exact hsorted.symm

theorem mem_childPaths {listed child : String} :
    child ∈ (holding files).childPaths listed ↔ ∃ file ∈ files, childPath? listed file.1 = some child := by
  rw [childPaths, List.mem_mergeSort, List.mem_eraseDups, List.mem_filterMap]
  rfl

end

end Showcase.Network.Memory
