import Showcase.Listing.Selection
import Showcase.Proofs.Listing.Path

/-!
# Directories of a repository

A directory is named by its path, of which every step is made of letters, digits, hyphens and underscores; the root has
no steps. Such a path stands for itself wherever paths are joined or stripped of what stands around them. Whether a path
below a directory leads through one of the directories of helpers is told from the path of the directory and from the
path below it.
-/

namespace Showcase.Repository

/-! ## Plain paths -/

/-- Characters of the steps of a directory. -/
def isStepChar (c : Char) : Bool := Text.isLetter c || Text.isDigit c || c == '-' || c == '_'

/-- A path of one step or more, all of them of such characters. -/
def IsPlainPath (path : List Char) : Prop :=
  ∀ step ∈ Text.splitAtChar '/' path, step ≠ [] ∧ ∀ c ∈ step, isStepChar c = true

theorem isPlainPath_iff {path : List Char} :
    IsPlainPath path ↔ ((Text.splitAtChar '/' path).all fun step => !step.isEmpty && step.all isStepChar) = true := by
  simp [IsPlainPath]

instance (path : List Char) : Decidable (IsPlainPath path) := decidable_of_iff _ isPlainPath_iff.symm

theorem isPlainPath_append {s t : List Char} : IsPlainPath (s ++ '/' :: t) ↔ IsPlainPath s ∧ IsPlainPath t := by
  rw [IsPlainPath, Text.splitAtChar_append]
  exact List.forall_mem_append

/-- Characters of steps are printable characters of ASCII. -/
theorem bounds_of_isStepChar {c : Char} (hc : isStepChar c = true) : 32 < c.toNat ∧ c.toNat < 127 := by
  simp only [isStepChar, Text.isLetter, Text.isDigit, Bool.or_eq_true, Bool.and_eq_true, decide_eq_true_eq, beq_iff_eq,
    Char.le_def, UInt32.le_iff_toNat_le] at hc
  rcases hc with ((hletter | hdigit) | rfl) | rfl
  · have hcode : 65 ≤ c.toNat ∧ c.toNat ≤ 122 := by
      rcases hletter with ⟨hge, hle⟩ | ⟨hge, hle⟩
      · exact ⟨Nat.le_trans (by decide) hge, hle⟩
      · exact ⟨hge, Nat.le_trans hle (by decide)⟩
    omega
  · have hcode : 48 ≤ c.toNat ∧ c.toNat ≤ 57 := hdigit
    omega
  · decide
  · decide

theorem isBlank_of_bounds {c : Char} (hc : 32 < c.toNat ∧ c.toNat < 127) : Text.isBlank c = false := by
  have hblank : c ≠ ' ' := by
    rintro rfl
    exact absurd hc.1 (by decide)
  have hlow : (decide (c.toNat ≤ 13)) = false ∧ (decide (c.toNat ≤ 31)) = false := by
    constructor <;> rw [decide_eq_false_iff_not] <;> omega
  rw [Text.isBlank, if_pos (by omega), hlow.1, hlow.2]
  simp [hblank]

/-- A text of slashes and characters of steps. -/
def IsOfSteps (s : List Char) : Prop := ∀ c ∈ s, c = '/' ∨ isStepChar c = true

theorem isOfSteps_iff {s : List Char} : IsOfSteps s ↔ (s.all fun c => c == '/' || isStepChar c) = true := by
  simp [IsOfSteps]

instance (s : List Char) : Decidable (IsOfSteps s) := decidable_of_iff _ isOfSteps_iff.symm

theorem isOfSteps_append {s t : List Char} : IsOfSteps (s ++ t) ↔ IsOfSteps s ∧ IsOfSteps t := List.forall_mem_append

theorem isOfSteps_cons {s : List Char} (h : IsOfSteps s) : IsOfSteps ('/' :: s) :=
  List.forall_mem_cons.mpr ⟨.inl rfl, h⟩

theorem IsOfSteps.bounds {s : List Char} (h : IsOfSteps s) {c : Char} (hc : c ∈ s) : 32 < c.toNat ∧ c.toNat < 127 := by
  rcases h c hc with rfl | hstep
  · decide
  · exact bounds_of_isStepChar hstep

theorem IsOfSteps.not_mem {s : List Char} (h : IsOfSteps s) {c : Char} (hslash : c ≠ '/')
    (hstep : isStepChar c = false) : c ∉ s := by
  intro hc
  rcases h c hc with heq | hin
  · exact hslash heq
  · rw [hstep] at hin
    cases hin

namespace IsPlainPath

variable {path : List Char}

theorem isOfSteps (h : IsPlainPath path) : IsOfSteps path := by
  intro c hc
  rcases Text.mem_splitAtChar '/' hc with hslash | ⟨step, hstep, hin⟩
  · exact .inl hslash
  · exact .inr ((h step hstep).2 c hin)

theorem ne_nil (h : IsPlainPath path) : path ≠ [] := by
  rintro rfl
  exact (h [] List.mem_cons_self).1 rfl

/-- A plain path has no slash at its ends: beside it there would be an empty step. -/
theorem head_ne (h : IsPlainPath path) : path.head? ≠ some '/' := by
  intro hhead
  obtain ⟨rest, rfl⟩ := List.head?_eq_some_iff.mp hhead
  exact (h [] (by rw [Text.splitAtChar_cons_self]; exact List.mem_cons_self)).1 rfl

@[inherit_doc head_ne]
theorem last_ne (h : IsPlainPath path) : path.getLast? ≠ some '/' := by
  intro hlast
  obtain ⟨rest, rfl⟩ := List.getLast?_eq_some_iff.mp hlast
  exact ((isPlainPath_append.mp h).2 [] List.mem_cons_self).1 rfl

end IsPlainPath

/-- The path of a directory: plain, or empty for the root. -/
def IsDirectoryPath (path : String) : Prop := path = "" ∨ IsPlainPath path.toList

theorem IsDirectoryPath.isOfSteps {path : String} (h : IsDirectoryPath path) : IsOfSteps path.toList := by
  rcases h with rfl | hplain
  · decide
  · exact hplain.isOfSteps

theorem hasBareEnds_of_plain {path : String} (h : IsDirectoryPath path) : HasBareEnds path := by
  rcases h with rfl | h
  · exact ⟨rfl, rfl⟩
  · constructor
    · rw [beginsWith_slash]
      intro c hc
      rw [beq_eq_false_iff_ne]
      rintro rfl
      exact h.head_ne hc
    · rw [endsWith_slash]
      intro c hc
      rw [beq_eq_false_iff_ne]
      rintro rfl
      exact h.last_ne hc

theorem withoutOuterSlashes_of_plain {path : String} (h : IsDirectoryPath path) :
    withoutOuterSlashes path = path := (hasBareEnds_of_plain h).withoutOuterSlashes_eq

theorem pathPart_of_plain {path : String} (h : IsDirectoryPath path) : Listing.pathPart path = path := by
  have hblank : IsBlankFree path := fun c hc => isBlank_of_bounds (h.isOfSteps.bounds hc)
  rw [Listing.pathPart_eq hblank, withoutOuterSlashes_of_plain h]

/-! ## Directories -/

/-- A directory of a repository. -/
structure Directory where
  path : String
  plain : IsDirectoryPath path

/-- The directory that all others are in. -/
def Directory.root : Directory := ⟨"", .inl rfl⟩

/-- What stands before the paths below a path. -/
def stem (path : String) : List Char := if path.isEmpty then [] else path.toList ++ ['/']

namespace Directory

variable (directory : Directory)

/-- The path of what stands at a path below a directory. -/
def below (path : String) : String :=
  if directory.path.isEmpty then path else directory.path ++ "/" ++ path

theorem isOfSteps_stem : IsOfSteps (stem directory.path) := by
  unfold stem
  split
  · decide
  · exact isOfSteps_append.mpr ⟨directory.plain.isOfSteps, by decide⟩

theorem toList_below (path : String) : (directory.below path).toList = stem directory.path ++ path.toList := by
  unfold below stem
  split
  · rfl
  · simp [String.toList_append]

theorem length_below_le (path : String) :
    (directory.below path).toList.length ≤ directory.path.toList.length + 1 + path.toList.length := by
  have hstem : (stem directory.path).length ≤ directory.path.toList.length + 1 := by
    unfold stem
    split
    · exact Nat.zero_le _
    · rw [List.length_append, List.length_singleton]
  rw [toList_below, List.length_append]
  omega

/-- Different paths below a directory are different paths. -/
theorem below_inj {path other : String} : directory.below path = directory.below other ↔ path = other := by
  constructor
  · intro h
    have hlist := congrArg String.toList h
    rw [toList_below, toList_below] at hlist
    exact String.toList_inj.mp (List.append_cancel_left hlist)
  · exact congrArg directory.below

theorem below_plain {path : String} (h : IsPlainPath path.toList) : IsPlainPath (directory.below path).toList := by
  unfold below
  split
  · exact h
  · rename_i hfilled
    rw [String.toList_append, String.toList_append, List.append_assoc]
    exact isPlainPath_append.mpr ⟨directory.plain.resolve_left (by simpa using hfilled), h⟩

/-- The directory at a path below another; no path leads to the directory itself. -/
def sub (path : String) : String := if path.isEmpty then directory.path else directory.below path

theorem sub_plain {path : String} (h : IsDirectoryPath path) : IsDirectoryPath (directory.sub path) := by
  unfold sub
  split
  · exact directory.plain
  · rename_i hfilled
    exact .inr (directory.below_plain (h.resolve_left (by simpa using hfilled)))

theorem stem_sub (path : String) : stem (directory.sub path) = stem directory.path ++ stem path := by
  by_cases hpath : path.isEmpty = true
  · rw [sub, if_pos hpath, stem.eq_1 path, if_pos hpath, List.append_nil]
  · have hfilled : ¬(directory.below path).isEmpty = true := by
      rw [String.isEmpty_iff, ← String.toList_eq_nil_iff, toList_below, List.append_eq_nil_iff]
      rw [String.isEmpty_iff, ← String.toList_eq_nil_iff] at hpath
      exact fun h => hpath h.2
    rw [sub, if_neg hpath, stem, if_neg hfilled, toList_below, stem.eq_1 path, if_neg hpath, List.append_assoc]

theorem joinPath_eq {path : String} (h : IsDirectoryPath path) :
    Listing.joinPath directory.path path = directory.sub path := by
  rw [Listing.joinPath, pathPart_of_plain directory.plain, pathPart_of_plain h, sub, below]
  by_cases hroot : directory.path.isEmpty = true
  · rw [if_pos hroot, if_pos hroot]
    split
    · rename_i hpath
      rw [String.isEmpty_iff.mp hroot, String.isEmpty_iff.mp hpath]
    · rfl
  · rw [if_neg hroot, if_neg hroot]

/-! ## Helpers -/

/-- Whether the path of a directory leads through a directory of helpers. -/
def leadsThroughHelpers : Bool := Listing.helperPaths.any fun part => contains ("/" ++ directory.path ++ "/") part

theorem contains_below {part : String} {word : List Char} (hpart : part.toList = '/' :: (word ++ ['/']))
    (hword : '/' ∉ word) (hfilled : word ≠ []) (path : String) :
    contains ("/" ++ directory.below path) part =
      (contains ("/" ++ directory.path ++ "/") part || contains ("/" ++ path) part) := by
  have hpath : ("/" ++ path).toList = '/' :: path.toList := by
    simp [String.toList_append]
  have hwhole : ("/" ++ directory.path ++ "/").toList = '/' :: directory.path.toList ++ ['/'] := by
    simp [String.toList_append]
  simp only [contains, hpart, hpath, hwhole]
  by_cases hroot : directory.path = ""
  · -- around the root there are two slashes with nothing between them
    have hnone : Text.occursIn ('/' :: (word ++ ['/'])) ('/' :: "".toList ++ ['/']) = false := by
      obtain ⟨c, rest, rfl⟩ := List.exists_cons_of_ne_nil hfilled
      have hc : c ≠ '/' := fun heq => hword (heq ▸ List.mem_cons_self)
      cases rest <;> simp [Text.occursIn, List.isPrefixOf]
    rw [below, if_pos (by simp [hroot]), hroot, hnone, Bool.false_or, hpath]
  · have hbelow : ("/" ++ directory.below path).toList = '/' :: directory.path.toList ++ '/' :: path.toList := by
      rw [below, if_neg (by simpa using hroot)]
      simp [String.toList_append]
    rw [hbelow, Text.occursIn_append_slash hword]

/-- A path below a directory leads through a directory of helpers if either part of it does. -/
theorem any_contains_below (path : String) :
    (Listing.helperPaths.any fun part => contains ("/" ++ directory.below path) part) =
      (directory.leadsThroughHelpers || Listing.helperPaths.any fun part => contains ("/" ++ path) part) := by
  have hui := directory.contains_below (show "/ui/".toList = '/' :: ("ui".toList ++ ['/']) by decide) (by decide)
    (by decide) path
  have hfigma := directory.contains_below (show "/figma/".toList = '/' :: ("figma".toList ++ ['/']) by decide)
    (by decide) (by decide) path
  simp only [leadsThroughHelpers, Listing.helperPaths, List.any_cons, List.any_nil, Bool.or_false, hui, hfigma]
  ac_rfl

end Directory

end Showcase.Repository
