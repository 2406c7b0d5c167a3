import Showcase.Listing.Path
import Showcase.Proofs.Text.Stretch

/-!
# Joined paths

A joined path has no slash at either end, whatever it was joined from. Where no blanks are about, a path of several parts
is the parts that are not empty with slashes between them, in whatever order it was joined: joining goes over paths as
putting together goes over lists of parts. So joining is associative, the root leaves no trace, and outer slashes of what
is joined do not count.
-/

namespace Showcase

/-! ## Ends of a path -/

/-- A path with no slash at either end. -/
structure HasBareEnds (path : String) : Prop where
  head : beginsWith path "/" = false
  last : endsWith path "/" = false

variable {path base sub : String}

theorem beginsWith_slash : beginsWith path "/" = false ↔ ∀ c, path.toList.head? = some c → (c == '/') = false := by
  have hslash : "/".toList = ['/'] := rfl
  rw [beginsWith, hslash]
  cases path.toList with
  | nil => simp [List.isPrefixOf]
  | cons first rest =>
    rw [List.isPrefixOf, List.isPrefixOf, Bool.and_true, Bool.beq_comm]
    simp

theorem endsWith_slash : endsWith path "/" = false ↔ ∀ c, path.toList.getLast? = some c → (c == '/') = false := by
  -- a path ends with a slash if it begins with one when it is read backwards
  have hreverse : endsWith path "/" = beginsWith (String.ofList path.toList.reverse) "/" := by
    simp [endsWith, beginsWith, List.isSuffixOf]
  rw [hreverse, beginsWith_slash, String.toList_ofList, List.head?_reverse]

theorem hasBareEnds_withoutOuterSlashes (s : String) : HasBareEnds (withoutOuterSlashes s) := by
  constructor
  · rw [beginsWith_slash, withoutOuterSlashes, String.toList_ofList]
    exact fun c => @Text.head?_stripWhile (· == '/') _ c
  · rw [endsWith_slash, withoutOuterSlashes, String.toList_ofList]
    exact fun c => @Text.getLast?_stripWhile (· == '/') _ c

theorem HasBareEnds.withoutOuterSlashes_eq (h : HasBareEnds path) : withoutOuterSlashes path = path := by
  rw [withoutOuterSlashes, Text.stripWhile_eq_self (beginsWith_slash.mp h.head) (endsWith_slash.mp h.last),
    String.ofList_toList]

theorem withoutOuterSlashes_idem (s : String) :
    withoutOuterSlashes (withoutOuterSlashes s) = withoutOuterSlashes s :=
  (hasBareEnds_withoutOuterSlashes s).withoutOuterSlashes_eq

/-! ## Blanks -/

/-- A text without blanks. -/
def IsBlankFree (s : String) : Prop := ∀ c ∈ s.toList, Text.isBlank c = false

instance (s : String) : Decidable (IsBlankFree s) := List.decidableBAll (fun c => Text.isBlank c = false) s.toList

/-- Slashes are no blanks: with outer slashes or without them, a text has the same blanks. -/
theorem isBlankFree_withoutOuterSlashes {s : String} : IsBlankFree (withoutOuterSlashes s) ↔ IsBlankFree s := by
  obtain ⟨lead, trail, hsplit, hlead, htrail⟩ := Text.exists_stripWhile (· == '/') s.toList
  have hslash : ∀ c, (c == '/') = true → Text.isBlank c = false := by
    rintro c hc
    rw [beq_iff_eq.mp hc]
    decide
  rw [IsBlankFree, IsBlankFree, withoutOuterSlashes, String.toList_ofList]
  constructor
  · intro h c hc
    rw [hsplit, List.mem_append, List.mem_append] at hc
    rcases hc with (hc | hc) | hc
    · exact hslash c (hlead c hc)
    · exact h c hc
    · exact hslash c (htrail c hc)
  · intro h c hc
    refine h c ?_
    rw [hsplit]
    exact List.mem_append_left trail (List.mem_append_right lead hc)

namespace Listing

theorem pathPart_eq {s : String} (h : IsBlankFree s) : pathPart s = withoutOuterSlashes s := by
  rw [pathPart, trimmed, Text.trim_eq_self h, String.ofList_toList]

/-! ## Paths of several parts -/

/-- The parts of a path that are not empty. -/
def filledParts (paths : List String) : List String := (paths.map pathPart).filter fun part => !part.isEmpty

/-- A path of several parts: those that are not empty, with slashes between them. -/
def ofParts (paths : List String) : String := "/".intercalate (filledParts paths)

variable {paths first second : List String}

theorem filledParts_append : filledParts (first ++ second) = filledParts first ++ filledParts second := by
  rw [filledParts, List.map_append, List.filter_append, filledParts, filledParts]

theorem ne_empty_of_mem_filledParts {part : String} (h : part ∈ filledParts paths) : part ≠ "" := by
  have hfilled := (List.mem_filter.mp h).2
  simpa [String.isEmpty_iff] using hfilled

theorem joinPath_eq_ofParts (base sub : String) : joinPath base sub = ofParts [base, sub] := by
  unfold joinPath ofParts filledParts
  cases hbase : (pathPart base).isEmpty <;> cases hsub : (pathPart sub).isEmpty <;> simp [hbase, hsub]
  exact String.isEmpty_iff.mp hsub

theorem intercalate_ne_empty {part : String} (hpart : part ≠ "") (separator : String) (others : List String) :
    separator.intercalate (part :: others) ≠ "" := by
  cases others with
  | nil => simpa using hpart
  | cons next others => simp [hpart]

theorem isEmpty_ofParts : (ofParts paths).isEmpty = true ↔ filledParts paths = [] := by
  rw [String.isEmpty_iff]
  constructor
  · intro h
    cases hparts : filledParts paths with
    | nil => rfl
    | cons part others =>
      rw [ofParts, hparts] at h
      exact absurd h (intercalate_ne_empty (ne_empty_of_mem_filledParts (hparts ▸ List.mem_cons_self)) "/" others)
  · intro h
    rw [ofParts, h, String.intercalate_nil]

theorem toList_ofParts (paths : List String) :
    (ofParts paths).toList = List.intercalate ['/'] ((filledParts paths).map String.toList) := String.toList_intercalate

/-- A path begins like one of its parts and ends like one, and no part has a slash there. -/
theorem hasBareEnds_ofParts (paths : List String) : HasBareEnds (ofParts paths) := by
  have hparts : ∀ text ∈ (filledParts paths).map String.toList, text ≠ [] ∧ HasBareEnds (String.ofList text) := by
    intro text htext
    obtain ⟨part, hpart, rfl⟩ := List.mem_map.mp htext
    obtain ⟨path, -, rfl⟩ := List.mem_map.mp (List.mem_of_mem_filter hpart)
    rw [String.ofList_toList]
    exact ⟨by simpa using ne_empty_of_mem_filledParts hpart, hasBareEnds_withoutOuterSlashes _⟩
  have hfilled : ∀ text ∈ (filledParts paths).map String.toList, text ≠ [] := fun text htext => (hparts text htext).1
  constructor
  · rw [beginsWith_slash, toList_ofParts]
    intro c hc
    obtain ⟨text, htext, hhead⟩ := Text.head?_intercalate hfilled hc
    exact beginsWith_slash.mp (hparts text htext).2.head c (by rwa [String.toList_ofList])
  · rw [endsWith_slash, toList_ofParts]
    intro c hc
    obtain ⟨text, htext, hlast⟩ := Text.getLast?_intercalate hfilled hc
    exact endsWith_slash.mp (hparts text htext).2.last c (by rwa [String.toList_ofList])

/-- A joined path has no slash at either end. -/
theorem hasBareEnds_joinPath (base sub : String) : HasBareEnds (joinPath base sub) := by
  rw [joinPath_eq_ofParts]
  exact hasBareEnds_ofParts _

/-! ## Joining where no blanks are about -/

theorem isBlankFree_ofParts (hpaths : ∀ path ∈ paths, IsBlankFree path) : IsBlankFree (ofParts paths) := by
  intro c hc
  rw [toList_ofParts] at hc
  rcases Text.mem_intercalate hc with rfl | ⟨text, htext, hmem⟩
  · decide
  · obtain ⟨part, hpart, rfl⟩ := List.mem_map.mp htext
    obtain ⟨path, hpath, rfl⟩ := List.mem_map.mp (List.mem_of_mem_filter hpart)
    rw [pathPart_eq (hpaths path hpath)] at hmem
    exact isBlankFree_withoutOuterSlashes.mpr (hpaths path hpath) c hmem

/-- A path that was joined is a part as it is. -/
theorem pathPart_ofParts (hpaths : ∀ path ∈ paths, IsBlankFree path) : pathPart (ofParts paths) = ofParts paths := by
  rw [pathPart_eq (isBlankFree_ofParts hpaths), (hasBareEnds_ofParts paths).withoutOuterSlashes_eq]

/-- Joining goes over paths as putting together goes over lists of their parts. -/
theorem joinPath_ofParts (hfirst : ∀ path ∈ first, IsBlankFree path) (hsecond : ∀ path ∈ second, IsBlankFree path) :
    joinPath (ofParts first) (ofParts second) = ofParts (first ++ second) := by
  rw [joinPath, pathPart_ofParts hfirst, pathPart_ofParts hsecond, ofParts.eq_1 (first ++ second), filledParts_append]
  -- a side without parts is the root, and joining gives the other side
  by_cases hleft : filledParts first = []
  · rw [if_pos (isEmpty_ofParts.mpr hleft), hleft, List.nil_append, ofParts]
  · rw [if_neg fun hempty => hleft (isEmpty_ofParts.mp hempty)]
    by_cases hright : filledParts second = []
    · rw [if_pos (isEmpty_ofParts.mpr hright), hright, List.append_nil, ofParts]
    · rw [if_neg fun hempty => hright (isEmpty_ofParts.mp hempty), String.intercalate_append_of_ne_nil hleft hright,
        ofParts, ofParts]

/-- Outer slashes of what is joined do not count. -/
theorem joinPath_congr {base' sub' : String} (hbase : IsBlankFree base) (hsub : IsBlankFree sub)
    (hsameBase : withoutOuterSlashes base = withoutOuterSlashes base')
    (hsameSub : withoutOuterSlashes sub = withoutOuterSlashes sub') : joinPath base sub = joinPath base' sub' := by
  have hpart : ∀ {path path' : String}, IsBlankFree path → withoutOuterSlashes path = withoutOuterSlashes path' →
      pathPart path = pathPart path' := by
    intro path path' hpath hsame
    have hpath' : IsBlankFree path' := by
      rw [← isBlankFree_withoutOuterSlashes, ← hsame]
      exact isBlankFree_withoutOuterSlashes.mpr hpath
    rw [pathPart_eq hpath, pathPart_eq hpath', hsame]
  rw [joinPath, joinPath, hpart hbase hsameBase, hpart hsub hsameSub]

theorem ofParts_singleton {path : String} (hpath : IsBlankFree path) : ofParts [path] = withoutOuterSlashes path := by
  rw [← pathPart_eq hpath, ofParts, filledParts, List.map_singleton]
  by_cases hempty : (pathPart path).isEmpty = true
  · rw [List.filter_cons_of_neg (by simpa using hempty), List.filter_nil, String.intercalate_nil,
      String.isEmpty_iff.mp hempty]
  · rw [List.filter_cons_of_pos (by simpa using hempty), List.filter_nil, String.intercalate_singleton]

/-- What is joined to a path of several parts becomes its last part. -/
theorem joinPath_ofParts_left (hpaths : ∀ path ∈ paths, IsBlankFree path) (hsub : IsBlankFree sub) :
    joinPath (ofParts paths) sub = ofParts (paths ++ [sub]) := by
  rw [← joinPath_ofParts hpaths (List.forall_mem_singleton.mpr hsub)]
  -- the path is not yet its own one part, but only outer slashes are between them
  refine joinPath_congr (isBlankFree_ofParts hpaths) hsub rfl ?_
  rw [ofParts_singleton hsub, withoutOuterSlashes_idem]

/-- What a path of several parts is joined to becomes its first part. -/
theorem joinPath_ofParts_right (hbase : IsBlankFree base) (hpaths : ∀ path ∈ paths, IsBlankFree path) :
    joinPath base (ofParts paths) = ofParts (base :: paths) := by
  rw [← List.singleton_append, ← joinPath_ofParts (List.forall_mem_singleton.mpr hbase) hpaths]
  refine joinPath_congr hbase (isBlankFree_ofParts hpaths) ?_ rfl
  rw [ofParts_singleton hbase, withoutOuterSlashes_idem]

theorem joinPath_assoc {a b c : String} (ha : IsBlankFree a) (hb : IsBlankFree b) (hc : IsBlankFree c) :
    joinPath (joinPath a b) c = joinPath a (joinPath b c) := by
  have hleft : ∀ path ∈ [a, b], IsBlankFree path := by simp [ha, hb]
  have hright : ∀ path ∈ [b, c], IsBlankFree path := by simp [hb, hc]
  calc joinPath (joinPath a b) c
      = joinPath (ofParts [a, b]) c := by rw [joinPath_eq_ofParts a b]
    _ = ofParts [a, b, c] := joinPath_ofParts_left hleft hc
    _ = joinPath a (ofParts [b, c]) := (joinPath_ofParts_right ha hright).symm
    _ = joinPath a (joinPath b c) := by rw [joinPath_eq_ofParts b c]

theorem joinPath_root {path : String} (hpath : IsBlankFree path) :
    joinPath "" path = withoutOuterSlashes path ∧ joinPath path "" = withoutOuterSlashes path := by
  have hroot : pathPart "" = "" := rfl
  rw [joinPath, joinPath, hroot, pathPart_eq hpath]
  constructor
  · rfl
  · by_cases hempty : (withoutOuterSlashes path).isEmpty = true
    · rw [if_pos hempty, String.isEmpty_iff.mp hempty]
    · rw [if_neg hempty]
      rfl

/-- A joined path has no slash at either end. Where no blanks are about, joining is associative, the root is neutral on
both sides but for outer slashes, and of what is joined only what is left without its outer slashes counts. -/
theorem joinPath_monoid :
    (∀ base sub, HasBareEnds (joinPath base sub)) ∧
    (∀ a b c, IsBlankFree a → IsBlankFree b → IsBlankFree c →
      joinPath (joinPath a b) c = joinPath a (joinPath b c)) ∧
    (∀ path, IsBlankFree path →
      joinPath "" path = withoutOuterSlashes path ∧ joinPath path "" = withoutOuterSlashes path) ∧
    ∀ base sub base' sub', IsBlankFree base → IsBlankFree sub →
      withoutOuterSlashes base = withoutOuterSlashes base' → withoutOuterSlashes sub = withoutOuterSlashes sub' →
      joinPath base sub = joinPath base' sub' :=
  ⟨hasBareEnds_joinPath, fun _ _ _ => joinPath_assoc, fun _ => joinPath_root, fun _ _ _ _ => joinPath_congr⟩

/-- A part of nothing but slashes leaves no trace, wherever it is joined. -/
theorem joinPath_monoid_of_slashes :
    HasBareEnds (joinPath " /demo//" "/ src/") ∧
    joinPath (joinPath "/demo/" "//") "src//app/" = joinPath "/demo/" (joinPath "//" "src//app/") ∧
    joinPath "" "src//app/" = "src//app" ∧
    joinPath "/demo/" "src//app/" = joinPath "demo" "//src//app" := by
  obtain ⟨hends, hassoc, hroot, hcongr⟩ := joinPath_monoid
  exact ⟨hends _ _, hassoc _ _ _ (by decide) (by decide) (by decide), (hroot "src//app/" (by decide)).1,
    hcongr _ _ _ _ (by decide) (by decide) (by decide) (by decide)⟩

end Listing

end Showcase
