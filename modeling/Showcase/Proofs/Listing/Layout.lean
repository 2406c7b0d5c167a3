import Mathlib.Data.List.Basic
import Showcase.Listing.Layout

/-!
# Verdicts on listings

The verdict on a listing looks for entries of a few kinds and at nothing else, so neither the order of the entries nor
their repetition matters, and an entry that is added can only supply what was missing. What is looked for in a static
bundle is what the page and the style sheet are selected from: a listing is valid as a static bundle where both of them
are selected.
-/

namespace Showcase.Listing

variable {entries others : List Entry}

/-! ## What is looked for -/

theorem any_of_subset (h : entries ⊆ others) {p : Entry → Bool} (hfound : entries.any p = true) :
    others.any p = true := by
  obtain ⟨entry, hentry, hp⟩ := List.any_eq_true.mp hfound
  exact List.any_eq_true.mpr ⟨entry, h hentry, hp⟩

theorem any_of_same (h : ∀ entry, entry ∈ entries ↔ entry ∈ others) (p : Entry → Bool) :
    entries.any p = others.any p :=
  Bool.eq_iff_iff.mpr ⟨any_of_subset fun entry => (h entry).mp, any_of_subset fun entry => (h entry).mpr⟩

theorem hasFile_of_subset (h : entries ⊆ others) {endings : List String} (hfound : hasFile entries endings = true) :
    hasFile others endings = true := any_of_subset h hfound

theorem isFramework_of_subset (h : entries ⊆ others) (hproject : isFramework entries = true) :
    isFramework others = true := by
  obtain ⟨hsource, hmanifest⟩ := Bool.and_eq_true_iff.mp hproject
  exact Bool.and_eq_true_iff.mpr ⟨any_of_subset h hsource, any_of_subset h hmanifest⟩

/-- The entries of a listing make its verdict, whatever their order and however often they are listed. -/
theorem validate_of_same (h : ∀ entry, entry ∈ entries ↔ entry ∈ others) : validate entries = validate others := by
  have hproject : isFramework entries = isFramework others := by
    rw [isFramework, isFramework, any_of_same h, any_of_same h]
  have hparts : missingParts entries = missingParts others := by
    simp only [missingParts, hasFile, any_of_same h]
  have hextras : missingExtras entries = missingExtras others := by
    simp only [missingExtras, hasFile, any_of_same h]
  rw [validate, validate, hproject, hparts, hextras]

/-! ## Errors -/

theorem missing_sublist {present found : Bool} (h : present = true → found = true) (message : String) :
    (missing found message).Sublist (missing present message) := by
  cases present with
  | true => rw [h rfl]
  | false =>
    cases found with
    | true => exact List.nil_sublist _
    | false => exact List.Sublist.refl _

theorem errors_eq (entries : List Entry) :
    (validate entries).errors = if isFramework entries then [] else missingParts entries := by
  unfold validate
  split <;> rfl

/-- A listing is valid where nothing that has to be there is missing. -/
theorem valid_iff (entries : List Entry) : (validate entries).valid = true ↔ (validate entries).errors = [] := by
  unfold validate
  split
  · exact iff_of_true rfl rfl
  · exact List.isEmpty_iff

/-- A framework project passes: what it holds is seen later. -/
theorem valid_of_framework (h : (validate entries).layout = .framework) : (validate entries).valid = true := by
  unfold validate at h ⊢
  split
  · rfl
  · rename_i hproject
    rw [if_neg hproject] at h
    cases h

/-- Entries that are added add no error. -/
theorem errors_of_subset (h : entries ⊆ others) : (validate others).errors.Sublist (validate entries).errors := by
  rw [errors_eq, errors_eq]
  by_cases hproject : isFramework others = true
  · rw [if_pos hproject]
    exact List.nil_sublist _
  · -- what is no project with more entries is none without them
    rw [if_neg hproject, if_neg fun hfewer => hproject (isFramework_of_subset h hfewer)]
    exact (missing_sublist (hasFile_of_subset h) _).append (missing_sublist (hasFile_of_subset h) _)

theorem valid_of_subset (h : entries ⊆ others) (hvalid : (validate entries).valid = true) :
    (validate others).valid = true := by
  have herrors := errors_of_subset h
  rw [(valid_iff entries).mp hvalid] at herrors
  exact (valid_iff others).mpr (List.sublist_nil.mp herrors)

/-! ## Selection -/

/-- Where every preferred name has one of the endings, something is selected exactly if a file has one of them. -/
theorem isSome_selectFile {preferred endings : List String} (hnames : ∀ name ∈ preferred, hasEnding name endings = true)
    (entries : List Entry) : (selectFile entries preferred endings).isSome = hasFile entries endings := by
  have hfiles : hasFile entries endings = (entries.filter Entry.isFile).any fun entry => hasEnding entry.name endings := by
    rw [List.any_filter]
    rfl
  rw [hfiles, Bool.eq_iff_iff, List.any_eq_true, selectFile, select]
  split
  · -- a file with a preferred name is a file with an ending
    rename_i entry hfound
    obtain ⟨name, hname, hentry⟩ := List.exists_of_findSome?_eq_some hfound
    have hnamed := List.find?_some hentry
    obtain rfl := eq_of_beq hnamed
    exact iff_of_true rfl ⟨entry, List.mem_of_find?_eq_some hentry, hnames _ hname⟩
  · exact List.find?_isSome

theorem isSome_page (entries : List Entry) :
    (selectFile entries pageNames pageEndings).isSome = hasFile entries pageEndings :=
  isSome_selectFile (by decide) entries

theorem isSome_style (entries : List Entry) :
    (selectFile entries styleNames styleEndings).isSome = hasFile entries styleEndings :=
  isSome_selectFile (by decide) entries

/-- A static listing is valid where a page and a style sheet are selected from it. -/
theorem valid_static_iff (hstatic : (validate entries).layout = .static) :
    (validate entries).valid = true ↔
      (∃ page, selectFile entries pageNames pageEndings = some page) ∧
        ∃ style, selectFile entries styleNames styleEndings = some style := by
  have hproject : isFramework entries = false := by
    by_contra hproject
    rw [validate, if_pos (Bool.not_eq_false _ |>.mp hproject)] at hstatic
    cases hstatic
  rw [valid_iff, errors_eq, hproject, ← Option.isSome_iff_exists, ← Option.isSome_iff_exists, isSome_page, isSome_style,
    if_neg Bool.false_ne_true, missingParts]
  generalize hasFile entries pageEndings = page, hasFile entries styleEndings = style
  cases page <;> cases style <;> decide

end Showcase.Listing
