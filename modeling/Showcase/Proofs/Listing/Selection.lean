import Mathlib.Data.List.Perm.Basic
import Mathlib.Data.Prod.Lex
import Showcase.Component.Upload

/-!
# What is selected from a list of files

A file is selected by priority and then by position: the file that is first by the index of its name among the preferred
names, and of the files with that name the first of the list; without a preferred name, the first file with a fitting
ending; else none. Directories and files that neither list speaks of play no part, and where a name is preferred the
order of the files plays none for the name that is selected.
-/

namespace Showcase.Listing

variable {α : Type}

/-! ## Priority and position -/

/-- A file stands at a position of a list; what is no file stands at none. -/
def FileAt (isFile : α → Bool) (listed : List α) (position : Nat) (file : α) : Prop :=
  listed[position]? = some file ∧ isFile file = true

/-- The place of a file in the order of selection: the index of its name among the preferred names, then its position. -/
def precedence (preferred : List String) (name : String) (position : Nat) : Nat ×ₗ Nat :=
  toLex (preferred.idxOf name, position)

/-- What is to be selected from a list in which some members are files. -/
inductive Selected (nameOf : α → String) (isFile : α → Bool) (listed : List α) (preferred endings : List String) :
    Option α → Prop where
  | preferred {position : Nat} {file : α} (hfile : FileAt isFile listed position file)
      (hname : nameOf file ∈ preferred)
      (hfirst : ∀ place other, FileAt isFile listed place other → nameOf other ∈ preferred →
        precedence preferred (nameOf file) position ≤ precedence preferred (nameOf other) place) :
      Selected nameOf isFile listed preferred endings (some file)
  | fitting {position : Nat} {file : α}
      (hunnamed : ∀ place other, FileAt isFile listed place other → nameOf other ∉ preferred)
      (hfile : FileAt isFile listed position file) (hending : hasEnding (nameOf file) endings = true)
      (hfirst : ∀ place other, FileAt isFile listed place other → hasEnding (nameOf other) endings = true →
        position ≤ place) : Selected nameOf isFile listed preferred endings (some file)
  | nothing (hunnamed : ∀ place other, FileAt isFile listed place other → nameOf other ∉ preferred)
      (hunfit : ∀ place other, FileAt isFile listed place other → hasEnding (nameOf other) endings = false) :
      Selected nameOf isFile listed preferred endings none

variable {nameOf : α → String} {isFile : α → Bool} {listed : List α} {preferred endings : List String}

theorem FileAt.unique {position : Nat} {file other : α} (hfile : FileAt isFile listed position file)
    (hother : FileAt isFile listed position other) : file = other :=
  Option.some.inj (hfile.1.symm.trans hother.1)

/-- One thing at most is to be selected. -/
theorem Selected.unique {first second : Option α} (hfirst : Selected nameOf isFile listed preferred endings first)
    (hsecond : Selected nameOf isFile listed preferred endings second) : first = second := by
  cases hfirst with
  | @preferred position file hfile hname hleast =>
    cases hsecond with
    | @preferred place other hother hothername hotherleast =>
      -- both come first, so they stand at one position
      have hsame := le_antisymm (hleast place other hother hothername) (hotherleast position file hfile hname)
      have hposition : position = place := congrArg (fun key => (ofLex key).2) hsame
      subst hposition
      exact congrArg some (hfile.unique hother)
    | fitting hunnamed => exact absurd hname (hunnamed position file hfile)
    | nothing hunnamed => exact absurd hname (hunnamed position file hfile)
  | @fitting position file hunnamed hfile hending hleast =>
    cases hsecond with
    | @preferred place other hother hothername => exact absurd hothername (hunnamed place other hother)
    | @fitting place other _ hother hotherending hotherleast =>
      have hposition : position = place :=
        Nat.le_antisymm (hleast place other hother hotherending) (hotherleast position file hfile hending)
      subst hposition
      exact congrArg some (hfile.unique hother)
    | nothing _ hunfit =>
      rw [hunfit position file hfile] at hending
      cases hending
  | nothing hunnamed hunfit =>
    cases hsecond with
    | @preferred place other hother hothername => exact absurd hothername (hunnamed place other hother)
    | @fitting place other _ hother hotherending =>
      rw [hunfit place other hother] at hotherending
      cases hotherending
    | nothing => rfl

/-! ## Searches -/

/-- A search among files passes everything else. -/
theorem find?_files (p : α → Bool) : (listed.filter isFile).find? p = listed.find? fun item => isFile item && p item := by
  rw [List.find?_filter]
  congr 1
  funext item
  rw [Bool.decide_and, Bool.decide_eq_true, Bool.decide_eq_true]

/-- The first file with a property, and where it stands. -/
theorem find?_files_eq_some {p : α → Bool} {file : α} :
    (listed.filter isFile).find? p = some file ↔
      p file = true ∧ ∃ position, FileAt isFile listed position file ∧
        ∀ place other, FileAt isFile listed place other → p other = true → position ≤ place := by
  rw [find?_files, List.find?_eq_some_iff_getElem]
  constructor
  · rintro ⟨hboth, position, hposition, rfl, hbefore⟩
    obtain ⟨hfile, hp⟩ := Bool.and_eq_true_iff.mp hboth
    refine ⟨hp, position, ⟨List.getElem?_eq_getElem hposition, hfile⟩, ?_⟩
    rintro place other ⟨hother, hotherfile⟩ hpother
    by_contra hlt
    obtain ⟨hplace, rfl⟩ := List.getElem?_eq_some_iff.mp hother
    have hpassed := hbefore place (Nat.not_le.mp hlt)
    rw [hotherfile, hpother] at hpassed
    cases hpassed
  · rintro ⟨hp, position, ⟨hfile, hisfile⟩, hfirst⟩
    obtain ⟨hposition, rfl⟩ := List.getElem?_eq_some_iff.mp hfile
    refine ⟨Bool.and_eq_true_iff.mpr ⟨hisfile, hp⟩, position, hposition, rfl, fun place hlt => ?_⟩
    rw [Bool.not_eq_true']
    by_contra hpassed
    obtain ⟨hplacefile, hplace⟩ := Bool.and_eq_true_iff.mp (Bool.not_eq_false _ |>.mp hpassed)
    have hle := hfirst place _ ⟨List.getElem?_eq_getElem (Nat.lt_trans hlt hposition), hplacefile⟩ hplace
    exact absurd hlt (Nat.not_lt.mpr hle)

theorem find?_files_eq_none {p : α → Bool} :
    (listed.filter isFile).find? p = none ↔ ∀ place other, FileAt isFile listed place other → p other = false := by
  rw [List.find?_eq_none]
  constructor
  · rintro h place other ⟨hother, hfile⟩
    exact Bool.not_eq_true _ |>.mp (h other (List.mem_filter.mpr ⟨List.mem_of_getElem? hother, hfile⟩))
  · intro h other hother
    obtain ⟨hmem, hfile⟩ := List.mem_filter.mp hother
    obtain ⟨place, hplace⟩ := List.mem_iff_getElem?.mp hmem
    rw [h place other ⟨hplace, hfile⟩]
    exact Bool.false_ne_true

/-- The selection is what is to be selected. -/
theorem selected_select : Selected nameOf isFile listed preferred endings
    (select nameOf (listed.filter isFile) preferred endings) := by
  unfold select
  split
  · -- the names before the one that is found are those of no file
    rename_i file hfound
    obtain ⟨before, name, after, rfl, hname, hbefore⟩ := List.findSome?_eq_some_iff.mp hfound
    simp only [find?_files_eq_none, beq_eq_false_iff_ne] at hbefore
    obtain ⟨hnamed, position, hfile, hfirst⟩ := find?_files_eq_some.mp hname
    obtain rfl := eq_of_beq hnamed
    have hindex : ∀ place other, FileAt isFile listed place other →
        (before ++ nameOf file :: after).idxOf (nameOf other) =
          before.length + (nameOf file :: after).idxOf (nameOf other) := by
      intro place other hother
      exact List.idxOf_append_of_notMem fun hmem => hbefore _ hmem place other hother rfl
    refine .preferred hfile (by simp) fun place other hother hmem => ?_
    rw [precedence, precedence, Prod.Lex.toLex_le_toLex, hindex position file hfile, hindex place other hother,
      List.idxOf_cons_self]
    by_cases hsame : nameOf other = nameOf file
    · have hle := hfirst place other hother (beq_iff_eq.mpr hsame)
      exact .inr ⟨by rw [hsame, List.idxOf_cons_self], hle⟩
    · rw [List.idxOf_cons_ne _ (Ne.symm hsame)]
      exact .inl (by dsimp only; omega)
  · rename_i hnone
    simp only [List.findSome?_eq_none_iff, find?_files_eq_none, beq_eq_false_iff_ne] at hnone
    have hunnamed : ∀ place other, FileAt isFile listed place other → nameOf other ∉ preferred :=
      fun place other hother hmem => hnone _ hmem place other hother rfl
    cases hfound : (listed.filter isFile).find? fun file => hasEnding (nameOf file) endings with
    | none => exact .nothing hunnamed (find?_files_eq_none.mp hfound)
    | some file =>
      obtain ⟨hending, position, hfile, hfirst⟩ := find?_files_eq_some.mp hfound
      exact .fitting hunnamed hfile hending hfirst

theorem select_eq_iff {result : Option α} :
    select nameOf (listed.filter isFile) preferred endings = result ↔
      Selected nameOf isFile listed preferred endings result :=
  ⟨fun h => h ▸ selected_select, selected_select.unique⟩

/-! ## What plays no part -/

/-- Whether a member of a list is a file that the preferred names or the endings speak of. -/
def isCandidate (nameOf : α → String) (isFile : α → Bool) (preferred endings : List String) (item : α) : Bool :=
  isFile item && (preferred.contains (nameOf item) || hasEnding (nameOf item) endings)

theorem findSome?_congr {β γ : Type} {first second : β → Option γ} {items : List β}
    (h : ∀ item ∈ items, first item = second item) : items.findSome? first = items.findSome? second := by
  induction items with
  | nil => rfl
  | cons item items ih =>
    obtain ⟨hitem, hitems⟩ := List.forall_mem_cons.mp h
    rw [List.findSome?_cons, List.findSome?_cons, hitem, ih hitems]

/-- Only candidates are selected from. -/
theorem select_filter : select nameOf (listed.filter isFile) preferred endings =
    select nameOf (listed.filter (isCandidate nameOf isFile preferred endings)) preferred endings := by
  have hsearch : ∀ p : α → Bool, (∀ item, p item = true →
      (preferred.contains (nameOf item) || hasEnding (nameOf item) endings) = true) →
      (listed.filter isFile).find? p =
        (listed.filter (isCandidate nameOf isFile preferred endings)).find? p := by
    intro p hp
    rw [find?_files, find?_files]
    congr 1
    funext item
    cases hitem : p item with
    | false => rw [Bool.and_false, Bool.and_false]
    | true => rw [isCandidate, hp item hitem, Bool.and_true, Bool.and_true]
  have hnamed : (preferred.findSome? fun name => (listed.filter isFile).find? fun file => nameOf file == name) =
      preferred.findSome? fun name =>
        (listed.filter (isCandidate nameOf isFile preferred endings)).find? fun file => nameOf file == name := by
    refine findSome?_congr fun name hname => hsearch _ fun item hitem => ?_
    rw [eq_of_beq hitem, List.contains_iff_mem.mpr hname, Bool.true_or]
  rw [select, select, hnamed, hsearch _ fun item hitem => by rw [hitem, Bool.or_true]]

/-! ## The name that is selected -/

/-- The name of what is found by preferred names is the first that a file has. -/
theorem name_findSome? (files : List α) (preferred : List String) :
    (preferred.findSome? fun name => files.find? fun file => nameOf file == name).map nameOf =
      preferred.find? fun name => files.any fun file => nameOf file == name := by
  induction preferred with
  | nil => rfl
  | cons name others ih =>
    rw [List.findSome?_cons, List.find?_cons]
    cases hfound : files.find? fun file => nameOf file == name with
    | none =>
      rw [List.any_eq_false.mpr (List.find?_eq_none.mp hfound)]
      exact ih
    | some file =>
      have hname := List.find?_some hfound
      rw [List.any_eq_true.mpr ⟨file, List.mem_of_find?_eq_some hfound, hname⟩]
      exact congrArg some (eq_of_beq hname)

/-- Where a file has a preferred name, the name that is selected is the first that a file has. -/
theorem name_select {files : List α} (hnamed : ∃ file ∈ files, nameOf file ∈ preferred) :
    (select nameOf files preferred endings).map nameOf =
      preferred.find? fun name => files.any fun file => nameOf file == name := by
  rw [← name_findSome?, select]
  cases hfound : preferred.findSome? fun name => files.find? fun file => nameOf file == name with
  | some file => rfl
  | none =>
    obtain ⟨file, hfile, hname⟩ := hnamed
    have hpassed := List.find?_eq_none.mp (List.findSome?_eq_none_iff.mp hfound _ hname) file hfile
    exact absurd (beq_self_eq_true _) hpassed

/-- Where a file has a preferred name, the order of the files does not matter for the name that is selected. -/
theorem name_select_perm {others : List α} (hperm : listed.Perm others)
    (hnamed : ∃ file ∈ listed, isFile file = true ∧ nameOf file ∈ preferred) :
    (select nameOf (listed.filter isFile) preferred endings).map nameOf =
      (select nameOf (others.filter isFile) preferred endings).map nameOf := by
  obtain ⟨file, hmem, hfile, hname⟩ := hnamed
  have hfiles := hperm.filter isFile
  have hlisted := List.mem_filter.mpr ⟨hmem, hfile⟩
  rw [name_select ⟨file, hlisted, hname⟩, name_select ⟨file, hfiles.mem_iff.mp hlisted, hname⟩]
  congr 1
  funext name
  exact hfiles.any_eq

/-! ## Listings and uploaded folders -/

/-- A choice from lists, some of whose members are files, goes by priority and then by position. -/
structure IsLexicographic (nameOf : α → String) (isFile : α → Bool) (choose : List α → Option α)
    (preferred endings : List String) : Prop where
  /-- What is chosen is what is to be selected. -/
  selected : ∀ listed result, choose listed = result ↔ Selected nameOf isFile listed preferred endings result
  /-- Members that are no candidates may stand anywhere or be left out. -/
  unmoved : ∀ listed others,
    listed.filter (isCandidate nameOf isFile preferred endings) =
      others.filter (isCandidate nameOf isFile preferred endings) → choose listed = choose others
  /-- Where a file has a preferred name, the order does not matter for the name that is chosen. -/
  permuted : ∀ listed others, listed.Perm others →
    (∃ file ∈ listed, isFile file = true ∧ nameOf file ∈ preferred) →
    (choose listed).map nameOf = (choose others).map nameOf

theorem isLexicographic_select :
    IsLexicographic nameOf isFile (fun listed => select nameOf (listed.filter isFile) preferred endings) preferred
      endings where
  selected _ _ := select_eq_iff
  unmoved listed others hsame := by
    rw [select_filter, hsame, ← select_filter]
  permuted _ _ := name_select_perm

/-- From a listing and from an uploaded folder, for all preferred names and endings, the file is selected that is first by
the index of its name among the preferred names and then by its position, or without a preferred name the first with a
fitting ending. Directories are never selected and all uploaded files count as files; members of a list that are no
candidates change nothing, wherever they stand; and where a file has a preferred name, no order of the list changes the
name that is selected. -/
theorem select_lexicographic (preferred endings : List String) :
    IsLexicographic Entry.name Entry.isFile (fun entries => selectFile entries preferred endings) preferred endings ∧
    IsLexicographic Component.UploadedFile.name (fun _ => true)
      (fun files => Component.selectUploaded files preferred endings) preferred endings := by
  refine ⟨isLexicographic_select, ?_⟩
  have hall : (fun files => Component.selectUploaded files preferred endings) = fun files =>
      select Component.UploadedFile.name (files.filter fun _ => true) preferred endings := by
    funext files
    rw [Component.selectUploaded, List.filter_true]
  rw [hall]
  exact isLexicographic_select

/-- An entry of a listing, as far as a selection looks at it. -/
def entryNamed (kind : EntryKind) (name : String) : Entry := ⟨name, name, kind, none, none, none⟩

/-- A directory with the best name and a file that neither list speaks of change nothing, and a preferred name wins from
the end of the listing. -/
theorem select_lexicographic_of_page :
    let entries := [entryNamed .file "card.HTML", entryNamed .file "component.html", entryNamed .file "index.html"]
    let crowded := entryNamed .directory "index.html" :: entryNamed .file "notes.txt" :: entries
    selectFile crowded pageNames pageEndings = selectFile entries pageNames pageEndings ∧
      (selectFile entries pageNames pageEndings).map Entry.name =
        (selectFile entries.reverse pageNames pageEndings).map Entry.name ∧
      selectFile entries pageNames pageEndings = some (entryNamed .file "index.html") := by
  intro entries crowded
  have hlexicographic := (select_lexicographic pageNames pageEndings).1
  refine ⟨hlexicographic.unmoved crowded entries (by decide), ?_, by decide⟩
  exact hlexicographic.permuted entries entries.reverse (List.reverse_perm entries).symm
    ⟨entryNamed .file "index.html", by decide, by decide, by decide⟩

end Showcase.Listing
