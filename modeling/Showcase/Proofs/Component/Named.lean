import Showcase.Component.Upload
import Showcase.Proofs.Text.LetterCase
import Showcase.Proofs.Variables.Merge

/-!
# Sources by name

Whether a file of an uploaded folder is a component source is a matter of its name. A test is told by the four letters
wherever they stand, and not only where they are a part of the name between dots; so a source like `Latest.tsx` counts as a
test, and a folder with no other source as one without components.
-/

namespace Showcase

/-! ## Parts of a name -/

namespace Text

variable {separator : Char} {word s : List Char} {pieces : List (List Char)}

/-- A word without the separator that stands in two texts with a separator between them stands in one of the texts. -/
theorem infix_append_cons_iff {first second : List Char} (hne : word ≠ []) (hword : separator ∉ word) :
    word <:+: first ++ separator :: second ↔ word <:+: first ∨ word <:+: second := by
  constructor
  · intro h
    rcases infix_append_cases h with hin | hbehind | ⟨front, back, rfl, -, hback, -, hbegins⟩
    · exact .inl hin
    · refine .inr ((List.infix_cons_iff.mp hbehind).resolve_left fun hbegins => ?_)
      obtain ⟨c, rest, rfl⟩ := List.exists_cons_of_ne_nil hne
      obtain ⟨rfl, -⟩ := List.cons_prefix_cons.mp hbegins
      exact hword List.mem_cons_self
    · obtain ⟨c, rest, rfl⟩ := List.exists_cons_of_ne_nil hback
      obtain ⟨rfl, -⟩ := List.cons_prefix_cons.mp hbegins
      exact absurd (List.mem_append_right front List.mem_cons_self) hword
  · rintro (hin | hin)
    · exact List.infix_append_of_infix_left hin
    · exact List.infix_append_of_infix_right (List.infix_cons hin)

/-- A word without the separator is in joined pieces exactly if it is in one of them. -/
theorem infix_intercalate_iff (hne : word ≠ []) (hword : separator ∉ word) :
    word <:+: List.intercalate [separator] pieces ↔ ∃ piece ∈ pieces, word <:+: piece := by
  induction pieces with
  | nil => simpa using hne
  | cons piece others ih =>
    by_cases hothers : others = []
    · simp [hothers]
    · rw [intercalate_cons_of_ne_nil hothers, List.exists_mem_cons_iff, ← ih]
      exact infix_append_cons_iff hne hword

/-- What begins a text before a separator begins the piece before it. -/
theorem prefix_append_cons_iff {piece rest : List Char} (hword : separator ∉ word) :
    word <+: piece ++ separator :: rest ↔ word <+: piece := by
  refine ⟨fun h => ?_, fun h => h.trans (List.prefix_append _ _)⟩
  rcases List.prefix_or_prefix_of_prefix h (List.prefix_append piece _) with hin | ⟨more, rfl⟩
  · exact hin
  · cases more with
    | nil => simp
    | cons c more =>
      obtain ⟨rfl, -⟩ := List.cons_prefix_cons.mp ((List.prefix_append_right_inj piece).mp h)
      exact absurd (List.mem_append_right piece List.mem_cons_self) hword

/-- What begins with a separator begins at the one behind a piece without separators, or later. -/
theorem cons_infix_append_cons_iff {piece rest : List Char} (hpiece : separator ∉ piece) :
    separator :: word <:+: piece ++ separator :: rest ↔ word <+: rest ∨ separator :: word <:+: rest := by
  constructor
  · intro h
    rcases infix_append_cases h with hin | hbehind | ⟨front, back, hsplit, hfront, -, hsuffix, -⟩
    · exact absurd (hin.subset List.mem_cons_self) hpiece
    · exact (List.infix_cons_iff.mp hbehind).imp_left fun hbegins => (List.cons_prefix_cons.mp hbegins).2
    · obtain ⟨c, more, rfl⟩ := List.exists_cons_of_ne_nil hfront
      obtain ⟨rfl, -⟩ := List.cons.inj hsplit
      exact absurd (hsuffix.subset List.mem_cons_self) hpiece
  · rintro (hbegins | hlater)
    · exact List.infix_append_of_infix_right (List.cons_prefix_cons.mpr ⟨rfl, hbegins⟩).isInfix
    · exact List.infix_append_of_infix_right (List.infix_cons hlater)

/-- Behind a separator a word begins one of the pieces but the first. -/
theorem cons_infix_intercalate_iff (hword : separator ∉ word) (hpieces : ∀ piece ∈ pieces, separator ∉ piece) :
    separator :: word <:+: List.intercalate [separator] pieces ↔ ∃ piece ∈ pieces.tail, word <+: piece := by
  induction pieces with
  | nil => simp
  | cons piece others ih =>
    obtain ⟨hpiece, hothers⟩ := List.forall_mem_cons.mp hpieces
    cases others with
    | nil => simpa using fun h : separator :: word <:+: piece => hpiece (h.subset List.mem_cons_self)
    | cons next others =>
      have hnext : word <+: List.intercalate [separator] (next :: others) ↔ word <+: next := by
        cases others with
        | nil => rw [List.intercalate_singleton]
        | cons _ _ => rw [intercalate_cons_of_ne_nil (List.cons_ne_nil _ _), prefix_append_cons_iff hword]
      rw [intercalate_cons_of_ne_nil (List.cons_ne_nil next others), cons_infix_append_cons_iff hpiece, hnext, ih hothers,
        List.tail_cons, List.tail_cons, List.exists_mem_cons_iff]

/-- A part is no larger for an ending that begins with a separator, if only its own first character may be one. -/
theorem infix_append_ending_iff {part ending : List Char} (hending : ending.head? = some separator)
    (hpart : separator ∉ part.tail) (habsent : ¬part <:+: ending) : part <:+: s ++ ending ↔ part <:+: s := by
  refine ⟨fun h => ?_, List.infix_append_of_infix_left⟩
  rcases infix_append_cases h with hin | hin | ⟨first, second, rfl, hfirst, hsecond, -, hbegins⟩
  · exact hin
  · exact absurd hin habsent
  · obtain ⟨c, first, rfl⟩ := List.exists_cons_of_ne_nil hfirst
    obtain ⟨d, second, rfl⟩ := List.exists_cons_of_ne_nil hsecond
    obtain ⟨rest, rfl⟩ := List.head?_eq_some_iff.mp hending
    obtain ⟨rfl, -⟩ := List.cons_prefix_cons.mp hbegins
    exact absurd (List.mem_append_right first List.mem_cons_self) hpart

end Text

/-! ## Endings of names -/

namespace Listing

open Text

/-- Texts of which neither ends with the other. -/
def areApart (first second : String) : Bool := !endsWith first second && !endsWith second first

theorem endsWith_iff {name ending : String} : endsWith name ending = true ↔ ending.toList <:+ name.toList := by
  rw [endsWith, List.isSuffixOf_iff_suffix]

/-- A name has one of two endings that are apart. -/
theorem endsWith_of_areApart {name first second : String} (hapart : areApart first second = true)
    (h : endsWith name first = true) : endsWith name second = false := by
  rw [← Bool.not_eq_true, endsWith_iff]
  intro hsecond
  simp only [areApart, Bool.and_eq_true, Bool.not_eq_true', ← Bool.not_eq_true, endsWith_iff] at hapart
  exact (List.suffix_or_suffix_of_suffix (endsWith_iff.mp h) hsecond).elim hapart.2 hapart.1

/-- A small ending is an ending in lower case too. -/
theorem endsWith_lowercase {name ending : String} (hsmall : ∀ c ∈ ending.toList, c.toNat < 128 ∧ isCapital c = false)
    (h : endsWith name ending = true) : endsWith (lowercase name) ending = true := by
  obtain ⟨stem, hname⟩ := endsWith_iff.mp h
  obtain ⟨small, hlower⟩ := exists_lower_append hsmall stem
  rw [endsWith_iff, lowercase, String.toList_ofList, ← hname, hlower]
  exact List.suffix_append small _

/-- Nothing is selected where no file has a fitting ending and the preferred names have one. -/
theorem select_eq_none {α : Type} {nameOf : α → String} {files : List α} {preferred endings : List String}
    (hpreferred : ∀ name ∈ preferred, hasEnding name endings = true)
    (hnone : ∀ file ∈ files, hasEnding (nameOf file) endings = false) : select nameOf files preferred endings = none := by
  have hunnamed : (preferred.findSome? fun name => files.find? fun file => nameOf file == name) = none := by
    rw [List.findSome?_eq_none_iff]
    intro name hname
    rw [List.find?_eq_none]
    intro file hfile hsame
    have hfits := hpreferred name hname
    rw [← beq_iff_eq.mp hsame, hnone file hfile] at hfits
    cases hfits
  rw [select, hunnamed, List.find?_eq_none.mpr fun file hfile => by simp [hnone file hfile]]

theorem endsWith_append (stem ending : String) : endsWith (stem ++ ending) ending = true := by
  rw [endsWith_iff, String.toList_append]
  exact List.suffix_append _ _

theorem withoutSourceEnding_append {ending : String} (hending : ending ∈ sourceEndings) (stem : String) :
    withoutSourceEnding (stem ++ ending) = stem := by
  have hfind : sourceEndings.find? (endsWith (stem ++ ending)) = some ending := by
    rcases List.mem_cons.mp hending with rfl | hlast
    · exact List.find?_cons_of_pos (endsWith_append stem ".tsx")
    · obtain rfl := List.mem_singleton.mp hlast
      have hother : endsWith (stem ++ ".jsx") ".tsx" = false :=
        endsWith_of_areApart (by decide : areApart ".jsx" ".tsx" = true) (endsWith_append stem ".jsx")
      rw [sourceEndings, List.find?_cons_of_neg (by simp [hother]), List.find?_cons_of_pos (endsWith_append stem ".jsx")]
  rw [withoutSourceEnding, hfind]
  change String.ofList ((stem ++ ending).toList.take ((stem ++ ending).length - ending.length)) = stem
  rw [String.length_append, Nat.add_sub_cancel, String.toList_append, ← String.length_toList, List.take_left,
    String.ofList_toList]

end Listing

/-! ## Sources -/

namespace Component

open Listing

/-- A source is passed over exactly if a part of its name holds the word for tests, if a part behind a dot begins with the word
for specifications, or if it starts a program. -/
theorem isSourceName_eq_false_iff {ending : String} (hending : ending ∈ sourceEndings) (stem : String) :
    isSourceName (stem ++ ending) = false ↔
      (∃ part ∈ Text.splitAtChar '.' stem.toList, "test".toList <:+: part) ∨
      (∃ part ∈ (Text.splitAtChar '.' stem.toList).tail, "spec".toList <+: part) ∨ stem = "App" ∨ stem = "main" := by
  -- no word that is looked for reaches into the ending, as that begins with a dot
  have hhead : ending.toList.head? = some '.' ∧ ¬"test".toList <:+: ending.toList ∧ ¬".spec".toList <:+: ending.toList := by
    revert ending
    decide
  have hsource : endsWithAny (stem ++ ending) sourceEndings = true :=
    List.any_eq_true.mpr ⟨ending, hending, endsWith_append stem ending⟩
  have htest : contains (stem ++ ending) "test" = true ↔ ∃ part ∈ Text.splitAtChar '.' stem.toList, "test".toList <:+: part := by
    rw [contains, Text.occursIn_iff, String.toList_append, Text.infix_append_ending_iff hhead.1 (by decide) hhead.2.1,
      ← Text.infix_intercalate_iff (by decide) (by decide : '.' ∉ "test".toList), Text.intercalate_splitAtChar]
  have hspec : contains (stem ++ ending) ".spec" = true ↔
      ∃ part ∈ (Text.splitAtChar '.' stem.toList).tail, "spec".toList <+: part := by
    rw [contains, Text.occursIn_iff, String.toList_append, Text.infix_append_ending_iff hhead.1 (by decide) hhead.2.2,
      ← Text.cons_infix_intercalate_iff (by decide) fun piece hpiece => Text.not_mem_piece hpiece, Text.intercalate_splitAtChar]
    rfl
  have hentry : entryPointNames.contains (stem ++ ending) = true ↔ stem = "App" ∨ stem = "main" := by
    rw [List.contains_eq_mem, decide_eq_true_iff]
    constructor
    · intro h
      have hstem : ∀ known ∈ entryPointNames, withoutSourceEnding known = "App" ∨ withoutSourceEnding known = "main" := by
        decide
      simpa [withoutSourceEnding_append hending] using hstem _ h
    · rintro (rfl | rfl)
      · revert ending
        decide
      · revert ending
        decide
  rw [← htest, ← hspec, ← hentry, isSourceName, hsource, Bool.true_and]
  simp only [Bool.and_eq_false_iff, Bool.not_eq_false', or_assoc]

/-! ## Folders with one source -/

/-- The endings of sources are apart from those of style sheets and of pages, and the former two kinds from each other. -/
theorem endings_apart : (∀ ending ∈ sourceEndings, ∀ other ∈ styleEndings ++ pageEndings, areApart ending other = true) ∧
    ∀ ending ∈ styleEndings, ∀ other ∈ pageEndings, areApart ending other = true := by
  decide

theorem hasEnding_eq_false {name ending : String} {endings : List String} (h : endsWith (lowercase name) ending = true)
    (hapart : ∀ other ∈ endings, areApart ending other = true) : hasEnding name endings = false := by
  rw [hasEnding, endsWithAny, List.any_eq_false]
  intro other hother
  simp [endsWith_of_areApart (hapart other hother) h]

/-- The only source is the main component. -/
theorem mainSource?_singleton (main : UploadedFile) : mainSource? [main] = some main := by
  unfold mainSource?
  split
  · rename_i file hfile
    obtain ⟨name, -, hfound⟩ := List.exists_of_findSome?_eq_some hfile
    rw [List.mem_singleton.mp (List.mem_of_find?_eq_some hfound)]
  · rfl

section

variable {before after : List UploadedFile} {main : UploadedFile} {stem ending : String}

theorem small_of_mem_sourceEndings (hending : ending ∈ sourceEndings) :
    ∀ c ∈ ending.toList, c.toNat < 128 ∧ Text.isCapital c = false := by
  refine Text.forall_mem_of_all ?_
  revert ending
  decide

/-- A style sheet is no page and no source. -/
theorem of_isStyleName {name : String} (h : isStyleName name = true) :
    hasEnding name pageEndings = false ∧ isSourceName name = false := by
  have hstyle : endsWith (lowercase name) ".css" = true := by
    simpa [isStyleName, hasEnding, endsWithAny, styleEndings] using h
  refine ⟨hasEnding_eq_false hstyle (endings_apart.2 ".css" List.mem_cons_self), ?_⟩
  have hsource : endsWithAny name sourceEndings = false := by
    rw [endsWithAny, List.any_eq_false]
    intro ending hending hends
    have hlower := endsWith_lowercase (small_of_mem_sourceEndings hending) hends
    rw [endsWith_of_areApart (endings_apart.1 ending hending ".css" (by decide)) hlower] at hstyle
    cases hstyle
  rw [isSourceName, hsource, Bool.false_and, Bool.false_and, Bool.false_and]

/-- What is made of a folder with one file that has the ending of a source, and style sheets around it. -/
theorem ofUpload_of_styles (hname : main.name = stem ++ ending) (hending : ending ∈ sourceEndings)
    (hstyles : ∀ file ∈ before ++ after, isStyleName file.name = true) : ofUpload (before ++ main :: after) =
      if isSourceName main.name then ofSourceUpload main (before ++ after)
      else if (before ++ after).isEmpty then fail .parse "No component or CSS files found in the uploaded folder"
      else fail .parse "No React component files (.tsx or .jsx) found" := by
  have hlower : endsWith (lowercase main.name) ending = true :=
    endsWith_lowercase (small_of_mem_sourceEndings hending) (hname ▸ endsWith_append stem ending)
  have hapart := endings_apart.1 ending hending
  have hmain : hasEnding main.name pageEndings = false ∧ isStyleName main.name = false :=
    ⟨hasEnding_eq_false hlower fun other hother => hapart other (List.mem_append_right styleEndings hother),
      hasEnding_eq_false hlower fun other hother => hapart other (List.mem_append_left pageEndings hother)⟩
  -- there is no page in the folder, and the sheets are what stands around the source
  have hpage : selectUploaded (before ++ main :: after) pageNames pageEndings = none := by
    refine select_eq_none (by decide) fun file hfile => ?_
    rcases List.mem_cons.mp (List.perm_middle.mem_iff.mp hfile) with rfl | hother
    · exact hmain.1
    · exact (of_isStyleName (hstyles file hother)).1
  obtain ⟨hbefore, hafter⟩ := List.forall_mem_append.mp hstyles
  have hsheets : (before ++ main :: after).filter (fun file => isStyleName file.name) = before ++ after := by
    rw [List.filter_append, List.filter_cons_of_neg (by simp [hmain.2]), List.filter_eq_self.mpr hbefore,
      List.filter_eq_self.mpr hafter]
  have hnone : ∀ {files : List UploadedFile}, (∀ file ∈ files, isStyleName file.name = true) →
      files.filter (fun file => isSourceName file.name) = [] := by
    intro files hfiles
    rw [List.filter_eq_nil_iff]
    intro file hfile
    simp [(of_isStyleName (hfiles file hfile)).2]
  have hsources : (before ++ main :: after).filter (fun file => isSourceName file.name) =
      if isSourceName main.name then [main] else [] := by
    rw [List.filter_append, List.filter_cons, hnone hbefore, hnone hafter, List.nil_append]
  cases hsource : isSourceName main.name with
  | true => simp only [ofUpload, hpage, hsheets, hsources, hsource, mainSource?_singleton, if_true]
  | false =>
    simp only [ofUpload, hpage, hsheets, hsources, hsource, Bool.false_eq_true, if_false]
    rfl

theorem isSourceName_of_dotless (hending : ending ∈ sourceEndings) (hstem : '.' ∉ stem.toList)
    (hentry : stem ≠ "App" ∧ stem ≠ "main") :
    isSourceName (stem ++ ending) = false ↔ "test".toList <:+: stem.toList := by
  rw [isSourceName_eq_false_iff hending, Text.splitAtChar_of_not_mem hstem]
  simp [hentry]

/-- The component of a source: its name and content, and style sheets in their order. -/
def sourceComponent (name content : String) (labels : Bindings) (styles : List UploadedFile) : Component :=
  { name := name
    category := "hero"
    description := some ("React component: " ++ name)
    html := Jsx.template content name
    css := "\n\n".intercalate (styles.map UploadedFile.content)
    script := some content
    labels := labels
    thumbnail := none
    layout := .framework }

theorem ofSourceUpload_eq (hname : main.name = stem ++ ending) (hending : ending ∈ sourceEndings) {labels : Bindings}
    (hlabels : Variables.ofUpload main.content = .ok labels) (styles : List UploadedFile) :
    ofSourceUpload main styles = .ok (sourceComponent stem main.content labels styles) := by
  rw [ofSourceUpload, hlabels, hname, withoutSourceEnding_append hending]
  rfl

/-- A source is uploaded by its name, if the name without its ending has no dot in it and starts no program, and its content has
none of the three letters that have no place in lower case: together with style sheets, in any order, it becomes a component
exactly if its name does not hold the word for tests. The component has the name and the content of the source, and the style
sheets in their order. With the word in it the source is passed over, and the folder counts as one without components. What is
passed over of all sources are those with the word anywhere in their names, those with a part that begins with the word for
specifications behind a dot, and those that start a program. -/
theorem uploaded_by_name_iff (hname : main.name = stem ++ ending) (hending : ending ∈ sourceEndings)
    (hstem : '.' ∉ stem.toList) (hentry : stem ≠ "App" ∧ stem ≠ "main")
    (hcontent : ∀ c ∈ main.content.toList, Text.isStray c = false)
    (hstyles : ∀ file ∈ before ++ after, isStyleName file.name = true) :
    ((∃ component, ofUpload (before ++ main :: after) = .ok component) ↔ ¬"test".toList <:+: stem.toList) ∧
    (¬"test".toList <:+: stem.toList → ∃ labels, Variables.ofUpload main.content = .ok labels ∧
      ofUpload (before ++ main :: after) = .ok (sourceComponent stem main.content labels (before ++ after))) ∧
    ("test".toList <:+: stem.toList → ofUpload (before ++ main :: after) =
      if (before ++ after).isEmpty then fail .parse "No component or CSS files found in the uploaded folder"
      else fail .parse "No React component files (.tsx or .jsx) found") ∧
    ∀ name, ∀ other ∈ sourceEndings, (isSourceName (name ++ other) = false ↔
      (∃ part ∈ Text.splitAtChar '.' name.toList, "test".toList <:+: part) ∨
      (∃ part ∈ (Text.splitAtChar '.' name.toList).tail, "spec".toList <+: part) ∨ name = "App" ∨ name = "main") := by
  have hskipped := isSourceName_of_dotless hending hstem hentry
  have hfolder := ofUpload_of_styles hname hending hstyles
  obtain ⟨labels, hlabels⟩ := Variables.exists_ofUpload hcontent
  by_cases htest : "test".toList <:+: stem.toList
  · have hlost : ofUpload (before ++ main :: after) = if (before ++ after).isEmpty
        then fail .parse "No component or CSS files found in the uploaded folder"
        else fail .parse "No React component files (.tsx or .jsx) found" := by
      rw [hfolder, hname, hskipped.mpr htest, if_neg Bool.false_ne_true]
    refine ⟨iff_of_false ?_ (not_not_intro htest), fun hfree => absurd htest hfree, fun _ => hlost,
      fun name other hother => isSourceName_eq_false_iff hother name⟩
    rintro ⟨component, hcomponent⟩
    rw [hlost] at hcomponent
    split at hcomponent <;> cases hcomponent
  · have hsource : isSourceName (stem ++ ending) = true := by simpa using hskipped.not.mpr htest
    have hkept : ofUpload (before ++ main :: after) = .ok (sourceComponent stem main.content labels (before ++ after)) := by
      rw [hfolder, hname, hsource, if_pos rfl, ofSourceUpload_eq hname hending hlabels]
    exact ⟨iff_of_true ⟨_, hkept⟩ htest, fun _ => ⟨labels, hlabels, hkept⟩, fun hin => absurd hin htest,
      fun name other hother => isSourceName_eq_false_iff hother name⟩

end

/-- A card and the latest news, each with a style sheet before it and one behind it. -/
def card : UploadedFile := ⟨"src/Card.jsx", "export const Card = () => null;"⟩

def latest : UploadedFile := ⟨"Latest.tsx", "export const Latest = () => null;"⟩

def baseSheet : UploadedFile := ⟨"styles/base.css", "p \x7b\x7d"⟩

def wideSheet : UploadedFile := ⟨"wide.css", "a \x7b\x7d"⟩

/-- The card is uploaded with both style sheets, and the latest news is not. -/
theorem uploaded_by_name_of_card :
    (card.name = "Card" ++ ".jsx" ∧ '.' ∉ "Card".toList ∧ (∀ c ∈ card.content.toList, Text.isStray c = false) ∧
      ∀ file ∈ [baseSheet] ++ [wideSheet], isStyleName file.name = true) ∧
    (∃ component, ofUpload [baseSheet, card, wideSheet] = .ok component ∧ component.name = "Card" ∧
      component.script = some "export const Card = () => null;" ∧ component.css = "p \x7b\x7d\n\na \x7b\x7d") ∧
    ofUpload [baseSheet, latest, wideSheet] = fail .parse "No React component files (.tsx or .jsx) found" := by
  have hcontents : ∀ file ∈ [card, latest], file.content.toList.all (fun c => decide (Text.isStray c = false)) = true := by
    decide
  have hplain := fun file hfile => Text.forall_mem_of_all (hcontents file hfile)
  have hsheets : ∀ file ∈ [baseSheet] ++ [wideSheet], isStyleName file.name = true := by decide
  have hcard : card.name = "Card" ++ ".jsx" := by decide
  have hlatest : latest.name = "Latest" ++ ".tsx" := by decide
  obtain ⟨labels, -, hcomponent⟩ := (uploaded_by_name_iff hcard (by decide) (by decide) (by decide)
    (hplain card (by decide)) hsheets).2.1 (by decide)
  have hlost := (uploaded_by_name_iff hlatest (by decide) (by decide) (by decide)
    (hplain latest (by decide)) hsheets).2.2.1 (by decide)
  have hcss : "\n\n".intercalate (([baseSheet] ++ [wideSheet]).map UploadedFile.content) = "p \x7b\x7d\n\na \x7b\x7d" := by
    decide
  exact ⟨⟨hcard, by decide, hplain card (by decide), hsheets⟩, ⟨_, hcomponent, rfl, rfl, hcss⟩, hlost⟩

/-- Not every name of letters and digits can be uploaded: the latest news is taken for a test. -/
theorem not_uploaded_by_every_name : ¬∀ (main : UploadedFile) (stem : String),
    stem.toList.head?.any Text.isLetter = true → (∀ c ∈ stem.toList, Text.isLetter c = true ∨ Text.isDigit c = true) →
      stem ≠ "App" → stem ≠ "main" → main.name = stem ++ ".tsx" → (∀ c ∈ main.content.toList, c.toNat < 128) →
        ∃ component, ofUpload [main] = .ok component := by
  intro h
  obtain ⟨component, hcomponent⟩ := h latest "Latest" (by decide) (Text.forall_mem_of_all (by decide))
    (by decide) (by decide) (by decide) (Text.forall_mem_of_all (by decide))
  have hlost : ofUpload [latest] = fail .parse "No component or CSS files found in the uploaded folder" := by
    decide
  rw [hlost] at hcomponent
  cases hcomponent

end Component

end Showcase
