import Showcase.Proofs.Variables.Vocabulary
import Showcase.Variables.Content

/-!
# Variables of an upload

An upload has three kinds of variables: the properties of the first slide, the constants, and the words of the vocabulary.
They are entered into one table, and each kind has a rule of its own for a name that is known already. A property takes its
old place and changes the text; a constant and a word leave the table as it is. From these rules one reads off the whole
table: its names in their order and the text of each.
-/

namespace Showcase

/-! ## Tables -/

namespace Bindings

variable {bindings : Bindings} {name text other : String}

theorem get?_cons {entry : String × String} :
    get? (entry :: bindings) other = if other = entry.1 then some entry.2 else bindings.get? other := by
  rw [get?, List.lookup_cons]
  cases hother : other == entry.1 with
  | true => rw [if_pos (beq_iff_eq.mp hother)]
  | false => rw [if_neg (beq_eq_false_iff_ne.mp hother), get?]

theorem get?_concat {entry : String × String} : get? (bindings ++ [entry]) other =
    (bindings.get? other).or (if other = entry.1 then some entry.2 else none) := by
  rw [get?, List.lookup_append, ← get?, ← get?, get?_cons]
  rfl

theorem get?_put : (bindings.put name text).get? other = if other = name then some text else bindings.get? other := by
  induction bindings with
  | nil => rw [put, get?_cons]
  | cons entry others ih =>
    rw [put]
    split
    · rename_i hknown
      rw [get?_cons, get?_cons, hknown]
      split <;> rfl
    · rename_i hknown
      rw [get?_cons, get?_cons, ih]
      by_cases hother : other = entry.1
      · rw [if_pos hother, if_pos hother, if_neg fun hname => hknown (hother.symm.trans hname)]
      · rw [if_neg hother, if_neg hother]

theorem names_put : (bindings.put name text).names =
    if name ∈ bindings.names then bindings.names else bindings.names ++ [name] := by
  induction bindings with
  | nil => rfl
  | cons entry others ih =>
    rw [names, names] at ih
    rw [put, names, names]
    by_cases hknown : entry.1 = name
    · simp [hknown]
    · rw [if_neg hknown, List.map_cons, List.map_cons, ih]
      simp only [List.mem_cons, Ne.symm hknown, false_or]
      split <;> rfl

theorem get?_putNew : (bindings.putNew name text).get? other =
    (bindings.get? other).or (if other = name then some text else none) := by
  rw [putNew]
  by_cases hhas : bindings.has name = true
  · rw [if_pos hhas]
    split
    · rename_i hother
      obtain ⟨old, hold⟩ := Option.isSome_iff_exists.mp hhas
      rw [hother, hold, Option.some_or]
    · rw [Option.or_none]
  · rw [if_neg hhas, get?_concat]

theorem names_putNew : (bindings.putNew name text).names =
    if name ∈ bindings.names then bindings.names else bindings.names ++ [name] := by
  simp only [putNew, has_iff]
  split
  · rfl
  · simp [names]

theorem put_of_not_mem (h : name ∉ bindings.names) : bindings.put name text = bindings ++ [(name, text)] := by
  induction bindings with
  | nil => rfl
  | cons entry others ih =>
    rw [names, List.map_cons, List.mem_cons, not_or] at h
    rw [put, if_neg (Ne.symm h.1), ih h.2, List.cons_append]

theorem mem_put {entry : String × String} (h : entry ∈ bindings.put name text) : entry = (name, text) ∨ entry ∈ bindings := by
  induction bindings with
  | nil => exact .inl (List.mem_singleton.mp h)
  | cons known others ih =>
    rw [put] at h
    split at h
    · exact (List.mem_cons.mp h).imp_right (List.mem_cons_of_mem known)
    · rcases List.mem_cons.mp h with rfl | hlater
      · exact .inr List.mem_cons_self
      · exact (ih hlater).imp_right (List.mem_cons_of_mem known)

theorem putNew_of_mem (h : name ∈ bindings.names) : bindings.putNew name text = bindings := by
  rw [putNew, if_pos (has_iff.mpr h)]

theorem putNew_of_not_mem (h : name ∉ bindings.names) : bindings.putNew name text = bindings ++ [(name, text)] := by
  rw [putNew, if_neg fun hhas => h (has_iff.mp hhas)]

end Bindings

namespace Variables

/-- The table of a list of properties: each is entered, whatever was there. -/
def ofProperties (properties : List (String × String)) : Bindings :=
  properties.foldl (fun found entry => found.put entry.1 entry.2) []

/-- A table with constants, of which those are entered whose names are not known. -/
def withConstants (constants : List (String × String)) (table : Bindings) : Bindings :=
  constants.foldl (fun found entry => found.putNew entry.1 entry.2) table

theorem ofContent_eq (source : String) : ofContent source =
    withConstants (textConstants source.toList) (ofProperties (slideProperties source.toList)) := rfl

variable {properties constants : List (String × String)} {table : Bindings} {name : String}

theorem names_ofProperties (properties : List (String × String)) :
    (ofProperties properties).names = Template.firstOccurrences (properties.map Prod.fst) := by
  induction properties using List.reverseRecOn with
  | nil => rfl
  | append_singleton properties entry ih =>
    rw [ofProperties, List.foldl_append, List.foldl_cons, List.foldl_nil, ← ofProperties, Bindings.names_put, ih,
      List.map_append, List.map_singleton, Template.firstOccurrences_concat]

/-- Of the texts of a property the last one stands. -/
theorem get?_ofProperties : (ofProperties properties).get? name = properties.reverse.lookup name := by
  induction properties using List.reverseRecOn with
  | nil => rfl
  | append_singleton properties entry ih =>
    rw [ofProperties, List.foldl_append, List.foldl_cons, List.foldl_nil, ← ofProperties, Bindings.get?_put, ih,
      List.reverse_concat, ← Bindings.get?, ← Bindings.get?, Bindings.get?_cons]

theorem names_withConstants {names : List String} (htable : table.names = Template.firstOccurrences names) :
    (withConstants constants table).names = Template.firstOccurrences (names ++ constants.map Prod.fst) := by
  induction constants using List.reverseRecOn with
  | nil => rw [List.map_nil, List.append_nil, ← htable]; rfl
  | append_singleton constants entry ih =>
    rw [withConstants, List.foldl_append, List.foldl_cons, List.foldl_nil, ← withConstants, Bindings.names_putNew, ih,
      List.map_append, List.map_singleton, ← List.append_assoc, Template.firstOccurrences_concat]

/-- Of the texts of a constant the first one stands, and only if the table has none. -/
theorem get?_withConstants : (withConstants constants table).get? name = (table.get? name).or (constants.lookup name) := by
  induction constants using List.reverseRecOn with
  | nil => exact (Option.or_none).symm
  | append_singleton constants entry ih =>
    rw [withConstants, List.foldl_append, List.foldl_cons, List.foldl_nil, ← withConstants, Bindings.get?_putNew, ih,
      ← Bindings.get?, ← Bindings.get?, Bindings.get?_concat, Option.or_assoc]

/-! ## Entries of a table -/

theorem mem_ofProperties {entry : String × String} (h : entry ∈ ofProperties properties) : entry ∈ properties := by
  induction properties using List.reverseRecOn with
  | nil => cases h
  | append_singleton properties last ih =>
    rw [ofProperties, List.foldl_append, List.foldl_cons, List.foldl_nil, ← ofProperties] at h
    rcases Bindings.mem_put h with rfl | hbefore
    · exact List.mem_append_right _ List.mem_cons_self
    · exact List.mem_append_left _ (ih hbefore)

/-- Properties with different names are their own table. -/
theorem ofProperties_eq_self (h : (properties.map Prod.fst).Nodup) : ofProperties properties = properties := by
  induction properties using List.reverseRecOn with
  | nil => rfl
  | append_singleton properties last ih =>
    rw [List.map_append, List.map_singleton, List.nodup_append] at h
    obtain ⟨hbefore, -, happart⟩ := h
    rw [ofProperties, List.foldl_append, List.foldl_cons, List.foldl_nil, ← ofProperties, ih hbefore,
      Bindings.put_of_not_mem fun hmem => happart _ hmem _ List.mem_cons_self rfl]

/-- Constants are entered behind a table, some of them. -/
theorem exists_withConstants (constants : List (String × String)) (table : Bindings) :
    ∃ added, withConstants constants table = table ++ added ∧ added.Sublist constants := by
  induction constants using List.reverseRecOn with
  | nil => exact ⟨[], (List.append_nil _).symm, .slnil⟩
  | append_singleton constants last ih =>
    obtain ⟨added, htable, hadded⟩ := ih
    rw [withConstants, List.foldl_append, List.foldl_cons, List.foldl_nil, ← withConstants, Bindings.putNew]
    split
    · exact ⟨added, htable, hadded.trans (List.sublist_append_left constants [last])⟩
    · exact ⟨added ++ [last], by rw [htable, List.append_assoc], hadded.append (.refl [last])⟩

/-- Constants whose names are known are not entered. -/
theorem withConstants_eq_self (h : ∀ entry ∈ constants, entry.1 ∈ table.names) : withConstants constants table = table := by
  induction constants with
  | nil => rfl
  | cons entry others ih =>
    rw [withConstants, List.foldl_cons, Bindings.putNew_of_mem (h entry List.mem_cons_self), ← withConstants]
    exact ih fun other hother => h other (List.mem_cons_of_mem entry hother)

/-- Constants with different names that are not known are all entered. -/
theorem withConstants_eq_append (h : (table.names ++ constants.map Prod.fst).Nodup) :
    withConstants constants table = table ++ constants := by
  induction constants generalizing table with
  | nil => exact (List.append_nil table).symm
  | cons entry others ih =>
    have hnew : entry.1 ∉ table.names := fun hmem =>
      (List.nodup_append.mp h).2.2 _ hmem _ List.mem_cons_self rfl
    rw [withConstants, List.foldl_cons, Bindings.putNew_of_not_mem hnew, ← withConstants, ih, List.append_assoc]
    · rfl
    · simpa [Bindings.names] using h

/-! ## What an upload carries -/

/-- A table merged of properties and constants: their names, the properties before the constants and each name once in the
order of first occurrence; a property with the last of its texts, and a constant that is no property with the first. -/
structure Merges (properties constants : List (String × String)) (table : Bindings) : Prop where
  listsFirst : Template.ListsFirst (properties.map Prod.fst ++ constants.map Prod.fst) table.names
  property : ∀ name ∈ properties.map Prod.fst, table.get? name = properties.reverse.lookup name
  constant : ∀ name, name ∉ properties.map Prod.fst → table.get? name = constants.lookup name

theorem lookup_isSome_iff : (properties.reverse.lookup name).isSome = true ↔ name ∈ properties.map Prod.fst := by
  simp [List.mem_map]

theorem merges_ofContent (source : String) :
    Merges (slideProperties source.toList) (textConstants source.toList) (ofContent source) := by
  rw [ofContent_eq]
  refine ⟨?_, fun name hname => ?_, fun name hname => ?_⟩
  · rw [names_withConstants (names_ofProperties _)]
    exact Template.listsFirst_firstOccurrences _
  · obtain ⟨text, htext⟩ := Option.isSome_iff_exists.mp (lookup_isSome_iff.mpr hname)
    rw [get?_withConstants, get?_ofProperties, htext, Option.some_or]
  · rw [← lookup_isSome_iff, Option.not_isSome_iff_eq_none] at hname
    rw [get?_withConstants, get?_ofProperties, hname, Option.none_or]

/-- In a plain source no word goes astray. -/
theorem find?_isAstray {source : String} (hplain : ∀ c ∈ source.toList, Text.isStray c = false) :
    (Text.wordsOf source.toList).find? isAstray = none := by
  rw [List.find?_eq_none]
  intro word hword hastray
  exact (isAstray_iff.mp hastray).2 fun c hc => hplain c (Text.mem_of_mem_wordsOf hword hc)

theorem words_of_plain {source : String} (hplain : ∀ c ∈ source.toList, Text.isStray c = false) :
    words source = .ok (namesIn source.toList) := by
  rw [words_cases, find?_isAstray hplain]

/-- A plain upload has variables. -/
theorem exists_ofUpload {source : String} (hplain : ∀ c ∈ source.toList, Text.isStray c = false) :
    ∃ labels, ofUpload source = .ok labels := by
  rw [ofUpload, words_of_plain hplain, ofSource_cases, find?_isAstray hplain]
  split
  · exact ⟨_, rfl⟩
  · exact ⟨_, rfl⟩

/-- Without the dotted capital I, the dotless i and the long s an upload always has variables. If it carries no texts they
are those of any source. Otherwise they begin with the texts it carries, unchanged, and behind these stand the words of the
vocabulary that are no names among them, in the order of first occurrence and with their labels. The texts that it carries
are merged of the properties of the first slide and the constants. -/
theorem upload_extends_content {source : String} (hplain : ∀ c ∈ source.toList, Text.isStray c = false) :
    (ofContent source = [] → ofUpload source = ofSource source ∧
      ∃ labels, ofSource source = .ok labels ∧ IsNamedBy (namesIn source.toList) labels) ∧
    (ofContent source ≠ [] → ∃ names,
      ofUpload source = .ok (ofContent source ++ names.map fun name => (name, label name)) ∧
      Template.ListsFirst ((namesIn source.toList).filter (· ∉ (ofContent source).names)) names) ∧
    Merges (slideProperties source.toList) (textConstants source.toList) (ofContent source) := by
  have hnone := find?_isAstray hplain
  have hwords := words_of_plain hplain
  refine ⟨fun hempty => ⟨?_, _, ?_, isNamedBy_labelled _⟩, fun hne => ?_, merges_ofContent source⟩
  · simp [ofUpload, hempty]
  · rw [ofSource_cases, hnone]
  · have hfilled : (ofContent source).isEmpty = false := List.isEmpty_eq_false_iff.mpr hne
    have hfilter : (namesIn source.toList).filter (· ∉ (ofContent source).names) =
        (namesIn source.toList).filter fun name => !(ofContent source).has name :=
      List.filter_congr fun name _ => by simp [← Bindings.has_iff]
    refine ⟨_, ?_, Template.listsFirst_firstOccurrences _⟩
    rw [ofUpload, hfilled, hwords, hfilter, ← Template.foldl_putNew_label]
    rfl

/-- An upload in which a property stands twice and a constant has its name, and another constant stands twice. -/
def tagline : String :=
  "const slides = [\x7b id: 1, title: 'a', title: 'b' \x7d];\nconst title = 'c';\nconst text = 'd';\nconst text = 'e';\nLABEL Text"

/-- The last text of the property and the first one of the other constant stand, and only one word is added to them. -/
theorem upload_extends_tagline : (∀ c ∈ tagline.toList, Text.isStray c = false) ∧
    ofContent tagline = [("title", "b"), ("text", "d")] ∧
    ∃ names, ofUpload tagline = .ok ([("title", "b"), ("text", "d")] ++ names.map fun name => (name, label name)) ∧
      Template.ListsFirst ["label"] names := by
  have hplain : ∀ c ∈ tagline.toList, Text.isStray c = false := Text.forall_mem_of_all (by decide +kernel)
  have hcarried : ofContent tagline = [("title", "b"), ("text", "d")] := by decide +kernel
  obtain ⟨names, hupload, hlists⟩ := (upload_extends_content hplain).2.1 (by rw [hcarried]; decide)
  rw [hcarried] at hupload hlists
  have hnames : (namesIn tagline.toList).filter (· ∉ Bindings.names [("title", "b"), ("text", "d")]) = ["label"] := by
    decide +kernel
  rw [hnames] at hlists
  exact ⟨hplain, hcarried, names, hupload, hlists⟩

end Variables

end Showcase
