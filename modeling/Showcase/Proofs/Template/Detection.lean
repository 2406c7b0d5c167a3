import Showcase.Proofs.Template.Outline
import Showcase.Proofs.Text.Stretch

/-!
# Variables of a template

What a template asks for and which variables are detected in it are read off the template one by one, by two folds over
the same names. Both give every name once, in the order of first occurrence, so no placeholder is without a variable.
-/

namespace Showcase

/-! ## Tables -/

theorem Bindings.has_iff {bindings : Bindings} {name : String} :
    bindings.has name = true ↔ name ∈ bindings.names := by
  simp [has, get?, names]

/-- A value that is given leaves every name bound. -/
theorem Bindings.has_put {bindings : Bindings} {name : String} (h : bindings.has name = true) (given text : String) :
    (bindings.put given text).has name = true := by
  rw [has_iff] at h ⊢
  induction bindings with
  | nil => cases h
  | cons entry others ih =>
    simp only [names, List.map_cons, List.mem_cons] at h
    unfold put
    split
    · rename_i hsame
      simpa [names, hsame] using h
    · rcases h with hfirst | hlater
      · simp [names, hfirst]
      · exact List.mem_cons_of_mem _ (ih hlater)

namespace Template

/-! ## First occurrences -/

/-- A list has the entries of another, each once, in the order of their first occurrence there. -/
structure ListsFirst (names found : List String) : Prop where
  mem_iff : ∀ name, name ∈ found ↔ name ∈ names
  nodup : found.Nodup
  ordered : found.Pairwise fun first second => names.idxOf first < names.idxOf second

theorem firstOccurrences_concat (names : List String) (name : String) :
    firstOccurrences (names ++ [name]) =
      if name ∈ firstOccurrences names then firstOccurrences names else firstOccurrences names ++ [name] := by
  simp [firstOccurrences]

theorem listsFirst_firstOccurrences (names : List String) : ListsFirst names (firstOccurrences names) := by
  induction names using List.reverseRecOn with
  | nil => exact ⟨fun _ => Iff.rfl, List.nodup_nil, .nil⟩
  | append_singleton names name ih =>
    -- a name that was there already keeps its place
    have hordered : (firstOccurrences names).Pairwise fun first second =>
        (names ++ [name]).idxOf first < (names ++ [name]).idxOf second := by
      refine ih.ordered.imp_of_mem fun hfirst hsecond h => ?_
      rwa [List.idxOf_append_of_mem ((ih.mem_iff _).mp hfirst), List.idxOf_append_of_mem ((ih.mem_iff _).mp hsecond)]
    rw [firstOccurrences_concat]
    split
    · rename_i hseen
      refine ⟨fun other => ?_, ih.nodup, hordered⟩
      rw [ih.mem_iff, List.mem_append, List.mem_singleton]
      exact ⟨.inl, fun h => h.elim id fun hsame => hsame ▸ (ih.mem_iff name).mp hseen⟩
    · rename_i hnew
      have hlater : name ∉ names := fun h => hnew ((ih.mem_iff name).mpr h)
      refine ⟨fun other => by simp [ih.mem_iff], ?_, ?_⟩
      · exact List.nodup_append.mpr ⟨ih.nodup, List.pairwise_singleton _ name, by
          rintro other hother _ hlast rfl
          exact hnew (List.mem_singleton.mp hlast ▸ hother)⟩
      · refine List.pairwise_append.mpr ⟨hordered, List.pairwise_singleton _ _, fun other hother last hlast => ?_⟩
        obtain rfl := List.mem_singleton.mp hlast
        have hmem := (ih.mem_iff other).mp hother
        rw [List.idxOf_append_of_mem hmem, List.idxOf_append_of_notMem hlater, List.idxOf_cons_self]
        exact Nat.lt_of_lt_of_le (List.idxOf_lt_length_of_mem hmem) (Nat.le_add_right _ _)

/-! ## Outer blanks -/

theorem pieces_append_left {lead : List Char} (hlead : '\x7b' ∉ lead) (s : List Char) :
    pieces (lead ++ s) = lead.map .letter ++ pieces s := by
  induction lead with
  | nil => rfl
  | cons c lead ih =>
    obtain ⟨hc, hlead⟩ := not_or.mp (List.mem_cons.not.mp hlead)
    have hletter : ¬Opens (c :: (lead ++ s)) := by
      rintro ⟨body, rest, -, hopens⟩
      exact hc (List.cons.inj hopens).1.symm
    rw [List.cons_append, pieces_letter hletter, ih hlead, List.map_cons, List.cons_append]

/-- A placeholder ends with closing braces, so it begins nowhere anew when none are added. -/
theorem opens_of_append {s trail : List Char} (htrail : '\x7d' ∉ trail) (h : Opens (s ++ trail)) : Opens s := by
  obtain ⟨body, rest, hbody, hsplit⟩ := h
  have hends : s ++ trail = ('\x7b' :: '\x7b' :: body ++ ['\x7d']) ++ '\x7d' :: rest := by simp [hsplit]
  rcases List.append_eq_append_iff.mp hends with ⟨later, -, hlater⟩ | ⟨later, hs, hlater⟩
  · exact absurd (hlater ▸ List.mem_append_right later List.mem_cons_self) htrail
  · cases later with
    | nil =>
      rw [List.nil_append] at hlater
      exact absurd (hlater ▸ List.mem_cons_self) htrail
    | cons c later =>
      obtain rfl := (List.cons.inj hlater).1
      exact ⟨body, later, hbody, by simp [hs]⟩

theorem IsReading.append_letters {division : List Piece} {trail : List Char} (htrail : '\x7d' ∉ trail)
    (h : IsReading division) : IsReading (division ++ trail.map .letter) := by
  induction h with
  | nil =>
    induction trail with
    | nil => exact .nil
    | cons c trail ih =>
      refine .letter ?_ (ih fun hclosing => htrail (List.mem_cons_of_mem c hclosing))
      rintro ⟨body, rest, -, hopens⟩
      rw [written_letters] at hopens
      exact htrail (hopens ▸ by simp)
  | @letter c later hfree _ ih =>
    refine .letter ?_ ih
    change ¬Opens (c :: written (later ++ trail.map .letter))
    rw [written_append, written_letters, ← List.cons_append]
    exact fun hopens => hfree (opens_of_append htrail hopens)
  | placeholder hbody _ ih => exact .placeholder hbody ih

/-- Blanks at the ends of a template add no names. -/
theorem occurringNames_trim (s : List Char) :
    occurringNames (String.ofList (Text.trim s)) = occurringNames (String.ofList s) := by
  obtain ⟨lead, trail, hsplit, hlead, htrail⟩ := Text.exists_stripWhile Text.isBlank s
  have hopening : '\x7b' ∉ lead := fun hc => absurd (hlead _ hc) (by decide)
  have hclosing : '\x7d' ∉ trail := fun hc => absurd (htrail _ hc) (by decide)
  have hpieces : pieces s = lead.map .letter ++ (pieces (Text.trim s) ++ trail.map .letter) := by
    obtain ⟨hreading, hwritten⟩ := isReading_pieces (Text.trim s)
    have hwhole : pieces (Text.trim s ++ trail) = pieces (Text.trim s) ++ trail.map .letter := by
      refine pieces_eq_iff.mpr ⟨hreading.append_letters hclosing, ?_⟩
      rw [written_append, hwritten, written_letters]
    rw [← hwhole, ← pieces_append_left hopening, ← List.append_assoc]
    exact congrArg pieces hsplit
  rw [Template.occurringNames_eq, Template.occurringNames_eq, String.toList_ofList, String.toList_ofList, hpieces,
    List.filterMap_append, List.filterMap_append, filterMap_name_letters, filterMap_name_letters, List.nil_append,
    List.append_nil]

/-! ## Names and labels -/

/-- The names that a template asks for are those of its slots, without blank ones. -/
theorem Outlines.occurringNames_eq {html : String} {slots : List Slot} {last : List Char}
    (h : Outlines html.toList slots last) :
    occurringNames html = (slots.map fun slot => nameOf slot.body).filter (· ≠ "") := by
  -- the letters of the stretches have no names, and each slot has one or is blank
  rw [Template.occurringNames_eq, h.pieces_eq, List.filterMap_append, filterMap_name_letters, List.append_nil]
  clear h
  induction slots with
  | nil => rfl
  | cons slot slots ih =>
    rw [List.flatMap_cons, List.filterMap_append, ih, List.filterMap_append, filterMap_name_letters, List.nil_append,
      List.map_cons]
    by_cases hblank : Text.trim slot.body = []
    · simp [Piece.name?, nameOf, hblank]
    · have hname : nameOf slot.body ≠ "" := fun h => hblank (String.ofList_injective h)
      simp [Piece.name?, hblank, hname]

theorem trimmed_nameOf (body : List Char) : trimmed (nameOf body) = nameOf body := by
  rw [trimmed, nameOf, String.toList_ofList, Text.trim, Text.trim, Text.stripWhile_idem]

theorem names_labelled (names : List String) :
    Bindings.names (names.map fun name => (name, label name)) = names := by
  rw [Bindings.names, List.map_map]
  exact List.map_id names

theorem has_append_labelled {bindings : Bindings} {names : List String} {name : String} :
    (bindings ++ names.map fun name => (name, label name)).has name = true ↔ bindings.has name = true ∨ name ∈ names := by
  rw [Bindings.has_iff, Bindings.has_iff, Bindings.names, List.map_append, List.mem_append]
  exact or_congr_right (by rw [← Bindings.names, names_labelled])

/-- Bindings to which labels are added go on with the names that they lack, each once in the order of first occurrence. -/
theorem foldl_putNew_label (bindings : Bindings) (names : List String) :
    names.foldl (fun found name => found.putNew name (label name)) bindings =
      bindings ++ (firstOccurrences (names.filter fun name => !bindings.has name)).map fun name => (name, label name) := by
  induction names using List.reverseRecOn with
  | nil => simp [firstOccurrences]
  | append_singleton names name ih =>
    rw [List.foldl_append, ih, List.foldl_cons, List.foldl_nil, Bindings.putNew, List.filter_append]
    simp only [has_append_labelled]
    by_cases hknown : bindings.has name = true
    · rw [if_pos (.inl hknown), List.filter_cons_of_neg (by simp [hknown]), List.filter_nil, List.append_nil]
    · rw [List.filter_cons_of_pos (by simp [hknown]), List.filter_nil, firstOccurrences_concat]
      simp only [hknown, Bool.false_eq_true, false_or]
      split
      · rfl
      · rw [List.map_append, List.append_assoc]
        rfl

theorem foldl_putNew_label_nil (names : List String) :
    names.foldl (fun (found : Bindings) name => found.putNew name (label name)) [] =
      (firstOccurrences names).map fun name => (name, label name) := by
  have hall : names.filter (fun name => !Bindings.has [] name) = names := List.filter_eq_self.mpr fun _ _ => rfl
  rw [foldl_putNew_label, List.nil_append, hall]

/-- What is detected in a template are its placeholders, each with the label of its name. -/
theorem labels_eq (html : String) : labels html = (placeholders html).map fun name => (name, label name) :=
  foldl_putNew_label_nil (occurringNames html)

theorem names_labels (html : String) : (labels html).names = placeholders html := by
  rw [labels_eq, names_labelled]

/-- Where every variable of a template is bound, nothing is open. -/
theorem unresolved_eq_nil {html : String} {bindings : Bindings}
    (h : ∀ name ∈ (labels html).names, bindings.has name = true) : unresolved html bindings = [] := by
  rw [names_labels] at h
  rw [unresolved, List.filter_eq_nil_iff]
  intro name hname
  simp [h name hname]

/-- The placeholders of a template are the names of its slots that are not blank, and with their labels they are its
variables. -/
structure Detects (html : String) (slots : List Slot) : Prop where
  listsFirst : ListsFirst ((slots.map fun slot => nameOf slot.body).filter (· ≠ "")) (placeholders html)
  trimmed : ∀ name ∈ placeholders html, trimmed name = name ∧ name ≠ ""
  names : (labels html).names = placeholders html
  labelled : labels html = (placeholders html).map fun name => (name, label name)
  resolved : unresolved html (labels html) = []

theorem Outlines.detects {html : String} {slots : List Slot} {last : List Char}
    (h : Outlines html.toList slots last) : Detects html slots := by
  have hlists : ListsFirst ((slots.map fun slot => nameOf slot.body).filter (· ≠ "")) (placeholders html) := by
    rw [← h.occurringNames_eq]
    exact listsFirst_firstOccurrences (occurringNames html)
  refine ⟨hlists, fun name hname => ?_, names_labels html, labels_eq html,
    unresolved_eq_nil fun name hname => Bindings.has_iff.mpr hname⟩
  obtain ⟨hslot, hfilled⟩ := List.mem_filter.mp ((hlists.mem_iff name).mp hname)
  obtain ⟨slot, -, rfl⟩ := List.mem_map.mp hslot
  exact ⟨trimmed_nameOf slot.body, of_decide_eq_true hfilled⟩

end Template

end Showcase
