import Showcase.Proofs.Variables.Merge
import Showcase.Proofs.Variables.Quotation

/-!
# The first slide

The properties of the first slide are found in three steps, each in what the step before captured: the array of slides, its
first entry with a number, and the properties in it. Where the texts of the properties hold no closing bracket and no closing
brace, the first two steps come to the properties of the entry, behind what may be left of its number.
-/

namespace Showcase.Variables

open Pattern

variable {before : Option Char} {stretch rest : List Char} {found : List (Nat × List Char)}

/-! ## The array -/

/-- An array of slides with these items. -/
def IsArray (stretch items : List Char) : Prop :=
  ∃ space typing gap, stretch = "const".toList ++ (space ++ ("slides".toList ++ (typing ++ '=' :: (gap ++ '[' ::
      (items ++ "];".toList))))) ∧
    ((∀ c ∈ space, Text.isBlank c = true) ∧ space ≠ []) ∧ '=' ∉ typing ∧ ∀ c ∈ gap, Text.isBlank c = true

theorem forall_outside_iff {c : Char} {s : List Char} : (∀ d ∈ s, outside (String.singleton c) d = true) ↔ c ∉ s := by
  simp only [outside, String.toList_singleton, List.contains_eq_mem, List.mem_singleton, Bool.not_eq_true',
    decide_eq_false_iff_not]
  exact ⟨fun h hmem => h c hmem rfl, fun h d hd hsame => h (hsame ▸ hd)⟩

theorem reads_slidesArray_iff : slidesArray.Reads before stretch rest found ↔
    ∃ items, IsArray stretch items ∧ found = [(1, items)] := by
  rw [slidesArray, show "=" = String.singleton '=' from rfl]
  simp only [reads_literal_cons, reads_someBlanks_cons, reads_many_cons, reads_char_cons, reads_blanks_cons,
    reads_capture_cons, reads_sequence_nil, forall_outside_iff]
  constructor
  · rintro ⟨_, rfl, space, _, rfl, hspace, _, rfl, typing, _, rfl, ⟨htyping, -⟩, _, rfl, gap, _, rfl, hgap, _, rfl,
      items, _, _, _, rfl, ⟨-, -, rfl⟩, ⟨_, rfl, rfl, rfl⟩, rfl⟩
    rw [List.append_nil]
    exact ⟨items, ⟨space, typing, gap, rfl, hspace, htyping, hgap⟩, rfl⟩
  · rintro ⟨items, ⟨space, typing, gap, rfl, hspace, htyping, hgap⟩, rfl⟩
    exact ⟨_, rfl, space, _, rfl, hspace, _, rfl, typing, _, rfl, ⟨htyping, Nat.zero_le _⟩, _, rfl, gap, _, rfl, hgap,
      _, rfl, items, _, [], [], rfl, ⟨fun _ _ => rfl, Nat.zero_le _, rfl⟩, ⟨[], (List.append_nil _).symm, rfl, rfl⟩, rfl⟩

/-- Nothing but the keyword begins an array. -/
theorem passes_slidesArray {passed : List Char} (h : 'c' ∉ passed) (text : List Char) : Passes slidesArray none passed text := by
  refine passes_of_not_mem (fun hreads => ?_) h none text
  obtain ⟨items, ⟨space, typing, gap, rfl, -⟩, -⟩ := reads_slidesArray_iff.mp hreads
  exact ⟨_, rfl⟩

/-- From one place on, what stands behind the opening of an array does not depend on how the array is read. -/
theorem IsArray.behind_opening {other items items' later : List Char} (h : IsArray stretch items) (h' : IsArray other items')
    (hsplit : stretch ++ rest = other ++ later) : items ++ ("];".toList ++ rest) = items' ++ ("];".toList ++ later) := by
  obtain ⟨space, typing, gap, rfl, ⟨hspace, -⟩, htyping, hgap⟩ := h
  obtain ⟨space', typing', gap', rfl, ⟨hspace', -⟩, htyping', hgap'⟩ := h'
  simp only [List.append_assoc, List.cons_append] at hsplit
  have hname : ∀ (s : List Char), ∀ c, ("slides".toList ++ s).head? = some c → Text.isBlank c = false :=
    fun s => Text.of_head_cons (by decide) _
  have hbracket : ∀ (s : List Char), ∀ c, ('[' :: s).head? = some c → Text.isBlank c = false := Text.of_head_cons (by decide)
  obtain ⟨-, hnames⟩ := Text.stretch_unique hspace hspace' (hname _) (hname _) (List.append_cancel_left hsplit)
  obtain ⟨-, hvalues⟩ := Text.append_cons_unique htyping htyping' (List.append_cancel_left hnames)
  obtain ⟨-, hitems⟩ := Text.stretch_unique hgap hgap' (hbracket _) (hbracket _) hvalues
  exact (List.cons.inj hitems).2

/-- What the properties of the first slide hold stands in the source as a property. -/
theorem exists_of_mem_slideProperties {source : List Char} {entry : String × String} (h : entry ∈ slideProperties source) :
    ∃ stretch name text, stretch <:+: source ∧ IsProperty stretch name text ∧
      entry = (String.ofList name, String.ofList text) := by
  unfold slideProperties at h
  split at h
  · cases h
  · rename_i array harray
    split at h
    · cases h
    · rename_i numbered hnumbered
      obtain ⟨ahead, stretch, behind, name, text, hsplit, hstretch, rfl⟩ := notes_textProperty.exists_of_mem h
      have hinside : stretch <:+: numbered.captured 1 := ⟨ahead, behind, by rw [hsplit, List.append_assoc]⟩
      exact ⟨stretch, name, text,
        (hinside.trans (captured_infix_of_find? hnumbered 1)).trans (captured_infix_of_find? harray 1), hstretch, rfl⟩

/-- No text that a source carries holds a quote. -/
theorem isQuote_of_mem_ofContent {source : String} {entry : String × String} (h : entry ∈ ofContent source) :
    ∀ c ∈ entry.2.toList, isQuote c = false := by
  rw [ofContent_eq] at h
  obtain ⟨added, htable, hadded⟩ := exists_withConstants (textConstants source.toList)
    (ofProperties (slideProperties source.toList))
  rw [htable] at h
  rcases List.mem_append.mp h with hproperty | hconstant
  · obtain ⟨stretch, name, text, -, hstretch, rfl⟩ := exists_of_mem_slideProperties (mem_ofProperties hproperty)
    rw [String.toList_ofList]
    exact notes_textProperty.isQuote_text hstretch
  · obtain ⟨_, stretch, _, name, text, -, hstretch, rfl⟩ :=
      notes_textConstant.exists_of_mem (List.mem_of_mem_filter (hadded.subset hconstant))
    rw [String.toList_ofList]
    exact notes_textConstant.isQuote_text hstretch

/-- So a text with a quote in it is never carried whole. -/
theorem Quotation.isPlain_of_mem {source : String} {quotation : Quotation} (h : quotation.entry ∈ ofContent source) :
    quotation.IsPlain := by
  intro c hc
  exact isQuote_of_mem_ofContent h c (by rwa [entry, String.toList_ofList])

/-! ## The entry -/

/-- What may follow a number: commas and blanks. -/
def isGap (c : Char) : Bool := c == ',' || Text.isBlank c

theorem isWord_of_isGap {c : Char} (hc : isGap c = true) : Text.isWord c = false := by
  rcases Bool.or_eq_true _ _ ▸ hc with hcomma | hblank
  · rw [beq_iff_eq.mp hcomma]
    decide
  · exact Text.eq_false_of_apart Text.isWord Text.isBlank Text.isBlank_of_isWord hblank

theorem isDecimal_of_isGap {c : Char} (hc : isGap c = true) : Text.isDecimal c = false := by
  rcases Bool.or_eq_true _ _ ▸ hc with hcomma | hblank
  · rw [beq_iff_eq.mp hcomma]
    decide
  · by_cases hascii : c.toNat < 128
    · revert hblank
      exact Text.of_ascii (p := fun c => Text.isBlank c = true → Text.isDecimal c = false) (by decide) hascii
    · rw [Text.isBlank, if_neg hascii] at hblank
      rw [Text.isDecimal, if_neg hascii]
      exact Text.CodePointSet.holds_of_apart (by decide) hblank

/-- What is read of a number and of what follows it ends where they end, at the latest. -/
theorem exists_left_over {number gap tail digits taken later : List Char} (hnumber : ∀ c ∈ number, Text.isDecimal c = true)
    (hdigits : ∀ c ∈ digits, Text.isDecimal c = true) (hgap : gap ≠ [] ∧ ∀ c ∈ gap, isGap c = true)
    (htaken : ∀ c ∈ taken, isGap c = true) (htail : ∀ c, tail.head? = some c → isGap c = false)
    (h : (number ++ gap) ++ tail = (digits ++ taken) ++ later) : ∃ left, later = left ++ tail ∧ left <:+ number ++ gap := by
  rcases List.append_eq_append_iff.mp h with ⟨extra, hread, hbehind⟩ | ⟨left, hall, hlater⟩
  · -- nothing behind them is read, since it would be a part of what follows the number
    have hheads : ∀ {s : List Char}, (∀ c, s.head? = some c → isGap c = true) → ∀ c, s.head? = some c → Text.isDecimal c = false :=
      fun hs c hc => isDecimal_of_isGap (hs c hc)
    obtain ⟨d, gap', rfl⟩ := List.exists_cons_of_ne_nil hgap.1
    rw [List.append_assoc] at hread
    obtain ⟨-, rfl⟩ := Text.stretch_unique hdigits hnumber
      (hheads fun c hc => htaken c (List.mem_of_head? hc)) (hheads (Text.of_head_cons (hgap.2 d List.mem_cons_self) _)) hread
    cases extra with
    | nil => exact ⟨[], hbehind.symm, List.nil_suffix⟩
    | cons e extra =>
      have he := htail e (by rw [hbehind]; rfl)
      rw [htaken e (List.mem_append_right (d :: gap') List.mem_cons_self)] at he
      cases he
  · exact ⟨left, hlater, ⟨_, hall.symm⟩⟩

/-- The part of the pattern for an entry before the capture. -/
def entryOpening : List Pattern :=
  [char '\x7b', blanks, literal "id:", blanks, many Text.isDecimal 1, optional (char ','), blanks]

theorem exists_of_reads_entryOpening (h : (sequence entryOpening).Reads before stretch rest found) :
    ∃ inner space digits taken, stretch = '\x7b' :: (inner ++ ("id:".toList ++ (space ++ (digits ++ taken)))) ∧
      (∀ c ∈ inner, Text.isBlank c = true) ∧ (∀ c ∈ space, Text.isBlank c = true) ∧
      (digits ≠ [] ∧ ∀ c ∈ digits, Text.isDecimal c = true) ∧ (∀ c ∈ taken, isGap c = true) ∧ found = [] := by
  have hblank : ∀ {c : Char}, Text.isBlank c = true → isGap c = true := fun hc => by rw [isGap, hc, Bool.or_true]
  rw [entryOpening] at h
  simp only [reads_char_cons, reads_blanks_cons, reads_literal_cons, reads_many_cons, reads_optional_char_cons,
    reads_sequence_nil] at h
  obtain ⟨_, rfl, inner, _, rfl, hinner, _, rfl, space, _, rfl, hspace, digits, _, rfl, ⟨hdigits, hlength⟩, hbehind⟩ := h
  have hnumber : digits ≠ [] := List.ne_nil_of_length_pos hlength
  rcases hbehind with ⟨_, rfl, gap, _, rfl, hgap, rfl, rfl⟩ | ⟨gap, _, rfl, hgap, rfl, rfl⟩
  · refine ⟨inner, space, digits, ',' :: (gap ++ []), rfl, hinner, hspace, ⟨hnumber, hdigits⟩, ?_, rfl⟩
    rw [List.append_nil]
    exact List.forall_mem_cons.mpr ⟨by decide, fun c hc => hblank (hgap c hc)⟩
  · refine ⟨inner, space, digits, gap ++ [], rfl, hinner, hspace, ⟨hnumber, hdigits⟩, ?_, rfl⟩
    rw [List.append_nil]
    exact fun c hc => hblank (hgap c hc)

/-! ## The properties -/

/-- No property begins in a stretch without a colon that ends with no character of a word: its name would go on to the end
of the stretch. -/
theorem passes_textProperty {passed : List Char} (hcolon : ':' ∉ passed)
    (hlast : ∀ c, passed.getLast? = some c → Text.isWord c = false) (before : Option Char) (text : List Char) :
    Passes textProperty before passed text := by
  rintro earlier later rfl hlater stretch rest found htext hreads
  obtain ⟨name, value, ⟨gap, quoted, rfl, ⟨-, hname⟩, -⟩, -⟩ := notes_textProperty.reads_iff.mp hreads
  rw [List.append_assoc, List.cons_append] at htext
  obtain ⟨more, rfl, -⟩ := Text.exists_of_not_mem (fun hmem => hcolon (List.mem_append_right earlier hmem)) htext
  obtain ⟨front, c, rfl⟩ := (List.eq_nil_or_concat' later).resolve_left hlater
  have hc := hlast c (by simp)
  rw [hname c (by simp)] at hc
  cases hc

/-- Properties as they stand in an entry, each with the commas and blanks behind it. -/
def propertiesOf (properties : List (Quotation × List Char)) : List Char :=
  properties.flatMap fun property => property.1.asProperty ++ property.2

theorem passes_gap {gap : List Char} (hgap : ∀ c ∈ gap, isGap c = true) (before : Option Char) (text : List Char) :
    Passes textProperty before gap text :=
  passes_textProperty (Text.not_mem_of_kind (by decide) hgap)
    (fun c hc => isWord_of_isGap (hgap c (List.mem_of_getLast? hc))) before text

theorem shows_propertiesOf {properties : List (Quotation × List Char)} (hplain : ∀ property ∈ properties, property.1.IsPlain)
    (hbehind : ∀ property ∈ properties, ∀ c ∈ property.2, isGap c = true) (before : Option Char) :
    Shows textProperty nameAndText before (propertiesOf properties) (properties.map fun property => property.1.entry) := by
  induction properties generalizing before with
  | nil => exact .nil
  | cons property others ih =>
    obtain ⟨hfirst, hplain⟩ := List.forall_mem_cons.mp hplain
    obtain ⟨hgap, hbehind⟩ := List.forall_mem_cons.mp hbehind
    rw [propertiesOf, List.flatMap_cons, List.append_assoc]
    exact notes_textProperty.take hfirst.isProperty (.passAll (passes_gap hgap _ _) (ih hplain hbehind _))

/-- A mark that is no part of a name or of a number, no quote, and nothing between properties. -/
theorem marks_apart : ∀ c ∈ ['\x7d', ']', '='], Text.isWord c = false ∧ isQuote c = false ∧ isGap c = false ∧
    Text.isDecimal c = false ∧ c ∉ "id: \x7b".toList :=
  Text.forall_mem_of_all (by decide)

/-- Such a mark stands in a text, if it stands in properties at all. -/
theorem not_mem_propertiesOf {c : Char} (hc : c ∈ ['\x7d', ']', '=']) {properties : List (Quotation × List Char)}
    (hbehind : ∀ property ∈ properties, ∀ d ∈ property.2, isGap d = true)
    (htexts : ∀ property ∈ properties, c ∉ property.1.text) : c ∉ propertiesOf properties := by
  obtain ⟨hword, hquote, hgap, -, hmarks⟩ := marks_apart c hc
  intro hmem
  obtain ⟨property, hproperty, hmem⟩ := List.mem_flatMap.mp hmem
  have hname := Text.not_mem_of_kind hword property.1.isWord_name
  have hopening : c ≠ property.1.quote := Quotation.ne_quote hquote
  have hseparator := Text.not_mem_of_kind hgap (hbehind property hproperty)
  simp only [String.reduceToList, List.mem_cons, List.not_mem_nil, or_false, not_or] at hmarks
  simp [Quotation.asProperty, Quotation.quoted, hname, hopening, hseparator, hmarks, htexts property hproperty] at hmem

/-! ## A source with slides -/

/-- A source from its array of slides on. The first entry of the array has a number and then properties with different names.
The texts of the properties hold no closing bracket and no closing brace. -/
structure Slides where
  /-- What stands before the first entry, behind its brace, and before its number. -/
  lead : List Char
  inner : List Char
  space : List Char
  number : List Char
  /-- What stands between the number and the first property. -/
  gap : List Char
  /-- The properties, each with what stands behind it. -/
  properties : List (Quotation × List Char)
  /-- What stands in the array behind the first entry, and in the source behind the array. -/
  others : List Char
  after : List Char
  isBlank_lead : ∀ c ∈ lead, Text.isBlank c = true
  isBlank_inner : ∀ c ∈ inner, Text.isBlank c = true
  isBlank_space : ∀ c ∈ space, Text.isBlank c = true
  number_ne_nil : number ≠ []
  isDecimal_number : ∀ c ∈ number, Text.isDecimal c = true
  gap_ne_nil : gap ≠ []
  isGap_gap : ∀ c ∈ gap, isGap c = true
  isGap_behind : ∀ property ∈ properties, ∀ c ∈ property.2, isGap c = true
  distinct : (properties.map fun property => property.1.name).Nodup
  closing_not_mem : ∀ property ∈ properties, '\x7d' ∉ property.1.text ∧ ']' ∉ property.1.text

namespace Slides

variable {slides : Slides} {ahead : List Char}

/-- The texts of the properties, by name. -/
def entries (slides : Slides) : Bindings := slides.properties.map fun property => property.1.entry

/-- The first entry, up to the closing brace. -/
def opened (slides : Slides) : List Char :=
  '\x7b' :: (slides.inner ++ ("id:".toList ++ (slides.space ++ ((slides.number ++ slides.gap) ++
    propertiesOf slides.properties))))

/-- What stands behind the opening bracket of the array. -/
def listed (slides : Slides) : List Char :=
  (slides.lead ++ slides.opened) ++ '\x7d' :: (slides.others ++ ("];".toList ++ slides.after))

/-- The source from the array on. -/
def code (slides : Slides) : List Char := "const slides = [".toList ++ slides.listed

theorem not_mem_opened {c : Char} (hc : c ∈ ['\x7d', ']', '=']) (htexts : ∀ property ∈ slides.properties, c ∉ property.1.text) :
    c ∉ slides.lead ++ slides.opened := by
  obtain ⟨-, -, hgap, hdecimal, hmarks⟩ := marks_apart c hc
  have hblank : Text.isBlank c = false := (Bool.or_eq_false_iff.mp hgap).2
  have hlead := Text.not_mem_of_kind hblank slides.isBlank_lead
  have hinner := Text.not_mem_of_kind hblank slides.isBlank_inner
  have hspace := Text.not_mem_of_kind hblank slides.isBlank_space
  have hnumber := Text.not_mem_of_kind hdecimal slides.isDecimal_number
  have hbehind := Text.not_mem_of_kind hgap slides.isGap_gap
  have hproperties := not_mem_propertiesOf hc slides.isGap_behind htexts
  simp only [String.reduceToList, List.mem_cons, List.not_mem_nil, or_false, not_or] at hmarks
  simp [opened, hlead, hinner, hspace, hnumber, hbehind, hproperties, hmarks]

theorem isArray_written (items : List Char) : IsArray ("const slides = [".toList ++ (items ++ "];".toList)) items :=
  ⟨[' '], [' '], [' '], rfl, ⟨Text.isBlank_space, by decide⟩, by decide, Text.isBlank_space⟩

/-- If no array begins before it, the array that is found begins with the first entry. -/
theorem exists_array (slides : Slides) (hahead : Passes slidesArray none ahead slides.code) :
    ∃ array behind, slidesArray.find? (ahead ++ slides.code) = some array ∧ array.captured 1 =
      (slides.lead ++ slides.opened) ++ '\x7d' :: behind := by
  have hwritten := isArray_written ((slides.lead ++ slides.opened) ++ '\x7d' :: slides.others)
  have hcode : slides.code = "const slides = [".toList ++ (((slides.lead ++ slides.opened) ++ '\x7d' :: slides.others) ++
      "];".toList) ++ slides.after := by
    rw [List.append_assoc, List.append_assoc _ "];".toList, List.append_assoc _ (_ :: _), List.cons_append]
    rfl
  have hreads : slidesArray.Reads (beforeAfter none ahead) _ slides.after _ :=
    reads_slidesArray_iff.mpr ⟨_, hwritten, rfl⟩
  obtain ⟨array, harray⟩ := exists_matchAt hreads (0 + ahead.length)
  rw [← hcode] at harray
  obtain ⟨stretch, rest, found, hsplit, hreads, htells⟩ := reads_of_matchAt harray
  obtain ⟨items, hread, rfl⟩ := reads_slidesArray_iff.mp hreads
  have hitems := hread.behind_opening hwritten (hsplit.symm.trans hcode)
  have hbracket : ']' ∉ slides.lead ++ slides.opened ++ ['\x7d'] := by
    rw [List.mem_append, not_or]
    exact ⟨not_mem_opened (by decide) fun property hproperty => (slides.closing_not_mem property hproperty).2, by decide⟩
  rw [List.append_cons, List.append_assoc _ slides.others] at hitems
  obtain ⟨behind, rfl, -⟩ := Text.exists_of_not_mem hbracket hitems.symm
  refine ⟨array, behind, (findFrom_skip hahead).trans (findFrom_of_matchAt harray), ?_⟩
  rw [Match.captured, htells.captured?, ← List.append_cons]
  rfl

/-- Only the opening brace of the entry begins an entry in the array. -/
theorem passes_lead (slides : Slides) (text : List Char) : Passes numberedEntry none slides.lead text := by
  have hbrace : '\x7b' ∉ slides.lead := Text.not_mem_of_kind (by decide) slides.isBlank_lead
  refine passes_of_not_mem (fun hreads => ?_) hbrace none text
  obtain ⟨tail, rfl, -⟩ := reads_char_cons.mp hreads
  exact ⟨tail, rfl⟩

/-- Behind its number and gap the entry goes on with a name or ends. -/
theorem isGap_head (properties : List (Quotation × List Char)) (text : List Char) :
    ∀ c, (propertiesOf properties ++ '\x7d' :: text).head? = some c → isGap c = false := by
  cases properties with
  | nil => exact Text.of_head_cons (by decide) text
  | cons property others =>
    obtain ⟨c, name, hname⟩ := List.exists_cons_of_ne_nil property.1.name_ne_nil
    rw [propertiesOf, List.flatMap_cons, Quotation.asProperty, hname]
    refine Text.of_head_cons ?_ _
    exact Text.eq_false_of_apart isGap Text.isWord (fun h => isWord_of_isGap h)
      (property.1.isWord_name c (hname ▸ List.mem_cons_self))

theorem head_number {number : List Char} (h : number ≠ [] ∧ ∀ c ∈ number, Text.isDecimal c = true) (rest : List Char) :
    ∀ c, (number ++ rest).head? = some c → Text.isBlank c = false := by
  obtain ⟨d, digits, rfl⟩ := List.exists_cons_of_ne_nil h.1
  have hgap := Text.eq_false_of_apart isGap Text.isDecimal isDecimal_of_isGap (h.2 d List.mem_cons_self)
  exact Text.of_head_cons (Bool.or_eq_false_iff.mp hgap).2 _

/-- The first entry is read as an entry with a number. -/
theorem reads_opened (slides : Slides) (before : Option Char) (behind : List Char) :
    numberedEntry.Reads before (slides.opened ++ ['\x7d']) behind [(1, slides.gap ++ propertiesOf slides.properties)] := by
  have hopened : slides.opened ++ ['\x7d'] = '\x7b' :: (slides.inner ++ ("id:".toList ++ (slides.space ++ (slides.number ++
      ([] ++ ((slides.gap ++ propertiesOf slides.properties) ++ ['\x7d'])))))) := by
    simp only [opened, List.cons_append, List.append_assoc, List.nil_append]
  rw [hopened, numberedEntry]
  simp only [reads_char_cons, reads_blanks_cons, reads_literal_cons, reads_many_cons, reads_optional_char_cons,
    reads_capture_cons, reads_sequence_nil]
  exact ⟨_, rfl, slides.inner, _, rfl, slides.isBlank_inner, _, rfl, slides.space, _, rfl, slides.isBlank_space,
    slides.number, _, rfl, ⟨slides.isDecimal_number, List.length_pos_of_ne_nil slides.number_ne_nil⟩, .inr ⟨[], _, rfl, Text.isBlank_nil,
    _, _, [], [], rfl, ⟨fun _ _ => rfl, Nat.zero_le _, rfl⟩, ⟨[], rfl, rfl, rfl⟩, rfl⟩⟩

/-- What is captured of the first entry, up to its closing brace, are the properties and what is left before them of the number
and the gap. -/
theorem exists_left (slides : Slides) {opening body behind rest : List Char}
    (hopening : (sequence entryOpening).Reads before opening (body ++ '\x7d' :: rest) found) (hbody : '\x7d' ∉ body)
    (hsplit : slides.opened ++ '\x7d' :: behind = opening ++ (body ++ '\x7d' :: rest)) :
    ∃ left, body = left ++ propertiesOf slides.properties ∧ left <:+ slides.number ++ slides.gap := by
  obtain ⟨inner, space, digits, taken, rfl, hinner, hspace, ⟨hne, hdigits⟩, htaken, -⟩ := exists_of_reads_entryOpening hopening
  -- up to the number there is one way to read the entry
  have hkey : ∀ (s : List Char), ∀ c, ("id:".toList ++ s).head? = some c → Text.isBlank c = false :=
    fun s => Text.of_head_cons (by decide) _
  simp only [opened, List.append_assoc, List.cons_append] at hsplit
  obtain ⟨-, hkeys⟩ := Text.stretch_unique slides.isBlank_inner hinner (hkey _) (hkey _) (List.cons.inj hsplit).2
  obtain ⟨-, hnumbers⟩ := Text.stretch_unique slides.isBlank_space hspace
    (head_number ⟨slides.number_ne_nil, slides.isDecimal_number⟩ _) (head_number ⟨hne, hdigits⟩ _)
    (List.append_cancel_left hkeys)
  rw [← List.append_assoc, ← List.append_assoc digits] at hnumbers
  obtain ⟨left, hleft, hsuffix⟩ := exists_left_over slides.isDecimal_number hdigits ⟨slides.gap_ne_nil, slides.isGap_gap⟩ htaken
    (isGap_head slides.properties behind) hnumbers
  have hproperties : '\x7d' ∉ left ++ propertiesOf slides.properties := by
    rw [List.mem_append, not_or]
    refine ⟨fun hmem => (List.mem_append.mp (hsuffix.subset hmem)).elim ?_ ?_, ?_⟩
    · exact Text.not_mem_of_kind (by decide) slides.isDecimal_number
    · exact Text.not_mem_of_kind (by decide) slides.isGap_gap
    · exact not_mem_propertiesOf (by decide) slides.isGap_behind fun property hproperty =>
        (slides.closing_not_mem property hproperty).1
  rw [← List.append_assoc left] at hleft
  exact ⟨left, (Text.append_cons_unique hbody hproperties hleft).1, hsuffix⟩

/-- The entry that is found is the first one. In front of its properties there may be a part left of what follows the colon. -/
theorem exists_entry (slides : Slides) (behind : List Char) : ∃ entry left,
    numberedEntry.find? ((slides.lead ++ slides.opened) ++ '\x7d' :: behind) = some entry ∧
      entry.captured 1 = left ++ propertiesOf slides.properties ∧ left <:+ slides.number ++ slides.gap := by
  obtain ⟨entry, hentry⟩ := exists_matchAt (slides.reads_opened (beforeAfter none slides.lead) behind) (0 + slides.lead.length)
  rw [← List.append_cons] at hentry
  obtain ⟨opening, body, _, rest, earlier, _, hsplit, hopening, hclosing, htells, hshortest⟩ :=
    @exists_shortest_of_matchAt _ _ _ _ _ entryOpening [char '\x7d'] _ hentry
  obtain ⟨_, rfl, rfl, rfl⟩ := reads_char_cons.mp hclosing
  -- the capture ends at the first closing brace
  have hbody : '\x7d' ∉ body := by
    intro hmem
    obtain ⟨nearer, farther, rfl⟩ := List.mem_iff_append.mp hmem
    exact hshortest nearer ('\x7d' :: farther) rfl (List.cons_ne_nil _ _) ['\x7d'] _ [] rfl
      (reads_char_cons.mpr ⟨[], rfl, rfl, rfl⟩)
  obtain ⟨left, rfl, hsuffix⟩ := slides.exists_left hopening hbody hsplit
  obtain ⟨-, -, -, -, -, -, -, -, -, rfl⟩ := exists_of_reads_entryOpening hopening
  refine ⟨entry, left, ?_, ?_, hsuffix⟩
  · rw [find?, List.append_assoc, findFrom_skip (slides.passes_lead _), findFrom_of_matchAt hentry]
  · rw [Match.captured, htells.captured?]
    rfl

/-- From the first entry all properties are noted, if their texts hold no quote. -/
theorem slideProperties_code (slides : Slides) (hahead : Passes slidesArray none ahead slides.code)
    (hplain : ∀ property ∈ slides.properties, property.1.IsPlain) :
    slideProperties (ahead ++ slides.code) = slides.entries := by
  obtain ⟨array, behind, harray, hitems⟩ := slides.exists_array hahead
  obtain ⟨entry, left, hentry, hcaptured, hleft⟩ := slides.exists_entry behind
  have hpasses : Passes textProperty none left (propertiesOf slides.properties) := by
    refine passes_textProperty ?_ ?_ none _
    · exact fun hmem => (List.mem_append.mp (hleft.subset hmem)).elim
        (Text.not_mem_of_kind (by decide) slides.isDecimal_number) (Text.not_mem_of_kind (by decide) slides.isGap_gap)
    · intro c hc
      obtain ⟨front, hfront⟩ := hleft
      have hlast : slides.gap.getLast? = some c := by
        have hall := congrArg List.getLast? hfront
        rw [List.getLast?_append, hc, Option.some_or, List.getLast?_append_of_ne_nil _ slides.gap_ne_nil] at hall
        exact hall.symm
      exact isWord_of_isGap (slides.isGap_gap c (List.mem_of_getLast? hlast))
  have hshows := Shows.passAll hpasses (shows_propertiesOf hplain slides.isGap_behind (beforeAfter none left))
  rw [slideProperties, harray]
  simp only [hitems, hentry, hcaptured]
  exact hshows.map_findAll

/-- Without an equals sign in its texts, before the array and behind its first entry a source with slides has no constants. -/
theorem textConstants_code (slides : Slides) (hahead : '=' ∉ ahead)
    (htexts : ∀ property ∈ slides.properties, '=' ∉ property.1.text) (hothers : '=' ∉ slides.others)
    (hafter : '=' ∉ slides.after) : textConstants (ahead ++ slides.code) = [] := by
  rw [textConstants, findAll_eq_nil, List.map_nil, List.filter_nil]
  rintro ⟨front, stretch, behind, found, hsplit, hreads⟩
  obtain ⟨name, text, ⟨space, blanks, gap, quoted, rfl, -, -, -, hgap, opening, closing, rfl, hopening, -⟩, -⟩ :=
    notes_textConstant.reads_iff.mp hreads
  have hlisted : '=' ∉ ' ' :: '[' :: slides.listed := by
    have hopened := not_mem_opened (by decide) htexts
    simp [listed, not_or.mp (List.mem_append.not.mp hopened), hothers, hafter]
  -- the only equals sign is that of the array, and behind it stands no quote
  have hequals : (front ++ ("const".toList ++ (space ++ (name ++ blanks)))) ++ '=' :: (gap ++ (opening ::
      (text ++ [closing]) ++ behind)) = (ahead ++ "const slides ".toList) ++ '=' :: ' ' :: '[' :: slides.listed := by
    rw [List.append_assoc ahead]
    refine Eq.trans ?_ hsplit.symm
    simp only [List.append_assoc, List.cons_append]
  have hheading : '=' ∉ ahead ++ "const slides ".toList := by
    rw [List.mem_append, not_or]
    exact ⟨hahead, by decide⟩
  obtain ⟨-, -, hvalue⟩ := (List.append_cons_inj_of_notMem hheading hlisted).mp hequals.symm
  obtain ⟨-, hquote⟩ := Text.stretch_unique Text.isBlank_space hgap (Text.of_head_cons (by decide) slides.listed)
    (Text.of_head_cons (isQuote_apart hopening).1 _) hvalue
  obtain ⟨rfl, -⟩ := List.cons.inj hquote
  exact absurd hopening (by decide)

/-- A source with slides carries the texts of its properties, and nothing else, exactly if these hold no quote and no constant
has a name of its own. -/
theorem ofContent_code_iff (slides : Slides) (hahead : Passes slidesArray none ahead slides.code) :
    ofContent (String.ofList (ahead ++ slides.code)) = slides.entries ↔
      (∀ property ∈ slides.properties, property.1.IsPlain) ∧
        ∀ constant ∈ textConstants (ahead ++ slides.code), constant.1 ∈ slides.entries.names := by
  constructor
  · intro hcarried
    refine ⟨fun property hproperty => ?_, fun constant hconstant => ?_⟩
    · have hentry : property.1.entry ∈ slides.entries := List.mem_map_of_mem hproperty
      exact Quotation.isPlain_of_mem (hcarried ▸ hentry)
    · have hnames := (merges_ofContent (String.ofList (ahead ++ slides.code))).listsFirst.mem_iff constant.1
      rw [hcarried, String.toList_ofList] at hnames
      exact hnames.mpr (List.mem_append_right _ (List.mem_map_of_mem hconstant))
  · rintro ⟨hplain, hconstants⟩
    have htable : ofProperties slides.entries = slides.entries := ofProperties_eq_self (Quotation.nodup_entries slides.distinct)
    rw [ofContent_eq, String.toList_ofList, slides.slideProperties_code hahead hplain, htable]
    exact withConstants_eq_self hconstants

end Slides

end Showcase.Variables
