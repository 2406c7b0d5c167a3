import Showcase.Proofs.Variables.Slide

/-!
# Constants on lines of their own

A source of constants holds quotes, equals signs and semicolons where its lines want them, and everything else in its texts.
So what is read across the end of a text holds the end of a line; and an array of slides is found only where a text opens one.
-/

namespace Showcase.Variables

open Pattern

/-! ## Lines -/

/-- Constants, each on a line of its own. -/
def linesOf (quotations : List Quotation) : List Char :=
  List.intercalate ['\n'] (quotations.map fun quotation => quotation.asConstant ++ [';'])

/-- The first line, and what stands between it and the others. -/
theorem linesOf_cons (quotation : Quotation) (others : List Quotation) : ∃ gap,
    linesOf (quotation :: others) = quotation.asConstant ++ ';' :: (gap ++ linesOf others) ∧
      (gap = ['\n'] ∨ gap = [] ∧ others = []) := by
  cases others with
  | nil => exact ⟨[], by simp [linesOf], .inr ⟨rfl, rfl⟩⟩
  | cons next others =>
    refine ⟨['\n'], ?_, .inl rfl⟩
    rw [linesOf, List.map_cons, Text.intercalate_cons_of_ne_nil (by simp), List.append_assoc]
    rfl

/-- Nothing but the keyword begins a constant. -/
theorem passes_textConstant {passed : List Char} (h : 'c' ∉ passed) (before : Option Char) (text : List Char) :
    Passes textConstant before passed text := by
  refine passes_of_not_mem (fun hreads => ?_) h before text
  obtain ⟨name, value, ⟨space, behind, gap, quoted, rfl, -⟩, -⟩ := notes_textConstant.reads_iff.mp hreads
  exact ⟨_, rfl⟩

/-- Texts without quotes are noted as they stand. -/
theorem shows_linesOf {quotations : List Quotation} (hplain : ∀ quotation ∈ quotations, quotation.IsPlain) {ending : List Char}
    (hending : ∀ c ∈ ending, Text.isBlank c = true) (before : Option Char) :
    Shows textConstant nameAndText before (linesOf quotations ++ ending) (quotations.map Quotation.entry) := by
  induction quotations generalizing before with
  | nil =>
    have hpasses : Passes textConstant before ending [] := passes_textConstant (Text.not_mem_of_kind (by decide) hending) before []
    simpa [linesOf] using Shows.passAll hpasses .nil
  | cons quotation others ih =>
    obtain ⟨hfirst, hplain⟩ := List.forall_mem_cons.mp hplain
    obtain ⟨gap, hlines, hgap⟩ := linesOf_cons quotation others
    have hpassed : 'c' ∉ ';' :: gap := by rcases hgap with rfl | ⟨rfl, -⟩ <;> decide
    rw [hlines, List.append_assoc, ← List.cons_append, List.append_assoc]
    exact notes_textConstant.take hfirst.isConstant (.passAll (passes_textConstant hpassed _ _) (ih hplain _))

/-! ## Marks in a text -/

/-- A colon and an opening bracket stand in no line but in its text. -/
theorem line_apart : ∀ c ∈ [':', '['], Text.isWord c = false ∧ isQuote c = false ∧ Text.isBlank c = false ∧
    c ∉ "const =;".toList :=
  Text.forall_mem_of_all (by decide)

/-- Such a mark stands in a text. Behind it come the rest of the text, the quote, and either the next line or nothing but
blanks. -/
theorem exists_text_of_linesOf {c : Char} (hc : c ∈ [':', '[']) {quotations : List Quotation} {ending ahead behind : List Char}
    (hending : ∀ c ∈ ending, Text.isBlank c = true) (h : linesOf quotations ++ ending = ahead ++ c :: behind) :
    ∃ quotation ∈ quotations, ∃ earlier later back, quotation.text = earlier ++ c :: later ∧
      behind = later ++ quotation.quote :: ';' :: back ∧
      ((∀ d ∈ back, Text.isBlank d = true) ∨ ∃ next, back = '\n' :: next) := by
  obtain ⟨hword, hquote, hblank, hmarks⟩ := line_apart c hc
  induction quotations generalizing ahead with
  | nil =>
    rw [linesOf, List.map_nil, List.intercalate_nil, List.nil_append] at h
    exact absurd (h ▸ List.mem_append_right ahead List.mem_cons_self) (Text.not_mem_of_kind hblank hending)
  | cons quotation others ih =>
    obtain ⟨gap, hlines, hgap⟩ := linesOf_cons quotation others
    have hquotation : c ≠ quotation.quote := Quotation.ne_quote hquote
    have hsemicolon : c ∉ [quotation.quote, ';'] := by
      rw [List.mem_cons, List.mem_singleton, not_or]
      refine ⟨hquotation, ?_⟩
      rintro rfl
      exact hmarks (by decide)
    have hopening : c ∉ "const ".toList ++ (quotation.name ++ (" = ".toList ++ [quotation.quote])) := by
      have hname := Text.not_mem_of_kind hword quotation.isWord_name
      simp only [String.reduceToList, List.mem_cons, List.not_mem_nil, or_false, not_or] at hmarks
      simp [hname, hquotation, hmarks]
    have hline : ("const ".toList ++ (quotation.name ++ (" = ".toList ++ [quotation.quote]))) ++ (quotation.text ++
        ([quotation.quote, ';'] ++ (gap ++ (linesOf others ++ ending)))) = ahead ++ c :: behind := by
      rw [← h, hlines, Quotation.asConstant_eq]
      simp only [List.append_assoc, List.cons_append, List.nil_append]
    obtain ⟨earlier, rfl, hinside⟩ := Text.exists_of_not_mem hopening hline
    rcases List.append_eq_append_iff.mp hinside with ⟨extra, rfl, hrest⟩ | ⟨extra, htext, hrest⟩
    · -- the mark stands behind the first text, and so in another line
      have hnewline : c ∉ gap := by
        rcases hgap with rfl | ⟨rfl, -⟩
        · exact Text.not_mem_of_kind hblank (Text.forall_mem_of_all (by decide))
        · exact List.not_mem_nil
      obtain ⟨more, -, hmore⟩ := Text.exists_of_not_mem hsemicolon hrest
      obtain ⟨last, -, hothers⟩ := Text.exists_of_not_mem hnewline hmore
      obtain ⟨other, hother, hplace⟩ := ih hothers
      exact ⟨other, List.mem_cons_of_mem quotation hother, hplace⟩
    · cases extra with
      | nil => exact absurd (List.cons.inj hrest).1 hquotation
      | cons d later =>
        obtain ⟨rfl, rfl⟩ := List.cons.inj hrest
        refine ⟨quotation, List.mem_cons_self, earlier, later, _, htext, rfl, ?_⟩
        rcases hgap with rfl | ⟨rfl, rfl⟩
        · exact .inr ⟨_, rfl⟩
        · exact .inl (by simpa [linesOf] using hending)

/-! ## A source of constants -/

/-- A source that is nothing but constants on lines of their own, with different names that name no component. -/
structure Constants where
  quotations : List Quotation
  ending : List Char
  isBlank_ending : ∀ c ∈ ending, Text.isBlank c = true
  distinct : (quotations.map Quotation.name).Nodup
  noComponent : ∀ quotation ∈ quotations, quotation.entry.1 ∉ componentNames

namespace Constants

/-- The texts of the constants, by name. -/
def entries (constants : Constants) : Bindings := constants.quotations.map Quotation.entry

/-- The source. -/
def code (constants : Constants) : List Char := linesOf constants.quotations ++ constants.ending

theorem textConstants_code (constants : Constants) (hplain : ∀ quotation ∈ constants.quotations, quotation.IsPlain) :
    textConstants constants.code = constants.entries := by
  rw [textConstants, code, (shows_linesOf hplain constants.isBlank_ending none).map_findAll, ← entries, List.filter_eq_self]
  intro entry hentry
  obtain ⟨quotation, hquotation, rfl⟩ := List.mem_map.mp hentry
  simpa using constants.noComponent quotation hquotation

/-- A property that is read across the end of a text goes on over more than one line. -/
theorem newline_of_mem_slideProperties {constants : Constants} (hplain : ∀ quotation ∈ constants.quotations, quotation.IsPlain)
    {entry : String × String} (h : entry ∈ slideProperties constants.code) : '\n' ∈ entry.2.toList := by
  obtain ⟨stretch, name, text, ⟨ahead, behind, hsplit⟩, ⟨gap, quoted, rfl, -, hgap, hquoted⟩, rfl⟩ :=
    exists_of_mem_slideProperties h
  rw [String.toList_ofList]
  have hcolon : linesOf constants.quotations ++ constants.ending =
      (ahead ++ name) ++ ':' :: (gap ++ (quoted ++ behind)) := by
    rw [← code, ← hsplit]
    simp only [List.append_assoc, List.cons_append]
  obtain ⟨quotation, hquotation, earlier, later, back, htext, hbehind, hback⟩ :=
    exists_text_of_linesOf (by decide) constants.isBlank_ending hcolon
  -- the colon stands in a text, and what follows it up to a quote is the rest of that text
  have hfree : ∀ c ∈ later, isQuote c = false := fun c hc =>
    hplain quotation hquotation c (htext ▸ List.mem_append_right earlier (List.mem_cons_of_mem _ hc))
  obtain ⟨opening, closing, rfl, hopening, hclosing, hne, -⟩ := hquoted
  obtain ⟨c, text, rfl⟩ := List.exists_cons_of_ne_nil hne
  simp only [List.cons_append, List.append_assoc] at hbehind
  obtain ⟨-, -, hline⟩ := first_quote_unique (fun c hc => isQuote_of_isBlank (hgap c hc)) hfree hopening quotation.isQuote_quote
    hbehind
  obtain ⟨-, hend⟩ := List.cons.inj hline
  rcases hback with hblank | ⟨next, rfl⟩
  · -- on the last line no quote follows
    have hclose := hblank closing (hend ▸ List.mem_append_right text List.mem_cons_self)
    rw [(isQuote_apart hclosing).1] at hclose
    cases hclose
  · cases text with
    | nil =>
      rw [(List.cons.inj hend).1] at hclosing
      exact absurd hclosing (by decide)
    | cons d text =>
      obtain ⟨rfl, -⟩ := List.cons.inj hend
      exact List.mem_cons_of_mem c List.mem_cons_self

/-- No array of slides is found where no text holds an opening bracket. -/
theorem slideProperties_code {constants : Constants} (htexts : ∀ quotation ∈ constants.quotations, '[' ∉ quotation.text) :
    slideProperties constants.code = [] := by
  have hnone : slidesArray.find? constants.code = none := by
    rw [find?_eq_none]
    rintro ⟨ahead, stretch, behind, found, hsplit, hreads⟩
    obtain ⟨items, ⟨space, typing, gap, rfl, -⟩, -⟩ := reads_slidesArray_iff.mp hreads
    have hbracket : linesOf constants.quotations ++ constants.ending = (ahead ++ ("const".toList ++ (space ++ ("slides".toList ++
        (typing ++ '=' :: gap))))) ++ '[' :: ((items ++ "];".toList) ++ behind) := by
      rw [← code, hsplit]
      simp only [List.append_assoc, List.cons_append]
    obtain ⟨quotation, hquotation, earlier, later, back, htext, -⟩ :=
      exists_text_of_linesOf (by decide) constants.isBlank_ending hbracket
    exact htexts quotation hquotation (htext ▸ List.mem_append_right earlier List.mem_cons_self)
  rw [slideProperties, hnone]

/-- A source of constants carries their texts, and nothing else, exactly if these hold no quote and are not read as slides. -/
theorem ofContent_code_iff (constants : Constants) : ofContent (String.ofList constants.code) = constants.entries ↔
    (∀ quotation ∈ constants.quotations, quotation.IsPlain) ∧ slideProperties constants.code = [] := by
  constructor
  · intro hcarried
    have hplain : ∀ quotation ∈ constants.quotations, quotation.IsPlain := by
      intro quotation hquotation
      have hentry : quotation.entry ∈ constants.entries := List.mem_map_of_mem hquotation
      exact Quotation.isPlain_of_mem (hcarried ▸ hentry)
    refine ⟨hplain, List.eq_nil_iff_forall_not_mem.mpr fun property hproperty => ?_⟩
    -- a property would be in the table with a text of more than one line
    have hname : property.1 ∈ (ofProperties (slideProperties constants.code)).names := by
      rw [names_ofProperties]
      exact ((Template.listsFirst_firstOccurrences _).mem_iff _).mpr (List.mem_map_of_mem hproperty)
    obtain ⟨entry, hentry, -⟩ := List.mem_map.mp hname
    obtain ⟨added, htable, -⟩ := exists_withConstants (textConstants constants.code) (ofProperties (slideProperties constants.code))
    rw [ofContent_eq, String.toList_ofList, htable] at hcarried
    obtain ⟨quotation, -, rfl⟩ := List.mem_map.mp (hcarried ▸ List.mem_append_left added hentry)
    have hnewline := newline_of_mem_slideProperties hplain (mem_ofProperties hentry)
    rw [Quotation.entry, String.toList_ofList] at hnewline
    exact quotation.newline_not_mem hnewline
  · rintro ⟨hplain, hslides⟩
    rw [ofContent_eq, String.toList_ofList, hslides, constants.textConstants_code hplain]
    exact withConstants_eq_append (Quotation.nodup_entries constants.distinct)

end Constants

/-! ## What a source carries -/

/-- Texts between quotes come back as they stand, by their names and in their order, exactly if they hold no quote of any kind
and the source is not taken for more than it is: a source of constants for an array of slides, or a source with slides, from
its first array on, for constants with names of their own. The former needs an opening bracket in a text, the latter an equals
sign in a text or apart from the first entry. -/
theorem carries_quotations_iff (constants : Constants) (slides : Slides) {ahead : List Char}
    (hahead : Passes slidesArray none ahead slides.code) :
    ((ofContent (String.ofList constants.code) = constants.entries ↔
        (∀ quotation ∈ constants.quotations, quotation.IsPlain) ∧ slideProperties constants.code = []) ∧
      ((∀ quotation ∈ constants.quotations, '[' ∉ quotation.text) → slideProperties constants.code = [])) ∧
    (ofContent (String.ofList (ahead ++ slides.code)) = slides.entries ↔
        (∀ property ∈ slides.properties, property.1.IsPlain) ∧
          ∀ constant ∈ textConstants (ahead ++ slides.code), constant.1 ∈ slides.entries.names) ∧
      ('=' ∉ ahead → (∀ property ∈ slides.properties, '=' ∉ property.1.text) → '=' ∉ slides.others → '=' ∉ slides.after →
        textConstants (ahead ++ slides.code) = []) :=
  ⟨⟨constants.ofContent_code_iff, constants.slideProperties_code⟩, slides.ofContent_code_iff hahead, slides.textConstants_code⟩

/-- A source of constants and nothing else. -/
def Constants.only (quotations : List Quotation) (hdistinct : (quotations.map Quotation.name).Nodup)
    (hnames : ∀ quotation ∈ quotations, quotation.entry.1 ∉ componentNames) : Constants where
  quotations := quotations
  ending := []
  isBlank_ending := Text.isBlank_nil
  distinct := hdistinct
  noComponent := hnames

/-- A source with one slide, which has a number and properties. -/
def Slides.only (properties : List (Quotation × List Char))
    (hbehind : ∀ property ∈ properties, ∀ c ∈ property.2, isGap c = true)
    (hdistinct : (properties.map fun property => property.1.name).Nodup)
    (hclosing : ∀ property ∈ properties, '\x7d' ∉ property.1.text ∧ ']' ∉ property.1.text) : Slides where
  lead := []
  inner := [' ']
  space := [' ']
  number := ['1']
  gap := [',', ' ']
  properties := properties
  others := []
  after := []
  isBlank_lead := Text.isBlank_nil
  isBlank_inner := Text.isBlank_space
  isBlank_space := Text.isBlank_space
  number_ne_nil := by decide
  isDecimal_number := Text.forall_mem_of_all (by decide)
  gap_ne_nil := by decide
  isGap_gap := Text.forall_mem_of_all (by decide)
  isGap_behind := hbehind
  distinct := hdistinct
  closing_not_mem := hclosing

/-- A text with brackets and without quotes. -/
def coffee : Quotation where
  name := "name".toList
  quote := '\x60'
  text := "Coffee (new)".toList
  name_ne_nil := by decide
  isWord_name := Text.forall_mem_of_all (by decide)
  isQuote_quote := by decide
  text_ne_nil := by decide
  newline_not_mem := by decide
  quote_not_mem := by decide

/-- A text between double quotes. -/
def sort : Quotation where
  name := "sort".toList
  quote := '"'
  text := "house blend".toList
  name_ne_nil := by decide
  isWord_name := Text.forall_mem_of_all (by decide)
  isQuote_quote := by decide
  text_ne_nil := by decide
  newline_not_mem := by decide
  quote_not_mem := by decide

/-- A text between apostrophes. -/
def price : Quotation where
  name := "price_2".toList
  quote := '\''
  text := "$4, to go".toList
  name_ne_nil := by decide
  isWord_name := Text.forall_mem_of_all (by decide)
  isQuote_quote := by decide
  text_ne_nil := by decide
  newline_not_mem := by decide
  quote_not_mem := by decide

/-- Constants between quotes of all kinds. -/
def menuConstants : Constants := .only [coffee, sort, price] (by decide) (by decide)

/-- Properties between quotes of all kinds. -/
def menuSlide : Slides :=
  .only [(price, [',', ' ']), (coffee, [',', '\n']), (sort, [' '])] (by simp; decide) (by decide) (by decide)

/-- The texts come back from constants and, behind an import, from a slide, each time in their order. -/
theorem carries_quotations_of_menu :
    Passes slidesArray none "import menu;\n".toList menuSlide.code ∧
    ofContent "const name = \x60Coffee (new)\x60;\nconst sort = \"house blend\";\nconst price_2 = '$4, to go';" =
      [("name", "Coffee (new)"), ("sort", "house blend"), ("price_2", "$4, to go")] ∧
    ofContent ("import menu;\nconst slides = [\x7b id: 1, price_2: '$4, to go', name: \x60Coffee (new)\x60,\n" ++
        "sort: \"house blend\" \x7d];") =
      [("price_2", "$4, to go"), ("name", "Coffee (new)"), ("sort", "house blend")] := by
  have hahead : Passes slidesArray none "import menu;\n".toList menuSlide.code := passes_slidesArray (by decide) _
  obtain ⟨⟨hconstants, hbrackets⟩, hslides, hequals⟩ := carries_quotations_iff menuConstants menuSlide hahead
  have hconstant := hconstants.mpr ⟨by decide, hbrackets (by decide)⟩
  have hslide := hslides.mpr ⟨by decide, by
    rw [hequals (by decide) (by decide) (by decide) (by decide)]
    exact List.forall_mem_nil _⟩
  exact ⟨hahead, hconstant, hslide⟩

/-- A text with an apostrophe between double quotes. -/
def contraction : Quotation where
  name := ['a']
  quote := '"'
  text := "it's".toList
  name_ne_nil := by decide
  isWord_name := Text.forall_mem_of_all (by decide)
  isQuote_quote := by decide
  text_ne_nil := by decide
  newline_not_mem := by decide
  quote_not_mem := by decide

def contractionConstant : Constants := .only [contraction] (by decide) (by decide)

def contractionSlide : Slides := .only [(contraction, [' '])] (by simp; decide) (by decide) (by decide)

/-- The text ends at the apostrophe, as a constant and as a property. -/
theorem not_carries_quotations :
    (String.ofList contractionConstant.code = "const a = \"it's\";" ∧
      ofContent (String.ofList contractionConstant.code) = [("a", "it")] ∧ contractionConstant.entries = [("a", "it's")]) ∧
    String.ofList contractionSlide.code = "const slides = [\x7b id: 1, a: \"it's\" \x7d];" ∧
      ofContent (String.ofList contractionSlide.code) = [("a", "it")] ∧ contractionSlide.entries = [("a", "it's")] := by
  decide

end Showcase.Variables
