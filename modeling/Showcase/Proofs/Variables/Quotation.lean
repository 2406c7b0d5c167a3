import Mathlib.Data.List.Nodup
import Showcase.Proofs.Pattern.Line
import Showcase.Proofs.Pattern.Matches
import Showcase.Proofs.Text.SmallLetter
import Showcase.Variables.Content

/-!
# Texts between quotes

The patterns for properties and constants read a text from one quote to the next one, whatever kinds the two are of. So a
text that is noted holds no quote at all, and a stretch is read in one way only. A source means more by its quotes: a text
ends at the kind of quote that it began with, and may hold the two other kinds.
-/

namespace Showcase

theorem Pattern.reads_sequence_singleton {pattern : Pattern} {before : Option Char} {stretch rest : List Char}
    {found : List (Nat × List Char)} :
    (sequence [pattern]).Reads before stretch rest found ↔ pattern.Reads before stretch rest found := by
  rw [reads_sequence_iff]
  constructor
  · rintro ⟨head, _, earlier, _, rfl, hreads, ⟨rfl, rfl⟩, rfl⟩
    rwa [List.append_nil]
  · intro hreads
    exact ⟨stretch, [], found, [], (List.append_nil _).symm, hreads, ⟨rfl, rfl⟩, rfl⟩

namespace Variables

open Pattern

variable {before : Option Char} {stretch other rest later name name' text text' : List Char} {found : List (Nat × List Char)}

/-! ## Quotes -/

/-- A quote is no blank and no part of a word. -/
theorem isQuote_apart {c : Char} (hc : isQuote c = true) : Text.isBlank c = false ∧ Text.isWord c = false := by
  have hascii : c.toNat < 128 := by
    simp only [isQuote, Bool.or_eq_true, beq_iff_eq] at hc
    rcases hc with (rfl | rfl) | hgrave
    · decide
    · decide
    · omega
  revert hc
  exact Text.of_ascii (p := fun c => isQuote c = true → Text.isBlank c = false ∧ Text.isWord c = false) (by decide)
    hascii

theorem isQuote_of_isBlank {c : Char} (hc : Text.isBlank c = true) : isQuote c = false :=
  Text.eq_false_of_apart isQuote Text.isBlank (fun h => (isQuote_apart h).1) hc

/-- There is one way to split a text at its first quote. -/
theorem first_quote_unique {s t u v : List Char} {c d : Char} (hs : ∀ c ∈ s, isQuote c = false)
    (ht : ∀ c ∈ t, isQuote c = false) (hc : isQuote c = true) (hd : isQuote d = true) (h : s ++ c :: u = t ++ d :: v) :
    s = t ∧ c = d ∧ u = v := by
  have hfree : ∀ {s : List Char}, (∀ c ∈ s, isQuote c = false) → ∀ c ∈ s, (!isQuote c) = true := by
    intro s hs c hc
    rw [hs c hc, Bool.not_false]
  have hends : ∀ {c : Char}, isQuote c = true → ∀ (s : List Char), ∀ d, (c :: s).head? = some d → (!isQuote d) = false :=
    fun hc s => Text.of_head_cons (by rw [hc, Bool.not_true]) s
  obtain ⟨hsame, hrest⟩ := @Text.stretch_unique (fun c => !isQuote c) _ _ _ _ (hfree hs) (hfree ht) (hends hc u) (hends hd v) h
  exact ⟨hsame, List.cons.inj hrest⟩

/-- A stretch is a text between two quotes, with no quote in the text. -/
def IsQuoted (stretch text : List Char) : Prop :=
  ∃ opening closing, stretch = opening :: (text ++ [closing]) ∧ isQuote opening = true ∧ isQuote closing = true ∧
    text ≠ [] ∧ ∀ c ∈ text, isQuote c = false

theorem IsQuoted.head (h : IsQuoted stretch text) (rest : List Char) :
    ∀ c, (stretch ++ rest).head? = some c → Text.isBlank c = false := by
  obtain ⟨opening, closing, rfl, hopening, -⟩ := h
  exact Text.of_head_cons (isQuote_apart hopening).1 _

theorem IsQuoted.unique (h : IsQuoted stretch text) (h' : IsQuoted other text') (hsplit : stretch ++ rest = other ++ later) :
    stretch = other ∧ text = text' := by
  obtain ⟨opening, closing, rfl, -, hclosing, -, htext⟩ := h
  obtain ⟨opening', closing', rfl, -, hclosing', -, htext'⟩ := h'
  rw [List.cons_append, List.cons_append, List.append_assoc, List.append_assoc] at hsplit
  obtain ⟨rfl, hinside⟩ := List.cons.inj hsplit
  obtain ⟨rfl, rfl, -⟩ := first_quote_unique htext htext' hclosing hclosing' hinside
  exact ⟨rfl, rfl⟩

theorem reads_quotedText_iff {number : Nat} : (quotedText number).Reads before stretch rest found ↔
    ∃ text, IsQuoted stretch text ∧ found = [(number, text)] := by
  rw [quotedText]
  simp only [reads_one_cons, reads_capture_cons, reads_sequence_nil]
  constructor
  · rintro ⟨opening, _, rfl, hopening, text, _, _, _, rfl, ⟨htext, hlength, rfl⟩, ⟨closing, _, rfl, hclosing, rfl, rfl⟩, rfl⟩
    refine ⟨text, ⟨opening, closing, rfl, hopening, hclosing, List.ne_nil_of_length_pos hlength, ?_⟩, rfl⟩
    intro c hc
    simpa using htext c hc
  · rintro ⟨text, ⟨opening, closing, rfl, hopening, hclosing, hne, htext⟩, rfl⟩
    refine ⟨opening, _, rfl, hopening, text, [closing], [], [], rfl, ⟨?_, List.length_pos_of_ne_nil hne, rfl⟩,
      ⟨closing, [], rfl, hclosing, rfl, rfl⟩, rfl⟩
    intro c hc
    simpa using htext c hc

/-! ## Properties and constants -/

/-- A name and a text that a pattern notes, for stretches of some kind. In such a stretch the text holds no quotes, and no
other stretch of the kind begins at the same place. -/
structure Notes (pattern : Pattern) (kind : (stretch name text : List Char) → Prop) : Prop where
  reads_iff : ∀ {before : Option Char} {stretch rest : List Char} {found : List (Nat × List Char)},
    pattern.Reads before stretch rest found ↔ ∃ name text, kind stretch name text ∧ found = [(2, text), (1, name)]
  ne_nil : ∀ {stretch name text : List Char}, kind stretch name text → stretch ≠ []
  isQuote_text : ∀ {stretch name text : List Char}, kind stretch name text → ∀ c ∈ text, isQuote c = false
  unique : ∀ {stretch rest other later name name' text text' : List Char}, kind stretch name text →
    kind other name' text' → stretch ++ rest = other ++ later → stretch = other ∧ name = name' ∧ text = text'

namespace Notes

variable {pattern : Pattern} {kind : (stretch name text : List Char) → Prop}

theorem nameAndText_eq {m : Match} (h : Tells m stretch [(2, text), (1, name)]) :
    nameAndText m = (String.ofList name, String.ofList text) := by
  simp [nameAndText, Match.captured, h.captured?, List.lookup_cons]

/-- Where such a stretch stands, its name and text are noted. -/
theorem take (hpattern : Notes pattern kind) (hstretch : kind stretch name text) {values : List (String × String)}
    (h : Shows pattern nameAndText (beforeAfter before stretch) rest values) :
    Shows pattern nameAndText before (stretch ++ rest) ((String.ofList name, String.ofList text) :: values) := by
  refine .take (hpattern.ne_nil hstretch) ⟨_, hpattern.reads_iff.mpr ⟨name, text, hstretch, rfl⟩⟩ ?_ h
  intro other later found hsplit hreads
  obtain ⟨name', text', hother, rfl⟩ := hpattern.reads_iff.mp hreads
  obtain ⟨rfl, rfl, rfl⟩ := hpattern.unique hother hstretch hsplit.symm
  exact ⟨rfl, fun m htells => nameAndText_eq htells⟩

/-- What is noted stands in the text. -/
theorem exists_of_mem (hpattern : Notes pattern kind) {source : List Char} {entry : String × String}
    (h : entry ∈ (pattern.findAll source).map nameAndText) :
    ∃ ahead stretch behind name text, source = ahead ++ (stretch ++ behind) ∧ kind stretch name text ∧
      entry = (String.ofList name, String.ofList text) := by
  obtain ⟨m, hm, rfl⟩ := List.mem_map.mp h
  obtain ⟨ahead, stretch, behind, found, hsource, hreads, htells⟩ := exists_reads_of_mem_findAll hm
  obtain ⟨name, text, hstretch, rfl⟩ := hpattern.reads_iff.mp hreads
  exact ⟨ahead, stretch, behind, name, text, hsource, hstretch, nameAndText_eq htells⟩

end Notes

/-- A stretch that holds a text as a property: a name, a colon, and the text between quotes. -/
def IsProperty (stretch name text : List Char) : Prop :=
  ∃ gap quoted, stretch = name ++ ':' :: (gap ++ quoted) ∧ (name ≠ [] ∧ ∀ c ∈ name, Text.isWord c = true) ∧
    (∀ c ∈ gap, Text.isBlank c = true) ∧ IsQuoted quoted text

/-- A stretch that holds a text as a constant: the keyword, a name, an equals sign, and the text between quotes. -/
def IsConstant (stretch name text : List Char) : Prop :=
  ∃ space behind gap quoted, stretch = "const".toList ++ (space ++ (name ++ (behind ++ '=' :: (gap ++ quoted)))) ∧
    ((∀ c ∈ space, Text.isBlank c = true) ∧ space ≠ []) ∧ (name ≠ [] ∧ ∀ c ∈ name, Text.isWord c = true) ∧
    (∀ c ∈ behind, Text.isBlank c = true) ∧ (∀ c ∈ gap, Text.isBlank c = true) ∧ IsQuoted quoted text

theorem reads_word_iff : word.Reads before stretch rest found ↔
    (stretch ≠ [] ∧ ∀ c ∈ stretch, Text.isWord c = true) ∧ found = [] := by
  constructor
  · rintro ⟨hword, hlength, rfl⟩
    exact ⟨⟨List.ne_nil_of_length_pos hlength, hword⟩, rfl⟩
  · rintro ⟨⟨hne, hword⟩, rfl⟩
    exact ⟨hword, List.length_pos_of_ne_nil hne, rfl⟩

theorem notes_textProperty : Notes textProperty IsProperty where
  reads_iff := by
    intro before stretch rest found
    rw [textProperty]
    simp only [reads_capture_cons, reads_char_cons, reads_blanks_cons, reads_sequence_singleton, reads_quotedText_iff,
      reads_word_iff]
    constructor
    · rintro ⟨name, _, _, _, rfl, ⟨hname, rfl⟩, ⟨_, rfl, gap, quoted, rfl, hgap, text, hquoted, rfl⟩, rfl⟩
      exact ⟨name, text, ⟨gap, quoted, rfl, hname, hgap, hquoted⟩, rfl⟩
    · rintro ⟨name, text, ⟨gap, quoted, rfl, hname, hgap, hquoted⟩, rfl⟩
      exact ⟨name, _, [], [(2, text)], rfl, ⟨hname, rfl⟩, ⟨_, rfl, gap, quoted, rfl, hgap, text, hquoted, rfl⟩, rfl⟩
  ne_nil := by
    rintro stretch name text ⟨gap, quoted, rfl, -⟩
    simp
  isQuote_text := by
    rintro stretch name text ⟨gap, quoted, -, -, -, _, _, -, -, -, -, htext⟩
    exact htext
  unique := by
    rintro stretch rest other later name name' text text' ⟨gap, quoted, rfl, ⟨-, hname⟩, hgap, hquoted⟩
      ⟨gap', quoted', rfl, ⟨-, hname'⟩, hgap', hquoted'⟩ hsplit
    rw [List.append_assoc, List.append_assoc, List.cons_append, List.cons_append] at hsplit
    have hcolon : ∀ (s : List Char), ∀ c, (':' :: s).head? = some c → Text.isWord c = false := Text.of_head_cons (by decide)
    obtain ⟨rfl, hbehind⟩ := Text.stretch_unique hname hname' (hcolon _) (hcolon _) hsplit
    have hvalue := (List.cons.inj hbehind).2
    rw [List.append_assoc, List.append_assoc] at hvalue
    obtain ⟨rfl, hrest⟩ := Text.stretch_unique hgap hgap' (hquoted.head rest) (hquoted'.head later) hvalue
    obtain ⟨rfl, rfl⟩ := hquoted.unique hquoted' hrest
    exact ⟨rfl, rfl, rfl⟩

/-- Behind a name of a constant comes no character of a word. -/
private theorem head_behind {behind : List Char} (hbehind : ∀ c ∈ behind, Text.isBlank c = true) (rest : List Char) :
    ∀ c, (behind ++ '=' :: rest).head? = some c → Text.isWord c = false := by
  cases behind with
  | nil => exact Text.of_head_cons (by decide) rest
  | cons d behind =>
    exact Text.of_head_cons
      (Text.eq_false_of_apart Text.isWord Text.isBlank Text.isBlank_of_isWord (hbehind d List.mem_cons_self)) _

theorem notes_textConstant : Notes textConstant IsConstant where
  reads_iff := by
    intro before stretch rest found
    rw [textConstant]
    simp only [reads_literal_cons, reads_someBlanks_cons, reads_capture_cons, reads_char_cons, reads_blanks_cons,
      reads_sequence_singleton, reads_quotedText_iff, reads_word_iff]
    constructor
    · rintro ⟨_, rfl, space, _, rfl, hspace, name, _, _, _, rfl, ⟨hname, rfl⟩, ⟨behind, _, rfl, hbehind, _, rfl, gap, quoted,
        rfl, hgap, text, hquoted, rfl⟩, rfl⟩
      exact ⟨name, text, ⟨space, behind, gap, quoted, rfl, hspace, hname, hbehind, hgap, hquoted⟩, rfl⟩
    · rintro ⟨name, text, ⟨space, behind, gap, quoted, rfl, hspace, hname, hbehind, hgap, hquoted⟩, rfl⟩
      exact ⟨_, rfl, space, _, rfl, hspace, name, _, [], [(2, text)], rfl, ⟨hname, rfl⟩, ⟨behind, _, rfl, hbehind, _, rfl, gap,
        quoted, rfl, hgap, text, hquoted, rfl⟩, rfl⟩
  ne_nil := by
    rintro stretch name text ⟨space, behind, gap, quoted, rfl, -⟩
    exact List.cons_ne_nil _ _
  isQuote_text := by
    rintro stretch name text ⟨space, behind, gap, quoted, -, -, -, -, -, _, _, -, -, -, -, htext⟩
    exact htext
  unique := by
    rintro stretch rest other later name name' text text'
      ⟨space, behind, gap, quoted, rfl, ⟨hspace, -⟩, ⟨hne, hname⟩, hbehind, hgap, hquoted⟩
      ⟨space', behind', gap', quoted', rfl, ⟨hspace', -⟩, ⟨hne', hname'⟩, hbehind', hgap', hquoted'⟩ hsplit
    simp only [List.append_assoc, List.cons_append] at hsplit
    have hword : ∀ {name : List Char}, name ≠ [] → (∀ c ∈ name, Text.isWord c = true) → ∀ (s : List Char),
        ∀ c, (name ++ s).head? = some c → Text.isBlank c = false := by
      intro name hne hname s
      obtain ⟨c, others, rfl⟩ := List.exists_cons_of_ne_nil hne
      exact Text.of_head_cons (Text.isBlank_of_isWord (hname c List.mem_cons_self)) _
    have hequals : ∀ (s : List Char), ∀ c, ('=' :: s).head? = some c → Text.isBlank c = false := Text.of_head_cons (by decide)
    -- each part ends where characters of its kind do, so the parts agree from the keyword to the value
    obtain ⟨rfl, hnames⟩ := Text.stretch_unique hspace hspace' (hword hne hname _) (hword hne' hname' _)
      (List.append_cancel_left hsplit)
    obtain ⟨rfl, hblanks⟩ := Text.stretch_unique hname hname' (head_behind hbehind _) (head_behind hbehind' _) hnames
    obtain ⟨rfl, hvalues⟩ := Text.stretch_unique hbehind hbehind' (hequals _) (hequals _) hblanks
    obtain ⟨rfl, hrest⟩ := Text.stretch_unique hgap hgap' (hquoted.head rest) (hquoted'.head later) (List.cons.inj hvalues).2
    obtain ⟨rfl, rfl⟩ := hquoted.unique hquoted' hrest
    exact ⟨rfl, rfl, rfl⟩

/-! ## Quotations -/

/-- A text that goes on over one line, between quotes of one kind that it does not hold, and the name that it is under. -/
structure Quotation where
  name : List Char
  quote : Char
  text : List Char
  name_ne_nil : name ≠ []
  isWord_name : ∀ c ∈ name, Text.isWord c = true
  isQuote_quote : isQuote quote = true
  text_ne_nil : text ≠ []
  newline_not_mem : '\n' ∉ text
  quote_not_mem : quote ∉ text

namespace Quotation

/-- Name and text, as they stand in a table. -/
def entry (quotation : Quotation) : String × String := (String.ofList quotation.name, String.ofList quotation.text)

/-- The text between its quotes. -/
def quoted (quotation : Quotation) : List Char := quotation.quote :: (quotation.text ++ [quotation.quote])

/-- The property that holds the text. -/
def asProperty (quotation : Quotation) : List Char := quotation.name ++ ':' :: ' ' :: quotation.quoted

/-- The constant that holds the text, up to the end of its line. -/
def asConstant (quotation : Quotation) : List Char :=
  "const ".toList ++ (quotation.name ++ (" = ".toList ++ quotation.quoted))

/-- There is no quote of another kind in the text either. -/
def IsPlain (quotation : Quotation) : Prop := ∀ c ∈ quotation.text, isQuote c = false

instance (quotation : Quotation) : Decidable quotation.IsPlain :=
  decidable_of_iff (quotation.text.all (fun c => !isQuote c) = true) (by simp [IsPlain])

variable {quotation : Quotation}

/-- A constant opens its text, and what it opens is closed by the same quote. -/
theorem asConstant_eq (quotation : Quotation) : quotation.asConstant =
    ("const ".toList ++ (quotation.name ++ (" = ".toList ++ [quotation.quote]))) ++ (quotation.text ++ [quotation.quote]) := by
  change "const ".toList ++ (quotation.name ++ (" = ".toList ++ quotation.quote :: (quotation.text ++ [quotation.quote]))) = _
  simp only [List.append_assoc, List.singleton_append]

theorem ne_quote {c : Char} (hc : isQuote c = false) : c ≠ quotation.quote := by
  rintro rfl
  rw [quotation.isQuote_quote] at hc
  cases hc

theorem IsPlain.isQuoted (h : quotation.IsPlain) : IsQuoted quotation.quoted quotation.text :=
  ⟨quotation.quote, quotation.quote, rfl, quotation.isQuote_quote, quotation.isQuote_quote, quotation.text_ne_nil, h⟩

theorem IsPlain.isProperty (h : quotation.IsPlain) : IsProperty quotation.asProperty quotation.name quotation.text :=
  ⟨[' '], quotation.quoted, rfl, ⟨quotation.name_ne_nil, quotation.isWord_name⟩, Text.isBlank_space,
    h.isQuoted⟩

theorem IsPlain.isConstant (h : quotation.IsPlain) : IsConstant quotation.asConstant quotation.name quotation.text :=
  ⟨[' '], [' '], [' '], quotation.quoted, rfl, ⟨Text.isBlank_space, by decide⟩,
    ⟨quotation.name_ne_nil, quotation.isWord_name⟩, Text.isBlank_space, Text.isBlank_space,
    h.isQuoted⟩

/-- Different names are different in a table. -/
theorem nodup_entries {α : Type} {items : List α} {held : α → Quotation} (h : (items.map fun item => (held item).name).Nodup) :
    ((items.map fun item => (held item).entry).map Prod.fst).Nodup := by
  have hnames := List.Nodup.map (fun _ _ hsame => String.ofList_injective hsame) h
  rwa [List.map_map] at hnames ⊢

end Quotation

end Variables

end Showcase
