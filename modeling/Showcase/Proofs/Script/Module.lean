import Showcase.Proofs.Pattern.Line
import Showcase.Proofs.Script.Name

/-!
# Sources without module syntax

A source of import statements, each on a line of its own, and of lines of code behind them. Of such a source the import
statements are removed, and from a declaration the words that export it; every other line stays as it is. None of the
patterns reads beyond a line of it, although blanks in them may be newlines.
-/

namespace Showcase.Script

open Pattern

/-! ## Lines of a source -/

/-- An import statement on a line of its own: of a module for its effect alone, or of what a clause names. -/
structure ImportLine where
  lead : List Char
  clause? : Option (List Char)
  quote : Char
  name : List Char
  isEnded : Bool
  trail : List Char
  isIndent_lead : ∀ c ∈ lead, isIndent c = true
  isClause : ∀ clause, clause? = some clause → ∀ c ∈ clause, isStringQuote c = false ∧ c ≠ ';' ∧ c ≠ '\n'
  isQuote : isStringQuote quote = true
  ne_nil : name ≠ []
  isName : ∀ c ∈ name, isStringQuote c = false ∧ c ≠ '\n'
  isIndent_trail : ∀ c ∈ trail, isIndent c = true

namespace ImportLine

/-- What stands between the word import and the name of the module. -/
def clauseText : Option (List Char) → List Char
  | none => []
  | some clause => clause ++ " from ".toList

/-- A statement up to the name of the module. -/
def front (line : ImportLine) : List Char := line.lead ++ ("import ".toList ++ clauseText line.clause?)

/-- What stands behind the name of the module. -/
def ending (line : ImportLine) : List Char := (if line.isEnded then [';'] else []) ++ line.trail

/-- A statement as it is written. -/
def written (line : ImportLine) : List Char :=
  line.front ++ line.quote :: (line.name ++ line.quote :: line.ending)

end ImportLine

/-- What a declaration begins with. -/
def declarationWords : List String := ["function ", "async function ", "const ", "let ", "var ", "class "]

/-- A line of code: one that begins with neither import nor export, or a declaration that is exported. -/
inductive CodeLine where
  | plain (text : List Char) (isLine : '\n' ∉ text)
      (isPlain : ∀ word ∈ ["import", "export"], ¬word.toList <+: text.dropWhile isIndent)
  | exported (lead : List Char) (isDefault : Bool) (word : String) (first : Char) (others : List Char)
      (isIndent_lead : ∀ c ∈ lead, isIndent c = true) (isDeclaration : word ∈ declarationWords)
      (isName : isNamePart first = true) (isLine : '\n' ∉ others)

namespace CodeLine

/-- The word default, if there is one. -/
def defaultText (isDefault : Bool) : List Char := if isDefault then "default ".toList else []

/-- A line as it is written. -/
def written : CodeLine → List Char
  | plain text _ _ => text
  | exported lead isDefault word first others _ _ _ _ =>
    lead ++ ("export ".toList ++ (defaultText isDefault ++ (word.toList ++ first :: others)))

/-- A line without the words that export it. -/
def bare : CodeLine → List Char
  | plain text _ _ => text
  | exported lead _ word first others _ _ _ _ => lead ++ (word.toList ++ first :: others)

end CodeLine

/-! ## Kinds of characters -/

theorem isBlank_of_isIndent {c : Char} (hc : isIndent c = true) : Text.isBlank c = true := by
  simp only [isIndent, Bool.or_eq_true, beq_iff_eq] at hc
  rcases hc with rfl | rfl <;> decide

theorem newline_not_mem_of_isIndent {s : List Char} (hs : ∀ c ∈ s, isIndent c = true) : '\n' ∉ s :=
  fun hin => absurd (hs _ hin) (by decide)

theorem isStringQuote_of_isIndent {c : Char} (hc : isIndent c = true) : isStringQuote c = false := by
  simp only [isIndent, Bool.or_eq_true, beq_iff_eq] at hc
  rcases hc with rfl | rfl <;> rfl

theorem outside_quotes {c : Char} : outside "'\"" c = true ↔ isStringQuote c = false := by
  simp [outside, isStringQuote]

theorem reads_indent_cons {others : List Pattern} {before : Option Char} {stretch rest : List Char}
    {found : List (Nat × List Char)} : (sequence (indent :: others)).Reads before stretch rest found ↔
      ∃ lead tail, stretch = lead ++ tail ∧ (∀ c ∈ lead, isIndent c = true) ∧
        (sequence others).Reads (beforeAfter before lead) tail rest found := by
  rw [indent, reads_many_cons]
  simp only [Nat.zero_le, and_true]

/-! ## Import statements -/

section

variable {before : Option Char} {stretch rest : List Char} {found : List (Nat × List Char)}

/-- There is one way to split a text at its first quote. -/
theorem quote_unique {front other later behind : List Char} {quote quote' : Char}
    (hfront : ∀ c ∈ front, isStringQuote c = false) (hother : ∀ c ∈ other, isStringQuote c = false)
    (hquote : isStringQuote quote = true) (hquote' : isStringQuote quote' = true)
    (h : front ++ quote :: behind = other ++ quote' :: later) : front = other ∧ quote = quote' ∧ behind = later := by
  have hunquoted : ∀ {s : List Char}, (∀ c ∈ s, isStringQuote c = false) → ∀ c ∈ s, (!isStringQuote c) = true := by
    intro s hs c hc
    rw [hs c hc, Bool.not_false]
  have hstops : ∀ {c : Char} (s : List Char), isStringQuote c = true →
      ∀ d, (c :: s).head? = some d → (!isStringQuote d) = false := by
    intro c s hc
    exact Text.of_head_cons (by rw [hc, Bool.not_true]) s
  obtain ⟨hsame, hbehind⟩ := Text.stretch_unique (hunquoted hfront) (hunquoted hother) (hstops behind hquote)
    (hstops later hquote') h
  exact ⟨hsame, List.cons.inj hbehind⟩

/-- The name of a module stands between quotes, and nothing but a semicolon and indentation behind it. -/
theorem exists_of_reads_moduleName (h : (sequence moduleName).Reads before stretch rest found) :
    ∃ quote name quote' tail, stretch = quote :: (name ++ quote' :: tail) ∧ isStringQuote quote = true ∧
      (∀ c ∈ name, isStringQuote c = false) ∧ isStringQuote quote' = true ∧ '\n' ∉ tail ∧ EndsLine rest := by
  simp only [moduleName, reads_one_cons, reads_many_cons, reads_optional_char_cons, reads_indent_cons,
    reads_lineEnd_cons, reads_sequence_nil] at h
  obtain ⟨quote, _, rfl, hquote, name, _, rfl, ⟨hname, -⟩, quote', tail, rfl, hquote', htail⟩ := h
  refine ⟨quote, name, quote', tail, rfl, hquote, fun c hc => outside_quotes.mp (hname c hc), hquote', ?_⟩
  rcases htail with ⟨_, rfl, trail, _, rfl, htrail, hend, rfl, -⟩ | ⟨trail, _, rfl, htrail, hend, rfl, -⟩
  · refine ⟨?_, by simpa using hend⟩
    simpa using newline_not_mem_of_isIndent htrail
  · exact ⟨by simpa using newline_not_mem_of_isIndent htrail, by simpa using hend⟩

/-- A stretch up to the end of a line, with one name between quotes in it. -/
def QuotesName (stretch rest : List Char) : Prop :=
  ∃ front quote name quote' tail, stretch = front ++ quote :: (name ++ quote' :: tail) ∧
    (∀ c ∈ front, isStringQuote c = false) ∧ isStringQuote quote = true ∧
    (∀ c ∈ name, isStringQuote c = false) ∧ isStringQuote quote' = true ∧ '\n' ∉ tail ∧ EndsLine rest

/-- An import statement takes a stretch with the name of a module in it, up to the end of a line. -/
theorem quotesName_of_reads (h : importStatement.Reads before stretch rest found) : QuotesName stretch rest := by
  have hindent : indent.Takes fun c => !isStringQuote c := by
    intro c hc
    simp only [isStringQuote_of_isIndent hc, Bool.not_false]
  have hblank : ∀ c, Text.isBlank c = true → (!isStringQuote c) = true := by
    intro c hc
    by_contra hquote
    simp only [isStringQuote, Bool.not_eq_true', Bool.not_eq_false, Bool.or_eq_true, beq_iff_eq] at hquote
    rcases hquote with rfl | rfl <;> exact absurd hc (by decide)
  have houtside : ∀ c, outside ";'\"" c = true → (!isStringQuote c) = true := by
    intro c hc
    simp only [outside, Bool.not_eq_true', ← Bool.not_eq_true] at hc
    simp_all [isStringQuote]
  have hword : ∀ {s : String}, s.toList.all (fun c => !isStringQuote c) = true →
      (literal s).Takes fun c => !isStringQuote c := takes_literal
  -- both kinds of statement are a front without quotes and the name of a module
  have hparts : ∀ {front : List Pattern}, (sequence front).Takes (fun c => !isStringQuote c) →
      (sequence (front ++ moduleName)).Reads before stretch rest found → QuotesName stretch rest := by
    intro front hfront hreads
    obtain ⟨head, _, _, _, rfl, hhead, htail, -⟩ := reads_sequence_append.mp hreads
    obtain ⟨quote, name, quote', tail, rfl, hquote, hname, hquote', hend⟩ := exists_of_reads_moduleName htail
    exact ⟨head, quote, name, quote', tail, rfl, fun c hc => by simpa using hfront.forall_mem hhead c hc, hquote,
      hname, hquote', hend⟩
  rcases h with hbare | hnamed
  · exact @hparts [lineStart, indent, literal "import", someBlanks]
      ⟨trivial, hindent, hword (by decide), hblank, trivial⟩ hbare
  · exact @hparts [lineStart, indent, literal "import", someBlanks, optional (seq (literal "type") someBlanks),
        few (outside ";'\"") 0, wordEdge, literal "from", blanks]
      ⟨trivial, hindent, hword (by decide), hblank, ⟨⟨hword (by decide), hblank⟩, trivial⟩, houtside, trivial,
        hword (by decide), hblank, trivial⟩ hnamed

namespace ImportLine

variable (line : ImportLine)

theorem newline_not_mem_ending : '\n' ∉ line.ending := by
  have htrail := newline_not_mem_of_isIndent line.isIndent_trail
  cases hended : line.isEnded <;> simp [ending, hended, htrail]

theorem isStringQuote_front : ∀ c ∈ line.front, isStringQuote c = false := by
  have hfrom : (" from ".toList.all fun c => decide (isStringQuote c = false)) = true := by decide
  have himport : ("import ".toList.all fun c => decide (isStringQuote c = false)) = true := by decide
  have hclause : ∀ c ∈ clauseText line.clause?, isStringQuote c = false := by
    intro c hc
    cases hclause : line.clause? with
    | none => simp [hclause, clauseText] at hc
    | some clause =>
      rw [hclause, clauseText] at hc
      rcases List.mem_append.mp hc with hin | hin
      · exact (line.isClause clause hclause c hin).1
      · exact Text.forall_mem_of_all hfrom c hin
  intro c hc
  rw [front, List.mem_append, List.mem_append] at hc
  rcases hc with hin | hin | hin
  · exact isStringQuote_of_isIndent (line.isIndent_lead c hin)
  · exact Text.forall_mem_of_all himport c hin
  · exact hclause c hin

/-- Whatever an import statement takes at the start of such a line is the line. -/
theorem eq_of_quotesName (hrest : EndsLine rest) {other later : List Char} (hother : QuotesName other later)
    (h : line.written ++ rest = other ++ later) : other = line.written := by
  obtain ⟨front, quote, name, quote', tail, rfl, hfront, hquote, hname, hquote', htail, hlater⟩ := hother
  simp only [written, List.append_assoc, List.cons_append] at h
  obtain ⟨hsame, rfl, hbehind⟩ := quote_unique line.isStringQuote_front hfront line.isQuote hquote h
  obtain ⟨rfl, rfl, hend⟩ := quote_unique (fun c hc => (line.isName c hc).1) hname line.isQuote hquote' hbehind
  rw [written, hsame, hrest.unique line.newline_not_mem_ending htail hlater hend]

theorem reads_moduleName (hrest : EndsLine rest) :
    (sequence moduleName).Reads before (line.quote :: (line.name ++ line.quote :: line.ending)) rest [] := by
  simp only [moduleName, reads_one_cons, reads_many_cons, reads_optional_char_cons, reads_indent_cons,
    reads_lineEnd_cons, reads_sequence_nil]
  refine ⟨line.quote, _, rfl, line.isQuote, line.name, _, rfl, ⟨?_, ?_⟩, line.quote, _, rfl, line.isQuote, ?_⟩
  · exact fun c hc => outside_quotes.mpr (line.isName c hc).1
  · exact List.length_pos_iff.mpr line.ne_nil
  · cases hended : line.isEnded with
    | false => exact .inr ⟨line.trail, [], by simp [ending, hended], line.isIndent_trail, hrest, rfl, trivial⟩
    | true =>
      exact .inl ⟨line.trail, by simp [ending, hended], line.trail, [], by simp, line.isIndent_trail, hrest, rfl, trivial⟩

/-- An import statement reads such a line. -/
theorem reads (hbefore : StartsLine before) (hrest : EndsLine rest) :
    importStatement.Reads before line.written rest [] := by
  -- an import without a clause is bare
  cases hclause : line.clause? with
  | none =>
    left
    simp only [bareImport, List.cons_append, List.nil_append, reads_lineStart_cons, reads_indent_cons,
      reads_literal_cons, reads_someBlanks_cons]
    refine ⟨hbefore, line.lead, _, ?_, line.isIndent_lead, _, rfl, [' '], _, rfl, ⟨Text.isBlank_space, nofun⟩,
      line.reads_moduleName hrest⟩
    simp [written, front, hclause, clauseText]
  | some clause =>
    right
    simp only [namedImport, List.cons_append, List.nil_append, reads_lineStart_cons, reads_indent_cons,
      reads_literal_cons, reads_someBlanks_cons, reads_optional_cons, reads_few_cons, reads_many_cons,
      reads_wordEdge_cons, reads_blanks_cons]
    refine ⟨hbefore, line.lead, _, ?_, line.isIndent_lead, _, rfl, [' '], _, rfl, ⟨Text.isBlank_space, nofun⟩, .inr
      ⟨clause ++ [' '], _, rfl, ⟨?_, Nat.zero_le _⟩, ?_, _, rfl, [' '], _, rfl, Text.isBlank_space, line.reads_moduleName hrest⟩⟩
    · simp [written, front, hclause, clauseText]
    · intro c hc
      rcases List.mem_append.mp hc with hin | hin
      · obtain ⟨hquote, hsemicolon, -⟩ := line.isClause clause hclause c hin
        simp [isStringQuote] at hquote
        simp [outside, hquote, hsemicolon]
      · obtain rfl := List.mem_singleton.mp hin
        decide
    · rw [beforeAfter_append]
      rfl

end ImportLine

/-! ## Lines that stay -/

/-- A pattern reads from the start of a line on, and first a word behind indentation. -/
def BeginsWith (pattern : Pattern) (word : String) : Prop :=
  ∀ before stretch rest found, pattern.Reads before stretch rest found → StartsLine before ∧
    ∃ lead tail, stretch = lead ++ (word.toList ++ tail) ∧ ∀ c ∈ lead, isIndent c = true

theorem BeginsWith.readsFromStart {pattern : Pattern} {word : String} (h : BeginsWith pattern word) :
    pattern.ReadsFromStart :=
  fun before stretch rest found hreads => (h before stretch rest found hreads).1

/-- Indentation ends with the line. -/
theorem dropWhile_isIndent_append (line : List Char) (hrest : EndsLine rest) :
    (line ++ rest).dropWhile isIndent = line.dropWhile isIndent ++ rest := by
  rw [List.dropWhile_append]
  split
  · rename_i hempty
    rw [List.isEmpty_iff.mp hempty, List.nil_append]
    cases rest with
    | nil => rfl
    | cons c rest =>
      rw [hrest.head, List.dropWhile_cons]
      rfl
  · rfl

/-- A line that begins with another word stays. -/
theorem BeginsWith.turns_self {pattern : Pattern} {word : String} (h : BeginsWith pattern word)
    (hword : ∀ c ∈ word.toList, isIndent c = false ∧ c ≠ '\n') (hne : word.toList ≠ []) {line : List Char}
    (hline : ¬word.toList <+: line.dropWhile isIndent) (replacement : Match → List Char) :
    Turns pattern replacement line line := by
  apply Turns.kept
  intro before rest hbefore hrest stretch behind found hsplit hreads
  obtain ⟨-, lead, tail, rfl, hlead⟩ := h before stretch behind found hreads
  have hdrop : (lead ++ (word.toList ++ tail) ++ behind).dropWhile isIndent = word.toList ++ (tail ++ behind) := by
    obtain ⟨c, others, hcons⟩ := List.exists_cons_of_ne_nil hne
    have hc := (hword c (hcons ▸ List.mem_cons_self)).1
    rw [List.append_assoc, List.append_assoc, List.dropWhile_append_of_pos hlead, hcons, List.cons_append,
      List.dropWhile_cons, hc]
    rfl
  rw [← hsplit, dropWhile_isIndent_append line hrest] at hdrop
  rcases List.append_eq_append_iff.mp hdrop with ⟨inside, hsame, hinside⟩ | ⟨inside, hsame, -⟩
  · -- what of the word is behind the line would begin with the newline
    cases inside with
    | nil => exact hline ⟨[], by rw [List.append_nil, hsame, List.append_nil]⟩
    | cons c inside =>
      rw [hinside, List.cons_append] at hrest
      exact (hword c (hsame ▸ by simp)).2 hrest.head
  · exact hline ⟨inside, hsame.symm⟩

theorem beginsWith_importStatement : BeginsWith importStatement "import" := by
  rintro before stretch rest found (hbare | hnamed)
  · obtain ⟨hbefore, lead, _, rfl, hlead, tail, rfl, -⟩ := by
      simpa only [bareImport, List.cons_append, reads_lineStart_cons, reads_indent_cons, reads_literal_cons] using hbare
    exact ⟨hbefore, lead, tail, rfl, hlead⟩
  · obtain ⟨hbefore, lead, _, rfl, hlead, tail, rfl, -⟩ := by
      simpa only [namedImport, List.cons_append, reads_lineStart_cons, reads_indent_cons, reads_literal_cons] using hnamed
    exact ⟨hbefore, lead, tail, rfl, hlead⟩

/-- What the default export of a name takes: a name behind the two words, and no name behind that. -/
theorem exists_of_reads_defaultExport (h : defaultExport.Reads before stretch rest found) :
    StartsLine before ∧ ∃ lead gap gap' name closing,
      stretch = lead ++ ("export".toList ++ (gap ++ ("default".toList ++ (gap' ++ (name ++ closing))))) ∧
      (∀ c ∈ lead, isIndent c = true) ∧ (∀ c ∈ gap, Text.isBlank c = true) ∧ (∀ c ∈ gap', Text.isBlank c = true) ∧
      IsName name ∧ (∀ c ∈ closing, isNamePart c = false) ∧ EndsLine rest := by
  simp only [defaultExport, reads_lineStart_cons, reads_indent_cons, reads_literal_cons, reads_someBlanks_cons,
    reads_identifier_cons, reads_blanks_cons, reads_optional_char_cons, reads_lineEnd_cons, reads_sequence_nil] at h
  obtain ⟨hbefore, lead, _, rfl, hlead, _, rfl, gap, _, rfl, ⟨hgap, -⟩, _, rfl, gap', _, rfl, ⟨hgap', -⟩, name, _, rfl,
    hname, space, tail, rfl, hspace, htail⟩ := h
  have hblank : ∀ {s : List Char}, (∀ c ∈ s, Text.isBlank c = true) → ∀ c ∈ s, isNamePart c = false :=
    fun hs c hc => isNamePart_of_isBlank (hs c hc)
  have hindent : ∀ {s : List Char}, (∀ c ∈ s, isIndent c = true) → ∀ c ∈ s, isNamePart c = false :=
    fun hs => hblank fun c hc => isBlank_of_isIndent (hs c hc)
  -- behind the name are blanks, with a semicolon among them or without one
  rcases htail with ⟨_, rfl, trail, _, rfl, htrail, hend, rfl, -⟩ | ⟨trail, _, rfl, htrail, hend, rfl, -⟩
  · refine ⟨hbefore, lead, gap, gap', name, _, rfl, hlead, hgap, hgap', hname, ?_, by simpa using hend⟩
    intro c hc
    simp only [List.append_nil, List.mem_append, List.mem_cons] at hc
    rcases hc with hin | rfl | hin
    · exact hblank hspace c hin
    · decide
    · exact hindent htrail c hin
  · refine ⟨hbefore, lead, gap, gap', name, _, rfl, hlead, hgap, hgap', hname, ?_, by simpa using hend⟩
    intro c hc
    simp only [List.append_nil, List.mem_append] at hc
    rcases hc with hin | hin
    · exact hblank hspace c hin
    · exact hindent htrail c hin

theorem beginsWith_defaultExport : BeginsWith defaultExport "export" := by
  intro before stretch rest found h
  obtain ⟨hbefore, lead, _, _, _, _, rfl, hlead, -⟩ := exists_of_reads_defaultExport h
  exact ⟨hbefore, lead, _, rfl, hlead⟩

/-- What an export list begins with. -/
theorem exists_of_reads_exportList (h : exportList.Reads before stretch rest found) :
    StartsLine before ∧ ∃ lead gap tail, stretch = lead ++ ("export".toList ++ (gap ++ '\x7b' :: tail)) ∧
      (∀ c ∈ lead, isIndent c = true) ∧ ∀ c ∈ gap, Text.isBlank c = true := by
  simp only [exportList, reads_lineStart_cons, reads_indent_cons, reads_literal_cons, reads_blanks_cons,
    reads_char_cons] at h
  obtain ⟨hbefore, lead, _, rfl, hlead, _, rfl, gap, _, rfl, hgap, tail, rfl, -⟩ := h
  exact ⟨hbefore, lead, gap, tail, rfl, hlead, hgap⟩

theorem beginsWith_exportList : BeginsWith exportList "export" := by
  intro before stretch rest found h
  obtain ⟨hbefore, lead, _, _, rfl, hlead, -⟩ := exists_of_reads_exportList h
  exact ⟨hbefore, lead, _, rfl, hlead⟩

/-- The letters that declarations begin with. -/
def declarationLetters : List Char := ['a', 'f', 'c', 'l', 'v']

theorem isBlank_of_declarationLetter : ∀ c ∈ declarationLetters, Text.isBlank c = false :=
  Text.forall_mem_of_all (by decide)

theorem head_of_reads_declaration (h : declaration.Reads before stretch rest found) :
    ∃ c tail, stretch = c :: tail ∧ c ∈ declarationLetters := by
  rcases h with hfunction | hconst | hlet | hvar | hclass
  · simp only [reads_optional_cons, reads_literal_someBlanks_iff, reads_literal_cons] at hfunction
    rcases hfunction with ⟨_, tail, _, later, rfl, ⟨gap, rfl, -⟩, -⟩ | ⟨tail, rfl, -⟩
    · exact ⟨'a', _, rfl, by decide⟩
    · exact ⟨'f', _, rfl, by decide⟩
  all_goals
    obtain ⟨_, tail, _, _, rfl, hword, -⟩ := ‹Reads (seq _ _) _ _ _ _›
    obtain ⟨rfl, -⟩ := reads_literal_iff.mp hword
    exact ⟨_, _, rfl, by decide⟩

/-- What is read of an exported declaration: the words that export it, and ahead of them a declaration. -/
theorem exists_of_reads_exportKeyword (h : exportKeyword.Reads before stretch rest found) :
    StartsLine before ∧ ∃ lead gap words, stretch = lead ++ ("export".toList ++ (gap ++ words)) ∧
      (∀ c ∈ lead, isIndent c = true) ∧ (∀ c ∈ gap, Text.isBlank c = true) ∧ found = [(1, lead)] ∧
      (words = [] ∨ ∃ gap', words = "default".toList ++ gap' ∧ ∀ c ∈ gap', Text.isBlank c = true) ∧
      ∃ c tail, rest = c :: tail ∧ c ∈ declarationLetters := by
  have hahead : ∀ {before : Option Char} {stretch : List Char} {found : List (Nat × List Char)},
      (sequence [ahead declaration]).Reads before stretch rest found →
        stretch = [] ∧ found = [] ∧ ∃ c tail, rest = c :: tail ∧ c ∈ declarationLetters := by
    intro before stretch found hreads
    obtain ⟨_, _, _, _, rfl, ⟨⟨head, tail, _, hrest, hdeclaration⟩, rfl, rfl⟩, ⟨rfl, rfl⟩, rfl⟩ :=
      reads_sequence_iff.mp hreads
    obtain ⟨c, later, rfl, hc⟩ := head_of_reads_declaration hdeclaration
    exact ⟨rfl, rfl, c, later ++ tail, by simpa using hrest, hc⟩
  simp only [exportKeyword, reads_lineStart_cons, reads_capture_cons, reads_literal_cons, reads_someBlanks_cons,
    reads_optional_cons, reads_literal_someBlanks_iff] at h
  obtain ⟨hbefore, lead, _, _, _, rfl, ⟨hlead, -, rfl⟩, ⟨_, rfl, gap, words, rfl, ⟨hgap, -⟩, hwords⟩, rfl⟩ := h
  refine ⟨hbefore, lead, gap, words, rfl, hlead, hgap, ?_⟩
  rcases hwords with ⟨_, tail, _, later, rfl, ⟨gap', rfl, ⟨hgap', -⟩, rfl⟩, htail, rfl⟩ | htail
  · obtain ⟨rfl, rfl, hnext⟩ := hahead htail
    exact ⟨rfl, .inr ⟨gap', List.append_nil _, hgap'⟩, hnext⟩
  · obtain ⟨rfl, rfl, hnext⟩ := hahead htail
    exact ⟨rfl, .inl rfl, hnext⟩

theorem beginsWith_exportKeyword : BeginsWith exportKeyword "export" := by
  intro before stretch rest found h
  obtain ⟨hbefore, lead, _, _, rfl, hlead, -⟩ := exists_of_reads_exportKeyword h
  exact ⟨hbefore, lead, _, rfl, hlead⟩

/-! ## Exported declarations -/

/-- The keywords that declarations begin with. -/
def keywords : List String := ["function", "async", "const", "let", "var", "class"]

/-- A text that begins with a keyword, a space and a character of a name. -/
def IsDeclaration (body : List Char) : Prop :=
  ∃ keyword ∈ keywords, ∃ next more, body = keyword.toList ++ ' ' :: next :: more ∧ isNamePart next = true

theorem isNamePart_keyword {keyword : String} (h : keyword ∈ keywords) : ∀ c ∈ keyword.toList, isNamePart c = true := by
  have hall : ∀ keyword ∈ keywords, (keyword.toList.all fun c => decide (isNamePart c = true)) = true := by decide
  exact Text.forall_mem_of_all (hall keyword h)

theorem exists_letter {keyword : String} (h : keyword ∈ keywords) :
    ∃ c others, keyword.toList = c :: others ∧ c ∈ declarationLetters := by
  simp only [keywords, List.mem_cons, List.not_mem_nil, or_false] at h
  rcases h with rfl | rfl | rfl | rfl | rfl | rfl <;> exact ⟨_, _, rfl, by decide⟩

namespace IsDeclaration

variable {body : List Char}

theorem of_word {word : String} (hword : word ∈ declarationWords) {first : Char} (hfirst : isNamePart first = true)
    (others : List Char) : IsDeclaration (word.toList ++ first :: others) := by
  simp only [declarationWords, List.mem_cons, List.not_mem_nil, or_false] at hword
  rcases hword with rfl | rfl | rfl | rfl | rfl | rfl
  · exact ⟨"function", by decide, first, others, rfl, hfirst⟩
  · exact ⟨"async", by decide, 'f', "unction ".toList ++ first :: others, rfl, by decide⟩
  · exact ⟨"const", by decide, first, others, rfl, hfirst⟩
  · exact ⟨"let", by decide, first, others, rfl, hfirst⟩
  · exact ⟨"var", by decide, first, others, rfl, hfirst⟩
  · exact ⟨"class", by decide, first, others, rfl, hfirst⟩

theorem append (h : IsDeclaration body) (rest : List Char) : IsDeclaration (body ++ rest) := by
  obtain ⟨keyword, hkeyword, next, more, rfl, hnext⟩ := h
  exact ⟨keyword, hkeyword, next, more ++ rest, by simp, hnext⟩

theorem head (h : IsDeclaration body) : ∃ c tail, body = c :: tail ∧ c ∈ declarationLetters := by
  obtain ⟨keyword, hkeyword, next, more, rfl, -⟩ := h
  obtain ⟨c, others, hcons, hc⟩ := exists_letter hkeyword
  exact ⟨c, others ++ ' ' :: next :: more, by rw [hcons, List.cons_append], hc⟩

/-- A declaration is no name with nothing but blanks and a semicolon behind it on its line. -/
theorem not_closed (h : IsDeclaration body) {name closing : List Char} (hname : IsName name)
    (hclosing : ∀ c ∈ closing, isNamePart c = false) (hrest : EndsLine rest) : body ≠ name ++ (closing ++ rest) := by
  obtain ⟨keyword, hkeyword, next, more, rfl, hnext⟩ := h
  have hends : ∀ c, (closing ++ rest).head? = some c → isNamePart c = false := by
    cases closing with
    | cons c closing => exact Text.of_head_cons (hclosing c List.mem_cons_self) _
    | nil =>
      cases rest with
      | nil => exact nofun
      | cons c rest => exact Text.of_head_cons (by rw [hrest.head]; decide) rest
  intro hsame
  obtain ⟨-, hbehind⟩ := Text.stretch_unique (isNamePart_keyword hkeyword) hname.isNamePart
    (Text.of_head_cons (by decide) _) hends hsame
  -- the character of a name behind the space is neither in the closing nor at the end of the line
  rcases closing with _ | ⟨c, _ | ⟨d, closing⟩⟩
  · rw [List.nil_append] at hbehind
    rw [← hbehind] at hrest
    exact absurd hrest.head (by decide)
  · rw [List.singleton_append] at hbehind
    rw [← (List.cons.inj hbehind).2] at hrest
    rw [hrest.head] at hnext
    exact absurd hnext (by decide)
  · have hd : next = d := (List.cons.inj (List.cons.inj hbehind).2).1
    rw [hd, hclosing d (by simp)] at hnext
    cases hnext

end IsDeclaration

/-- A declaration behind indentation and the words that export it. -/
def exportedLine (lead : List Char) (isDefault : Bool) (body : List Char) : List Char :=
  lead ++ ("export ".toList ++ (CodeLine.defaultText isDefault ++ body))

theorem head_defaultText {body : List Char} (hbody : IsDeclaration body) (isDefault : Bool) :
    ∀ c, (CodeLine.defaultText isDefault ++ body).head? = some c → Text.isBlank c = false := by
  cases isDefault with
  | true => exact Text.of_head_cons (by decide) _
  | false =>
    obtain ⟨c, tail, rfl, hc⟩ := hbody.head
    exact Text.of_head_cons (isBlank_of_declarationLetter c hc) tail

theorem head_default (text : List Char) :
    ∀ c, ("default".toList ++ text).head? = some c → Text.isBlank c = false := Text.of_head_cons (by decide) _

/-- Indentation, the word export and the blanks behind it are found in one way only. -/
theorem export_unique {lead lead' gap text text' : List Char} (hlead : ∀ c ∈ lead, isIndent c = true)
    (hlead' : ∀ c ∈ lead', isIndent c = true) (hgap : ∀ c ∈ gap, Text.isBlank c = true)
    (htext : ∀ c, text.head? = some c → Text.isBlank c = false)
    (htext' : ∀ c, text'.head? = some c → Text.isBlank c = false)
    (h : lead ++ ("export ".toList ++ text) = lead' ++ ("export".toList ++ (gap ++ text'))) :
    lead = lead' ∧ gap = [' '] ∧ text = text' := by
  have hexport : ∀ (text : List Char), ∀ c, ("export".toList ++ text).head? = some c → isIndent c = false :=
    Text.of_head_cons (by decide)
  rw [show "export ".toList = "export".toList ++ [' '] from rfl, List.append_assoc] at h
  obtain ⟨hsame, hbehind⟩ := Text.stretch_unique hlead hlead' (hexport _) (hexport _) h
  obtain ⟨hblank, htexts⟩ := space_unique hgap htext' htext (List.append_cancel_left hbehind).symm
  exact ⟨hsame, hblank, htexts.symm⟩

/-- Behind the word default there is one space. -/
theorem default_unique {gap text text' : List Char} (hgap : ∀ c ∈ gap, Text.isBlank c = true)
    (htext : ∀ c, text.head? = some c → Text.isBlank c = false)
    (htext' : ∀ c, text'.head? = some c → Text.isBlank c = false)
    (h : "default ".toList ++ text = "default".toList ++ (gap ++ text')) : gap = [' '] ∧ text' = text := by
  rw [show "default ".toList = "default".toList ++ [' '] from rfl, List.append_assoc] at h
  exact space_unique hgap htext' htext (List.append_cancel_left h).symm

section

variable {lead body : List Char} (hlead : ∀ c ∈ lead, isIndent c = true) (hbody : IsDeclaration body) (isDefault : Bool)

include hlead hbody

/-- An exported declaration is no default export of a name. -/
theorem readsNothing_defaultExport (before : Option Char) :
    defaultExport.ReadsNothing before (exportedLine lead isDefault body) := by
  intro stretch rest found hsplit hreads
  obtain ⟨-, lead', gap, gap', name, closing, rfl, hlead', hgap, hgap', hname, hclosing, hrest⟩ :=
    exists_of_reads_defaultExport hreads
  simp only [exportedLine, List.append_assoc] at hsplit
  obtain ⟨-, -, htext⟩ := export_unique hlead hlead' hgap (head_defaultText hbody isDefault) (head_default _) hsplit
  cases isDefault with
  | false =>
    obtain ⟨c, tail, rfl, hc⟩ := hbody.head
    obtain rfl : c = 'd' := (List.cons.inj htext).1
    exact absurd hc (by decide)
  | true =>
    obtain ⟨-, hsame⟩ := default_unique hgap' (head_defaultText hbody false) (hname.head_isBlank _) htext
    exact hbody.not_closed hname hclosing hrest hsame.symm

/-- An exported declaration is no export list. -/
theorem readsNothing_exportList (before : Option Char) :
    exportList.ReadsNothing before (exportedLine lead isDefault body) := by
  intro stretch rest found hsplit hreads
  obtain ⟨-, lead', gap, tail, rfl, hlead', hgap⟩ := exists_of_reads_exportList hreads
  simp only [exportedLine, List.append_assoc, List.cons_append] at hsplit
  have hbrace : ∀ c, ('\x7b' :: (tail ++ rest)).head? = some c → Text.isBlank c = false :=
    Text.of_head_cons (by decide) _
  obtain ⟨-, -, htext⟩ := export_unique hlead hlead' hgap (head_defaultText hbody isDefault) hbrace hsplit
  cases isDefault with
  | true => exact absurd (List.cons.inj htext).1 (by decide)
  | false =>
    obtain ⟨c, tail, rfl, hc⟩ := hbody.head
    obtain rfl : c = '\x7b' := (List.cons.inj htext).1
    exact absurd hc (by decide)

/-- What is read of an exported declaration are its indentation and the words that export it, no more and no less. -/
theorem exportKeyword_unique {before : Option Char} {stretch rest : List Char} {found : List (Nat × List Char)}
    (hsplit : exportedLine lead isDefault body = stretch ++ rest)
    (hreads : exportKeyword.Reads before stretch rest found) :
    stretch = lead ++ ("export ".toList ++ CodeLine.defaultText isDefault) ∧ found = [(1, lead)] := by
  obtain ⟨-, lead', gap, words, rfl, hlead', hgap, rfl, hwords, c, tail, rfl, hc⟩ := exists_of_reads_exportKeyword hreads
  have hletter := isBlank_of_declarationLetter c hc
  have hd : 'd' ∉ declarationLetters := by decide
  simp only [exportedLine, List.append_assoc] at hsplit
  -- no declaration begins with the letter of the word for a default, so this word is read if it stands there
  rcases hwords with rfl | ⟨gap', rfl, hgap'⟩
  · obtain ⟨rfl, rfl, htext⟩ := export_unique hlead hlead' hgap (head_defaultText hbody isDefault)
      (Text.of_head_cons hletter tail) hsplit
    cases isDefault with
    | true =>
      obtain rfl : 'd' = c := (List.cons.inj htext).1
      exact absurd hc hd
    | false => exact ⟨rfl, rfl⟩
  · rw [List.append_assoc "default".toList] at hsplit
    obtain ⟨rfl, rfl, htext⟩ := export_unique hlead hlead' hgap (head_defaultText hbody isDefault) (head_default _)
      hsplit
    cases isDefault with
    | false =>
      obtain ⟨e, others, rfl, he⟩ := hbody.head
      obtain rfl : e = 'd' := (List.cons.inj htext).1
      exact absurd he hd
    | true =>
      obtain ⟨rfl, -⟩ := default_unique hgap' (head_defaultText hbody false) (Text.of_head_cons hletter tail) htext
      exact ⟨rfl, rfl⟩

end

/-- A declaration is read behind the words that export it. -/
theorem exists_reads_declaration {word : String} (hword : word ∈ declarationWords) (before : Option Char)
    (rest : List Char) :
    ∃ head tail inside, word.toList ++ rest = head ++ tail ∧ declaration.Reads before head tail inside := by
  have hplain : ∀ {keyword : String} {c : Char}, keyword.toList.getLast? = some c →
      Text.isWordEdge (some c) (some ' ') = true →
        (seq (literal keyword) wordEdge).Reads before keyword.toList (' ' :: rest) [] := by
    intro keyword c hlast hedge
    refine ⟨keyword.toList, [], [], [], (List.append_nil _).symm, reads_literal_iff.mpr ⟨rfl, rfl⟩, ⟨?_, rfl, rfl⟩, rfl⟩
    rw [beforeAfter, hlast]
    exact hedge
  have hfunction : ∀ before : Option Char,
      (sequence [literal "function", wordEdge]).Reads before "function".toList (' ' :: rest) [] := by
    intro before
    simp only [reads_literal_cons, reads_wordEdge_cons, reads_sequence_nil]
    exact ⟨[], rfl, rfl, rfl, trivial⟩
  simp only [declarationWords, List.mem_cons, List.not_mem_nil, or_false] at hword
  rcases hword with rfl | rfl | rfl | rfl | rfl | rfl
  · exact ⟨"function".toList, ' ' :: rest, [], rfl, .inl (reads_optional_cons.mpr (.inr (hfunction before)))⟩
  · refine ⟨"async function".toList, ' ' :: rest, [], rfl, .inl (reads_optional_cons.mpr (.inl ?_))⟩
    exact ⟨"async ".toList, "function".toList, [], [], rfl,
      reads_literal_someBlanks_iff.mpr ⟨[' '], rfl, ⟨Text.isBlank_space, nofun⟩, rfl⟩, hfunction _, rfl⟩
  · exact ⟨"const".toList, ' ' :: rest, [], rfl, .inr (.inl (@hplain "const" 't' (by decide) (by decide)))⟩
  · exact ⟨"let".toList, ' ' :: rest, [], rfl, .inr (.inr (.inl (@hplain "let" 't' (by decide) (by decide))))⟩
  · exact ⟨"var".toList, ' ' :: rest, [], rfl, .inr (.inr (.inr (.inl (@hplain "var" 'r' (by decide) (by decide)))))⟩
  · exact ⟨"class".toList, ' ' :: rest, [], rfl, .inr (.inr (.inr (.inr (@hplain "class" 's' (by decide) (by decide)))))⟩

/-- The words that export a declaration are read, and its indentation is captured. -/
theorem reads_exportKeyword (hbefore : StartsLine before) {lead : List Char} (hlead : ∀ c ∈ lead, isIndent c = true)
    (isDefault : Bool) {word : String} (hword : word ∈ declarationWords) (rest : List Char) :
    exportKeyword.Reads before (lead ++ ("export ".toList ++ CodeLine.defaultText isDefault)) (word.toList ++ rest)
      [(1, lead)] := by
  have hahead : ∀ before, (sequence [ahead declaration]).Reads before [] (word.toList ++ rest) [] := by
    intro before
    exact ⟨[], [], [], [], rfl, ⟨exists_reads_declaration hword before rest, rfl, rfl⟩, ⟨rfl, rfl⟩, rfl⟩
  have hspace : (∀ c ∈ [' '], Text.isBlank c = true) ∧ [' '] ≠ [] := ⟨Text.isBlank_space, nofun⟩
  simp only [exportKeyword, reads_lineStart_cons, reads_capture_cons, reads_literal_cons, reads_someBlanks_cons,
    reads_optional_cons, reads_literal_someBlanks_iff]
  refine ⟨hbefore, lead, _, [], [], rfl, ⟨hlead, Nat.zero_le _, rfl⟩, ⟨' ' :: CodeLine.defaultText isDefault, rfl, [' '],
    CodeLine.defaultText isDefault, rfl, hspace, ?_⟩, rfl⟩
  cases isDefault with
  | false => exact .inr (hahead _)
  | true => exact .inl ⟨"default ".toList, [], [], [], rfl, ⟨[' '], rfl, hspace, rfl⟩, hahead _, rfl⟩

end

/-! ## What becomes of lines -/

theorem ImportLine.newline_not_mem (line : ImportLine) : '\n' ∉ line.written := by
  have hquote : '\n' ≠ line.quote := by
    intro hnewline
    exact absurd (hnewline ▸ line.isQuote) (by decide)
  have hclause : '\n' ∉ clauseText line.clause? := by
    cases hclause : line.clause? with
    | none => exact List.not_mem_nil
    | some clause =>
      have hword : '\n' ∉ " from ".toList := by decide
      rw [clauseText, List.mem_append, not_or]
      exact ⟨fun hin => (line.isClause clause hclause _ hin).2.2 rfl, hword⟩
  have hword : '\n' ∉ "import ".toList := by decide
  have hname : '\n' ∉ line.name := fun hin => (line.isName _ hin).2 rfl
  simp only [written, front, List.mem_append, List.mem_cons, not_or]
  exact ⟨⟨newline_not_mem_of_isIndent line.isIndent_lead, hword, hclause⟩, hquote, hname, hquote,
    line.newline_not_mem_ending⟩

/-- An import statement is removed. -/
theorem ImportLine.turns (line : ImportLine) : Turns importStatement (fun _ => []) line.written [] := by
  have hne : line.written ≠ [] := by simp [written]
  apply @Turns.taken _ _ line.written line.written [] [] (List.append_nil _).symm hne
  · intro before rest hbefore hrest
    exact ⟨[], line.reads hbefore hrest⟩
  · intro before rest other later found hrest hsplit hreads
    exact ⟨line.eq_of_quotesName hrest (quotesName_of_reads hreads) hsplit, fun _ _ => rfl⟩

namespace CodeLine

theorem newline_not_mem (line : CodeLine) : '\n' ∉ line.written := by
  cases line with
  | plain text isLine isPlain => exact isLine
  | exported lead isDefault word first others isIndent_lead isDeclaration isName isLine =>
    have hexport : '\n' ∉ "export ".toList := by decide
    have hdefault : '\n' ∉ defaultText isDefault := by cases isDefault <;> decide
    have hword : '\n' ∉ word.toList := by
      have hall : ∀ word ∈ declarationWords, '\n' ∉ word.toList := by decide
      exact hall word isDeclaration
    have hfirst : '\n' ≠ first := by
      rintro rfl
      exact absurd isName (by decide)
    simp only [written, List.mem_append, List.mem_cons, not_or]
    exact ⟨newline_not_mem_of_isIndent isIndent_lead, hexport, hdefault, hword, hfirst, isLine⟩

/-- A line of code is no import statement. -/
theorem turns_importStatement (line : CodeLine) (replacement : Match → List Char) :
    Turns importStatement replacement line.written line.written := by
  apply beginsWith_importStatement.turns_self (Text.forall_mem_of_all (by decide)) (by decide)
  cases line with
  | plain text isLine isPlain => exact isPlain "import" (by decide)
  | exported lead isDefault word first others isIndent_lead isDeclaration isName isLine =>
    rw [written, List.dropWhile_append_of_pos isIndent_lead]
    rintro ⟨behind, hsame⟩
    exact absurd (List.cons.inj hsame).1 (by decide)

/-- A pattern for exports that finds nothing in exported declarations finds nothing in lines of code. -/
theorem turns_self {pattern : Pattern} (hbegins : BeginsWith pattern "export")
    (hexported : ∀ {lead body : List Char}, (∀ c ∈ lead, isIndent c = true) → IsDeclaration body →
      ∀ isDefault before, pattern.ReadsNothing before (exportedLine lead isDefault body))
    (line : CodeLine) (replacement : Match → List Char) : Turns pattern replacement line.written line.written := by
  cases line with
  | plain text isLine isPlain =>
    exact hbegins.turns_self (Text.forall_mem_of_all (by decide)) (by decide) (isPlain "export" (by decide)) replacement
  | exported lead isDefault word first others isIndent_lead isDeclaration isName isLine =>
    apply Turns.kept
    intro before rest _ _
    have hbody := (IsDeclaration.of_word isDeclaration isName others).append rest
    simpa [written, exportedLine] using hexported isIndent_lead hbody isDefault before

/-- A line loses the words that export it. -/
theorem turns_bare (line : CodeLine) :
    Turns exportKeyword (fun found => found.captured 1) line.written line.bare := by
  cases line with
  | plain text isLine isPlain =>
    exact beginsWith_exportKeyword.turns_self (Text.forall_mem_of_all (by decide)) (by decide)
      (isPlain "export" (by decide)) _
  | exported lead isDefault word first others isIndent_lead isDeclaration isName isLine =>
    have hbody := IsDeclaration.of_word isDeclaration isName others
    refine @Turns.taken _ _ _ (lead ++ ("export ".toList ++ defaultText isDefault)) (word.toList ++ first :: others) lead
      (by simp [written]) (by simp) ?_ ?_
    · intro before rest hbefore _
      have hreads := reads_exportKeyword hbefore isIndent_lead isDefault isDeclaration (first :: (others ++ rest))
      exact ⟨[(1, lead)], by simpa using hreads⟩
    · intro before rest other later found _ hsplit hreads
      obtain ⟨rfl, rfl⟩ := exportKeyword_unique isIndent_lead (hbody.append rest) isDefault
        (by simpa [written, exportedLine] using hsplit) hreads
      refine ⟨rfl, ?_⟩
      intro m htells
      rw [Match.captured, htells.captured?]
      rfl

end CodeLine

/-! ## Sources -/

/-- What is left of the lines of a source when something becomes of each of them. -/
theorem forall₂_append_map {pattern : Pattern} {replacement : Match → List Char} {α β : Type}
    {first : List α} {second : List β} {f f' : α → List Char} {g g' : β → List Char}
    (hfirst : ∀ line ∈ first, Turns pattern replacement (f line) (f' line))
    (hsecond : ∀ line ∈ second, Turns pattern replacement (g line) (g' line)) :
    List.Forall₂ (Turns pattern replacement) (first.map f ++ second.map g) (first.map f' ++ second.map g') := by
  induction first with
  | nil =>
    rw [List.map_nil, List.map_nil, List.nil_append, List.nil_append, List.forall₂_map_left_iff,
      List.forall₂_map_right_iff, List.forall₂_same]
    exact hsecond
  | cons line first ih =>
    exact .cons (hfirst line List.mem_cons_self) (ih fun other hother => hfirst other (List.mem_cons_of_mem line hother))

/-- Empty lines ahead are stripped. -/
theorem trim_empty_lines {α : Type} (first : List α) (lines : List (List Char)) :
    Text.trim (List.intercalate ['\n'] (first.map (fun _ => []) ++ lines)) = Text.trim (List.intercalate ['\n'] lines) := by
  induction first with
  | nil => rfl
  | cons line first ih =>
    rw [List.map_cons, List.cons_append, ← ih]
    by_cases hnone : first.map (fun _ => []) ++ lines = []
    · rw [hnone, List.intercalate_singleton]
      rfl
    · rw [Text.intercalate_cons_of_ne_nil hnone, List.nil_append, ← List.singleton_append]
      exact Text.stripWhile_append_left (Text.forall_mem_of_all (by decide))

/-- Of a source with import statements ahead and lines of code behind them, what is left are the lines of code, without the
words that export declarations and without blanks at the two ends. -/
theorem withoutModuleSyntax_lines (imports : List ImportLine) (code : List CodeLine) :
    withoutModuleSyntax (String.ofList (List.intercalate ['\n']
        (imports.map ImportLine.written ++ code.map CodeLine.written))) =
      String.ofList (Text.trim (List.intercalate ['\n'] (code.map CodeLine.bare))) := by
  have hempty : ∀ {pattern : Pattern} (replacement : Match → List Char), BeginsWith pattern "export" →
      ∀ line ∈ imports, Turns pattern replacement [] [] := by
    intro pattern replacement hbegins line _
    exact hbegins.turns_self (Text.forall_mem_of_all (by decide)) (by decide) (by decide) replacement
  have hlines : ∀ line ∈ imports.map (fun _ => []) ++ code.map CodeLine.written, '\n' ∉ line := by
    intro line hline
    rcases List.mem_append.mp hline with hin | hin
    · obtain ⟨_, -, rfl⟩ := List.mem_map.mp hin
      exact List.not_mem_nil
    · obtain ⟨line, -, rfl⟩ := List.mem_map.mp hin
      exact line.newline_not_mem
  -- the import statements become empty lines
  have himports : importStatement.replaceAll (fun _ => []) (List.intercalate ['\n']
      (imports.map ImportLine.written ++ code.map CodeLine.written)) =
        List.intercalate ['\n'] (imports.map (fun _ => []) ++ code.map CodeLine.written) := by
    apply beginsWith_importStatement.readsFromStart.replaceAll_lines
    · intro line hline
      rcases List.mem_append.mp hline with hin | hin
      · obtain ⟨line, -, rfl⟩ := List.mem_map.mp hin
        exact line.newline_not_mem
      · exact hlines line (List.mem_append_right _ hin)
    · exact forall₂_append_map (fun line _ => line.turns) fun line _ => line.turns_importStatement _
  -- no line exports a name or a list of names
  have hstays : ∀ {pattern : Pattern}, BeginsWith pattern "export" →
      (∀ {lead body : List Char}, (∀ c ∈ lead, isIndent c = true) → IsDeclaration body →
        ∀ isDefault before, pattern.ReadsNothing before (exportedLine lead isDefault body)) →
      pattern.replaceAll (fun _ => []) (List.intercalate ['\n'] (imports.map (fun _ => []) ++ code.map CodeLine.written)) =
        List.intercalate ['\n'] (imports.map (fun _ => []) ++ code.map CodeLine.written) := by
    intro pattern hbegins hexported
    apply hbegins.readsFromStart.replaceAll_lines hlines
    exact forall₂_append_map (hempty _ hbegins) fun line _ => line.turns_self hbegins hexported _
  -- declarations lose the words that export them
  have hbare : exportKeyword.replaceAll (fun found => found.captured 1) (List.intercalate ['\n']
      (imports.map (fun _ => []) ++ code.map CodeLine.written)) =
        List.intercalate ['\n'] (imports.map (fun _ => []) ++ code.map CodeLine.bare) := by
    apply beginsWith_exportKeyword.readsFromStart.replaceAll_lines hlines
    exact forall₂_append_map (hempty _ beginsWith_exportKeyword) fun line _ => line.turns_bare
  simp only [withoutModuleSyntax, String.toList_ofList, himports, hstays beginsWith_defaultExport
    readsNothing_defaultExport, hstays beginsWith_exportList readsNothing_exportList, hbare, trim_empty_lines]

/-- An import of names from a module. -/
def reactImport : ImportLine where
  lead := []
  clause? := some "React, \x7b useState \x7d".toList
  quote := '\''
  name := "react".toList
  isEnded := true
  trail := [' ']
  isIndent_lead := Text.forall_mem_of_all (by decide)
  isClause := by
    intro clause hclause
    obtain rfl := Option.some.inj hclause
    exact Text.forall_mem_of_all (by decide)
  isQuote := by decide
  ne_nil := by decide
  isName := Text.forall_mem_of_all (by decide)
  isIndent_trail := Text.forall_mem_of_all (by decide)

/-- An import of a module for its effects. -/
def styleImport : ImportLine where
  lead := [' ']
  clause? := none
  quote := '"'
  name := "./hero.css".toList
  isEnded := false
  trail := []
  isIndent_lead := Text.forall_mem_of_all (by decide)
  isClause := fun _ hclause => nomatch hclause
  isQuote := by decide
  ne_nil := by decide
  isName := Text.forall_mem_of_all (by decide)
  isIndent_trail := Text.forall_mem_of_all (by decide)

/-- Lines of a component that is exported, with a constant that is. -/
def exportedLines : List CodeLine :=
  [.plain [] (by decide) (by decide),
    .exported [] false "const " 's' "ize = 2; // export".toList (by simp) (by decide) (by decide) (by decide),
    .exported ['\t'] true "function " 'H' "ero() \x7b".toList (Text.forall_mem_of_all (by decide)) (by decide) (by decide)
      (by decide),
    .plain "  return size; \x7d".toList (by decide) (by decide)]

/-- Two imports and the words that export are taken out of a source. -/
theorem withoutModuleSyntax_exportedLines :
    withoutModuleSyntax ("import React, \x7b useState \x7d from 'react'; \n import \"./hero.css\"\n\n" ++
        "export const size = 2; // export\n\texport default function Hero() \x7b\n  return size; \x7d") =
      "const size = 2; // export\n\tfunction Hero() \x7b\n  return size; \x7d" := by
  have hsource : "import React, \x7b useState \x7d from 'react'; \n import \"./hero.css\"\n\n" ++
      "export const size = 2; // export\n\texport default function Hero() \x7b\n  return size; \x7d" =
        String.ofList (List.intercalate ['\n']
          ([reactImport, styleImport].map ImportLine.written ++ exportedLines.map CodeLine.written)) := by
    decide +kernel
  rw [hsource, withoutModuleSyntax_lines]
  decide +kernel

end Showcase.Script
