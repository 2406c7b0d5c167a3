import Showcase.Proofs.Jsx.Hole
import Showcase.Proofs.Jsx.SelfClosed
import Showcase.Proofs.Template.Detection

/-!
# From holes to placeholders

All rules are applied to markup with holes, one after the other. In markup that is free of what the other rules look for
only the rules for holes find something, so every hole becomes its placeholder, in quotes where it is the value of an
attribute, and the rest stays. What is read as placeholders in the result are the names of the holes and of the
placeholders that were there, each once.
-/

namespace Showcase.Jsx

open Pattern

/-! ## Rules that find nothing -/

variable {rule : Rule} {text : List Char}

/-- A rule leaves a text as it is in which its pattern reads nothing. -/
theorem apply_of_readsNowhere (h : ∀ earlier stretch rest found, text = earlier ++ (stretch ++ rest) →
    ¬rule.pattern.Reads (beforeAfter none earlier) stretch rest found) : rule.apply text = text := by
  apply replaceAll_eq_self
  intro earlier later hsplit _ stretch rest found hlater
  exact h earlier stretch rest found (hlater ▸ hsplit)

/-- Whatever a rule finds has a mark in it. -/
def LooksFor (rule : Rule) (mark : String) : Prop :=
  ∀ before stretch rest found, rule.pattern.Reads before stretch rest found → mark.toList <:+: stretch

theorem LooksFor.apply_eq_self {mark : String} (h : LooksFor rule mark) (habsent : ¬mark.toList <:+: text) :
    rule.apply text = text := by
  apply apply_of_readsNowhere
  intro earlier stretch rest found hsplit hreads
  have hstretch : stretch <:+: text := ⟨earlier, rest, by rw [hsplit, List.append_assoc]⟩
  exact habsent ((h _ _ _ _ hreads).trans hstretch)

/-- A rule for a mark at the edge of a word. -/
theorem looksFor_of_edge {mark : String} (h : rule.pattern = seq wordEdge (literal mark)) : LooksFor rule mark := by
  intro before stretch rest found hreads
  rw [h] at hreads
  obtain ⟨_, tail, _, _, rfl, ⟨-, rfl, rfl⟩, hliteral, rfl⟩ := hreads
  obtain ⟨rfl, rfl⟩ := reads_literal_iff.mp hliteral
  exact List.infix_refl _

/-- A rule for a mark and what follows it. -/
theorem looksFor_of_begins {mark : String} {later : Pattern} (h : rule.pattern = seq (literal mark) later) :
    LooksFor rule mark := by
  intro before stretch rest found hreads
  rw [h] at hreads
  obtain ⟨_, tail, _, _, rfl, hliteral, -⟩ := hreads
  obtain ⟨rfl, rfl⟩ := reads_literal_iff.mp hliteral
  exact (List.prefix_append _ tail).isInfix

theorem looksFor_presenceClose : LooksFor animatePresenceClose "</AnimatePresence>" := by
  intro before stretch rest found hreads
  obtain ⟨rfl, rfl⟩ := reads_literal_iff.mp hreads
  exact List.infix_refl _

theorem looksFor_selfClosing : LooksFor selfClosingTags "/>" := by
  intro before stretch rest found hreads
  obtain ⟨first, others, inside, gap, rfl, -⟩ := reads_selfClosingTags_iff.mp hreads
  exact ⟨'<' :: (first :: others ++ (inside ++ gap)), [], by simp⟩

/-! ## Braces -/

/-- An opening brace of a part, between what the part has before it and what it has behind it: that of a hole, or one of
the two of a placeholder. -/
inductive Chunk.Brace : Chunk → List Char → List Char → Prop where
  | hole (slot : Hole) : Brace (.hole slot) [] (slot.inside ++ ['\x7d'])
  | outer (name : Word) : Brace (.ready name) [] ('\x7b' :: (name.text ++ ['\x7d', '\x7d']))
  | inner (name : Word) : Brace (.ready name) ['\x7b'] (name.text ++ ['\x7d', '\x7d'])

/-- An opening brace is of the first part or comes after it. -/
theorem Chunk.brace_cases {chunk : Chunk} {u v later : List Char} (h : chunk.written ++ later = u ++ '\x7b' :: v) :
    (∃ behind, chunk.Brace u behind ∧ v = behind ++ later) ∨
      ∃ u', u = chunk.written ++ u' ∧ later = u' ++ '\x7b' :: v := by
  cases chunk with
  | letter c hc => exact .inr (Text.exists_of_not_mem (by simpa [written] using hc.1.symm) h)
  | hole slot =>
    rcases u with _ | ⟨d, u⟩
    · exact .inl ⟨_, .hole slot, (List.cons.inj h).2.symm⟩
    · simp only [written, Hole.written, List.cons_append, List.cons.injEq] at h
      obtain ⟨rfl, h⟩ := h
      obtain ⟨u', rfl, hlater⟩ := Text.exists_of_not_mem slot.opening_not_mem h
      exact .inr ⟨u', rfl, hlater⟩
  | ready name =>
    rcases u with _ | ⟨d, u⟩
    · exact .inl ⟨_, .outer name, (List.cons.inj h).2.symm⟩
    · simp only [written, placeholder, List.cons_append, List.cons.injEq] at h
      obtain ⟨rfl, h⟩ := h
      rcases u with _ | ⟨e, u⟩
      · exact .inl ⟨_, .inner name, (List.cons.inj h).2.symm⟩
      · simp only [List.cons_append, List.cons.injEq] at h
        obtain ⟨rfl, h⟩ := h
        obtain ⟨u', rfl, hlater⟩ := Text.exists_of_not_mem name.opening_not_mem h
        exact .inr ⟨u', rfl, hlater⟩

/-- Every opening brace of markup is of one of its parts. -/
theorem exists_brace {chunks : List Chunk} {u v : List Char} (h : writtenChunks chunks = u ++ '\x7b' :: v) :
    ∃ earlier chunk later ahead behind, chunks = earlier ++ chunk :: later ∧ u = writtenChunks earlier ++ ahead ∧
      v = behind ++ writtenChunks later ∧ chunk.Brace ahead behind := by
  induction chunks generalizing u with
  | nil => cases u <;> cases h
  | cons chunk chunks ih =>
    rcases Chunk.brace_cases h with ⟨behind, hbrace, rfl⟩ | ⟨u', rfl, hlater⟩
    · exact ⟨[], chunk, chunks, u, behind, rfl, rfl, rfl, hbrace⟩
    · obtain ⟨earlier, other, later, ahead, behind, rfl, rfl, hv, hbrace⟩ := ih hlater
      exact ⟨chunk :: earlier, other, later, ahead, behind, rfl, by simp, hv, hbrace⟩

/-- Behind an opening brace of markup there is a blank, a character of a word or another opening brace. -/
theorem follows_brace {chunks : List Chunk} {u v : List Char} (h : writtenChunks chunks = u ++ '\x7b' :: v) :
    ∃ c later, v = c :: later ∧ (Text.isBlank c = true ∨ Text.isWord c = true ∨ c = '\x7b') := by
  obtain ⟨-, chunk, later, ahead, behind, -, -, rfl, hbrace⟩ := exists_brace h
  cases hbrace with
  | hole slot =>
    rw [List.append_assoc]
    obtain ⟨c, tail, htail, hc⟩ := slot.head_inside (['\x7d'] ++ writtenChunks later)
    exact ⟨c, tail, htail, hc.imp_right .inl⟩
  | outer name => exact ⟨'\x7b', _, rfl, .inr (.inr rfl)⟩
  | inner name =>
    rcases hname : name.text with _ | ⟨c, text⟩
    · exact absurd hname name.ne_nil
    · exact ⟨c, _, rfl, .inr (.inl (name.isWord c (hname ▸ List.mem_cons_self)))⟩

/-! ## Rules for braces that are no holes -/

/-- An attribute that is dropped with its value: a reference or an event handler. -/
def IsDroppedName (name : List Char) : Prop :=
  name = "ref".toList ∨ ∃ capital others, name = 'o' :: 'n' :: capital :: others ∧ Text.isCapital capital = true ∧
    ∀ c ∈ others, Text.isWord c = true

/-- A text ends with the name of an attribute that is dropped, set off by a blank, and an equals sign. -/
def EndsWithDropped (text : List Char) : Prop :=
  ∃ earlier blank name, text = earlier ++ blank :: (name ++ ['=']) ∧ Text.isBlank blank = true ∧ IsDroppedName name

/-- What a rule finds is an attribute that is dropped, up to its opening brace and further. -/
def FindsDropped (rule : Rule) : Prop :=
  ∀ before stretch rest found, rule.pattern.Reads before stretch rest found →
    ∃ gap blank name tail, stretch = gap ++ blank :: (name ++ '=' :: '\x7b' :: tail) ∧ Text.isBlank blank = true ∧
      IsDroppedName name

/-- What a rule finds has a brace in it with a quote or a backtick right behind it. -/
def FindsQuoted (rule : Rule) : Prop :=
  ∀ before stretch rest found, rule.pattern.Reads before stretch rest found →
    ∃ lead c tail, stretch = lead ++ '\x7b' :: c :: tail ∧ (c = '\'' ∨ c = '"' ∨ c = '\x60')

/-- Blanks of which there is at least one, and what is read behind the last of them. -/
theorem exists_of_reads_someBlanks {before : Option Char} {stretch rest : List Char} {found : List (Nat × List Char)}
    {others : List Pattern} (h : (sequence (someBlanks :: others)).Reads before stretch rest found) :
    ∃ gap blank tail before', stretch = gap ++ blank :: tail ∧ Text.isBlank blank = true ∧
      (sequence others).Reads before' tail rest found := by
  rw [someBlanks, reads_many_cons] at h
  obtain ⟨head, tail, rfl, ⟨hblank, hlength⟩, htail⟩ := h
  obtain ⟨gap, blank, rfl⟩ := (List.eq_nil_or_concat head).resolve_left (List.ne_nil_of_length_pos hlength)
  exact ⟨gap, blank, tail, _, by simp, hblank blank (by simp), htail⟩

theorem findsDropped_eventHandlers : FindsDropped eventHandlers := by
  intro before stretch rest found hreads
  obtain ⟨gap, blank, tail, before', rfl, hblank, htail⟩ := exists_of_reads_someBlanks hreads
  simp only [reads_literal_cons, reads_one_cons, reads_many_cons, reads_char_cons] at htail
  obtain ⟨_, rfl, capital, _, rfl, hcapital, others, _, rfl, ⟨hothers, -⟩, _, rfl, tail, rfl, -⟩ := htail
  exact ⟨gap, blank, 'o' :: 'n' :: capital :: others, tail, by simp, hblank,
    .inr ⟨capital, others, rfl, hcapital, hothers⟩⟩

theorem findsDropped_refAttributes : FindsDropped refAttributes := by
  intro before stretch rest found hreads
  obtain ⟨gap, blank, tail, before', rfl, hblank, htail⟩ := exists_of_reads_someBlanks hreads
  simp only [reads_literal_cons, reads_char_cons] at htail
  obtain ⟨_, rfl, tail, rfl, -⟩ := htail
  exact ⟨gap, blank, "ref".toList, tail, by simp, hblank, .inl rfl⟩

/-- A string begins with a quote. -/
theorem exists_of_reads_stringLiteral {before : Option Char} {stretch rest : List Char} {found : List (Nat × List Char)}
    (h : stringLiteral.Reads before stretch rest found) : ∃ c tail, stretch = c :: tail ∧ (c = '\'' ∨ c = '"') := by
  rcases h with h | h
  · obtain ⟨tail, rfl, -⟩ := reads_char_cons.mp h
    exact ⟨'\'', tail, rfl, .inl rfl⟩
  · obtain ⟨tail, rfl, -⟩ := reads_char_cons.mp h
    exact ⟨'"', tail, rfl, .inr rfl⟩

theorem findsQuoted_templateLiteral : FindsQuoted templateLiteralAttributes := by
  intro before stretch rest found hreads
  simp only [templateLiteralAttributes, reads_char_cons] at hreads
  obtain ⟨_, rfl, _, rfl, tail, rfl, -⟩ := hreads
  exact ⟨['='], '\x60', tail, rfl, .inr (.inr rfl)⟩

theorem findsQuoted_stringAttribute : FindsQuoted stringLiteralAttributes := by
  intro before stretch rest found hreads
  simp only [stringLiteralAttributes, reads_char_cons] at hreads
  obtain ⟨_, rfl, _, rfl, hliteral⟩ := hreads
  obtain ⟨head, tail, _, _, rfl, hliteral, -⟩ := reads_sequence_iff.mp hliteral
  obtain ⟨c, text, rfl, hc⟩ := exists_of_reads_stringLiteral hliteral
  exact ⟨['='], c, text ++ tail, rfl, hc.imp_right .inl⟩

theorem findsQuoted_stringText : FindsQuoted stringLiteralText := by
  intro before stretch rest found hreads
  simp only [stringLiteralText, reads_char_cons] at hreads
  obtain ⟨_, rfl, hliteral⟩ := hreads
  obtain ⟨head, tail, _, _, rfl, hliteral, -⟩ := reads_sequence_iff.mp hliteral
  obtain ⟨c, text, rfl, hc⟩ := exists_of_reads_stringLiteral hliteral
  exact ⟨[], c, text ++ tail, rfl, hc.imp_right .inl⟩

/-- No brace of markup has a quote behind it. -/
theorem FindsQuoted.apply_eq_self (h : FindsQuoted rule) (chunks : List Chunk) :
    rule.apply (writtenChunks chunks) = writtenChunks chunks := by
  apply apply_of_readsNowhere
  intro earlier stretch rest found hsplit hreads
  obtain ⟨lead, c, tail, rfl, hquote⟩ := h _ _ _ _ hreads
  have hbrace : writtenChunks chunks = (earlier ++ lead) ++ '\x7b' :: (c :: tail ++ rest) := by simp [hsplit]
  obtain ⟨d, later, hd, hclass⟩ := follows_brace hbrace
  obtain rfl : c = d := (List.cons.inj hd).1
  rcases hquote with rfl | rfl | rfl <;> exact absurd hclass (by decide)

/-! ## Markup that only the rules for holes change -/

/-- What the rules for names of attributes and tags and for self-closed tags look for. -/
def reservedMarks : List String :=
  ["className=", "htmlFor=", "<motion.", "</motion.", "<AnimatePresence", "</AnimatePresence>", "/>"]

/-- Markup without anything that the rules for names and self-closed tags look for, in which no hole is the value of an
attribute that is dropped and no placeholder the value of an attribute without quotes. -/
structure IsConvertible (chunks : List Chunk) : Prop where
  free : ∀ mark ∈ reservedMarks, ¬mark.toList <:+: writtenChunks chunks
  kept : ∀ earlier slot later, chunks = earlier ++ .hole slot :: later → ¬EndsWithDropped (writtenChunks earlier)
  apart : ∀ earlier name later, chunks = earlier ++ .ready name :: later → (writtenChunks earlier).getLast? ≠ some '='

namespace IsConvertible

variable {chunks : List Chunk}

theorem apply_of_looksFor (h : IsConvertible chunks) {mark : String} (hmark : mark ∈ reservedMarks)
    (hrule : LooksFor rule mark) : rule.apply (writtenChunks chunks) = writtenChunks chunks :=
  hrule.apply_eq_self (h.free mark hmark)

/-- No attribute that is dropped is there. -/
theorem apply_of_findsDropped (h : IsConvertible chunks) (hrule : FindsDropped rule) :
    rule.apply (writtenChunks chunks) = writtenChunks chunks := by
  apply apply_of_readsNowhere
  intro earlier stretch rest found hsplit hreads
  obtain ⟨gap, blank, name, tail, rfl, hblank, hname⟩ := hrule _ _ _ _ hreads
  have hbrace : writtenChunks chunks = ((earlier ++ gap) ++ blank :: (name ++ ['='])) ++ '\x7b' :: (tail ++ rest) := by
    simp [hsplit]
  obtain ⟨others, chunk, later, ahead, behind, hchunks, hu, -, hstands⟩ := exists_brace hbrace
  cases hstands with
  | hole slot =>
    rw [List.append_nil] at hu
    exact h.kept others slot later hchunks ⟨earlier ++ gap, blank, name, hu.symm, hblank, hname⟩
  | outer name' =>
    rw [List.append_nil] at hu
    refine h.apart others name' later hchunks ?_
    rw [← hu]
    simp [List.getLast?_append, List.getLast?_cons]
  | inner name' =>
    have hlast := congrArg List.getLast? hu
    simp [List.getLast?_append, List.getLast?_cons] at hlast

/-- The rules before those for holes change nothing. -/
theorem apply_eq_self (h : IsConvertible chunks) : ∀ rule ∈ rules.take 12,
    rule.apply (writtenChunks chunks) = writtenChunks chunks := by
  intro rule hrule
  simp only [rules, List.take_succ_cons, List.take_zero, List.mem_cons, List.not_mem_nil, or_false] at hrule
  rcases hrule with rfl | rfl | rfl | rfl | rfl | rfl | rfl | rfl | rfl | rfl | rfl | rfl
  · exact h.apply_of_looksFor (by decide) (looksFor_of_edge rfl)
  · exact h.apply_of_looksFor (by decide) (looksFor_of_edge rfl)
  · exact h.apply_of_looksFor (by decide) (looksFor_of_begins rfl)
  · exact h.apply_of_looksFor (by decide) (looksFor_of_begins rfl)
  · exact h.apply_of_looksFor (by decide) (looksFor_of_begins rfl)
  · exact h.apply_of_looksFor (by decide) looksFor_presenceClose
  · exact h.apply_of_findsDropped findsDropped_eventHandlers
  · exact h.apply_of_findsDropped findsDropped_refAttributes
  · exact findsQuoted_templateLiteral.apply_eq_self chunks
  · exact findsQuoted_stringAttribute.apply_eq_self chunks
  · exact findsQuoted_stringText.apply_eq_self chunks
  · exact h.apply_of_looksFor (by decide) looksFor_selfClosing

end IsConvertible

/-! ## Holes filled -/

/-- Markup with a placeholder in the place of every hole, between quotes where the character before the hole is an equals
sign. -/
def filledAfter : (before : Option Char) → List Chunk → List Char
  | _, [] => []
  | _, .letter c _ :: later => c :: filledAfter (some c) later
  | before, .hole slot :: later =>
    (if before = some '=' then inQuotes (placeholder slot.joined.text) else placeholder slot.joined.text) ++
      filledAfter (some '\x7d') later
  | _, .ready name :: later => placeholder name.text ++ filledAfter (some '\x7d') later

/-- A part with a placeholder in the place of a hole. -/
def Chunk.filled : Chunk → Chunk
  | .hole slot => .ready slot.joined
  | chunk => chunk

/-- A hole with a property is filled by one rule, a hole without one by another. -/
theorem settled_settled (chunk : Chunk) :
    Chunk.settled (fun hole => hole.property? = none) (Chunk.settled (fun hole => hole.property?.isSome = true) chunk) =
      chunk.filled := by
  cases chunk with
  | letter c hc => rfl
  | ready name => rfl
  | hole slot =>
    cases hproperty : slot.property? <;> simp [Chunk.settled, Chunk.filled, hproperty]

theorem filledAfter_eq {before : Option Char} {chunks : List Chunk}
    (hchunks : before = some '=' → ∀ slot later, chunks ≠ .hole slot :: later) :
    filledAfter before chunks = writtenChunks ((quoted chunks).map Chunk.filled) := by
  induction chunks using quoted.induct generalizing before with
  | case1 slot later isPlain ih =>
    have hlater := @ih (some '\x7d') (fun h => absurd h (by decide))
    simp [filledAfter, quoted, quote, Chunk.filled, Chunk.written, inQuotes, hlater]
  | case2 c isPlain slot later hequals ih =>
    have hlater := @ih (some '\x7d') (fun h => absurd h (by decide))
    simp [filledAfter, quoted, Chunk.filled, Chunk.written, hequals, hlater]
  | case3 chunk later hother ih =>
    rw [quoted.eq_2 _ _ hother]
    cases chunk with
    | letter c isPlain =>
      rw [filledAfter, ih fun _ slot others hlater => hother c isPlain slot others rfl hlater]
      rfl
    | hole slot =>
      have hbefore : before ≠ some '=' := fun h => hchunks h slot later rfl
      rw [filledAfter, if_neg hbefore, ih fun h => absurd h (by decide)]
      rfl
    | ready name =>
      rw [filledAfter, ih fun h => absurd h (by decide)]
      rfl
  | case4 => rfl

theorem foldl_apply_of_fixed {chosen : List Rule} (h : ∀ rule ∈ chosen, rule.apply text = text) :
    chosen.foldl (fun text rule => rule.apply text) text = text := by
  induction chosen with
  | nil => rfl
  | cons rule chosen ih =>
    rw [List.foldl_cons, h rule List.mem_cons_self]
    exact ih fun other hother => h other (List.mem_cons_of_mem rule hother)

/-- All rules together fill the holes. -/
theorem IsConvertible.applyRules_eq {chunks : List Chunk} (h : IsConvertible chunks) :
    applyRules rules (String.ofList (writtenChunks chunks)) = String.ofList (Text.trim (filledAfter none chunks)) := by
  have hrules : rules = rules.take 12 ++ [attributeExpressions, nestedPropertyPlaceholders, identifierPlaceholders] := rfl
  rw [applyRules, String.toList_ofList, hrules, List.foldl_append, foldl_apply_of_fixed h.apply_eq_self]
  simp only [List.foldl_cons, List.foldl_nil]
  rw [apply_attributeExpressions, takesHoles_nestedProperty.apply_eq, takesHoles_identifier.apply_eq, List.map_map,
    filledAfter_eq fun h => absurd h (by decide)]
  simp only [Function.comp_def, settled_settled]

/-! ## Names asked for -/

/-- The name that a part asks for when it is filled. -/
def Chunk.name? : Chunk → Option String
  | .letter _ _ => none
  | .hole slot => some (String.ofList slot.joined.text)
  | .ready name => some (String.ofList name.text)

/-- What a part is read as when it is filled. -/
def Chunk.piece : Chunk → Template.Piece
  | .letter c _ => .letter c
  | .hole slot => .placeholder slot.joined.text
  | .ready name => .placeholder name.text

theorem Word.isBody (word : Word) : Template.IsBody word.text :=
  ⟨word.ne_nil, fun hc => (ne_brace_of_isWord (word.isWord _ hc)).2 rfl⟩

/-- The name of a placeholder is the word in it. -/
theorem Word.name?_eq (word : Word) :
    Template.Piece.name? (.placeholder word.text) = some (String.ofList word.text) := by
  have htrim : Text.trim word.text = word.text :=
    Text.trim_eq_self fun c hc => Text.isBlank_of_isWord (word.isWord c hc)
  simp [Template.Piece.name?, Template.nameOf, htrim, word.ne_nil]

theorem written_piece (chunks : List Chunk) :
    Template.written (chunks.map Chunk.piece) = writtenChunks (chunks.map Chunk.filled) := by
  rw [Template.written, writtenChunks, List.flatMap_map, List.flatMap_map]
  congr 1
  funext chunk
  cases chunk <;> rfl

/-- Parts that are filled are read as they are: no letter among them is a brace. -/
theorem isReading_piece (chunks : List Chunk) : Template.IsReading (chunks.map Chunk.piece) := by
  induction chunks with
  | nil => exact .nil
  | cons chunk later ih =>
    cases chunk with
    | letter c isPlain =>
      refine .letter ?_ ih
      rintro ⟨body, rest, -, hopens⟩
      exact isPlain.1 (List.cons.inj hopens).1
    | hole slot => exact .placeholder slot.joined.isBody ih
    | ready name => exact .placeholder name.isBody ih

theorem filterMap_name_piece (chunks : List Chunk) :
    (chunks.map Chunk.piece).filterMap Template.Piece.name? = chunks.filterMap Chunk.name? := by
  rw [List.filterMap_map]
  congr 1
  funext chunk
  cases chunk with
  | letter c isPlain => rfl
  | hole slot => exact slot.joined.name?_eq
  | ready name => exact name.name?_eq

/-- Quotes ask for no names. -/
theorem filterMap_name_quoted (chunks : List Chunk) :
    (quoted chunks).filterMap Chunk.name? = chunks.filterMap Chunk.name? := by
  induction chunks using quoted.induct with
  | case1 slot later isPlain ih =>
    simp [quoted, quote, List.filterMap_cons, Chunk.name?, Hole.joined, ih]
  | case2 c isPlain slot later hequals ih =>
    simp [quoted, List.filterMap_cons, Chunk.name?, hequals, ih]
  | case3 chunk later hother ih =>
    rw [quoted.eq_2 _ _ hother, List.filterMap_cons, List.filterMap_cons, ih]
  | case4 => rfl

/-- What filled markup asks for are the names of its holes and placeholders. -/
theorem occurringNames_filled (chunks : List Chunk) :
    Template.occurringNames (String.ofList (filledAfter none chunks)) = chunks.filterMap Chunk.name? := by
  have hpieces : Template.pieces (filledAfter none chunks) = (quoted chunks).map Chunk.piece := by
    apply Template.pieces_eq_iff.mpr
    rw [written_piece, filledAfter_eq fun h => absurd h (by decide)]
    exact ⟨isReading_piece _, rfl⟩
  rw [Template.occurringNames_eq, String.toList_ofList, hpieces, filterMap_name_piece, filterMap_name_quoted]

/-- The rules turn each hole of markup into its placeholder, in quotes where it is the value of an attribute, and leave
everything else but outer blanks as it is. The placeholders of the result are the names of the holes and of the
placeholders that were there, each once, in the order of their first occurrence. -/
theorem rules_fill_holes (chunks : List Chunk) (h : IsConvertible chunks) :
    applyRules rules (String.ofList (writtenChunks chunks)) = String.ofList (Text.trim (filledAfter none chunks)) ∧
      Template.ListsFirst (chunks.filterMap Chunk.name?)
        (Template.placeholders (applyRules rules (String.ofList (writtenChunks chunks)))) := by
  refine ⟨h.applyRules_eq, ?_⟩
  rw [h.applyRules_eq, ← occurringNames_filled, ← Template.occurringNames_trim]
  exact Template.listsFirst_firstOccurrences _

/-! ## Markup of a link -/

theorem IsDroppedName.isBlank {name : List Char} (h : IsDroppedName name) : ∀ c ∈ name, Text.isBlank c = false := by
  intro c hc
  rcases h with rfl | ⟨capital, others, rfl, hcapital, hothers⟩
  · exact @Text.forall_mem_of_all (fun d => Text.isBlank d = false) _ "ref".toList (by decide) c hc
  · have hletter := Text.isLetter_of_isCapital hcapital
    have hword : ∀ c ∈ 'o' :: 'n' :: capital :: others, Text.isWord c = true := by
      simp only [List.forall_mem_cons]
      exact ⟨by decide, by decide, Text.isWord_of_isLetter hletter, hothers⟩
    exact Text.isBlank_of_isWord (hword c hc)

/-- Which attribute a text ends with is told by what stands behind its last blank. -/
theorem not_endsWithDropped {lead name : List Char} {blank : Char} (hblank : Text.isBlank blank = true)
    (hname : ∀ c ∈ name, Text.isBlank c = false) (hkept : ¬IsDroppedName name) :
    ¬EndsWithDropped (lead ++ blank :: (name ++ ['='])) := by
  rintro ⟨earlier, other, name', hsplit, hother, hdropped⟩
  have hreverse : name.reverse ++ blank :: lead.reverse = name'.reverse ++ other :: earlier.reverse := by
    simpa using congrArg List.reverse hsplit
  have hsame : name.reverse = name'.reverse ∧ blank :: lead.reverse = other :: earlier.reverse := by
    apply @Text.stretch_unique (fun c => !Text.isBlank c) _ _ _ _ _ _ _ _ hreverse
    · simpa using hname
    · simpa using hdropped.isBlank
    · simpa using hblank
    · simpa using hother
  rw [List.reverse_inj.mp hsame.1] at hkept
  exact hkept hdropped

/-- Letters, one after the other. -/
def letters (text : List Char) (isPlain : ∀ c ∈ text, c ≠ '\x7b' ∧ c ≠ '\x7d') : List Chunk :=
  text.pmap Chunk.letter isPlain

theorem hole_not_mem_letters {text : List Char} {isPlain : ∀ c ∈ text, c ≠ '\x7b' ∧ c ≠ '\x7d'} (slot : Hole) :
    Chunk.hole slot ∉ letters text isPlain := by
  simp [letters, List.mem_pmap]

theorem ready_not_mem_letters {text : List Char} {isPlain : ∀ c ∈ text, c ≠ '\x7b' ∧ c ≠ '\x7d'} (name : Word) :
    Chunk.ready name ∉ letters text isPlain := by
  simp [letters, List.mem_pmap]

/-- A word that is written out. -/
def wordOf (text : String) (hne : text.toList ≠ []) (hword : text.toList.all Text.isWord = true) : Word :=
  ⟨text.toList, hne, List.all_eq_true.mp hword⟩

/-- A link with a hole for its target and one for its title, and a note behind it. -/
def linkMarkup : List Chunk :=
  letters "<a href=".toList (Text.forall_mem_of_all (by decide)) ++
    .hole ⟨[], wordOf "item" (by decide) (by decide), some (wordOf "link" (by decide) (by decide)), [], nofun, nofun⟩ ::
    (letters ['>'] (Text.forall_mem_of_all (by decide)) ++
      .hole ⟨[' '], wordOf "title" (by decide) (by decide), none, [' '], Text.forall_mem_of_all (by decide),
        Text.forall_mem_of_all (by decide)⟩ ::
      (letters "</a> ".toList (Text.forall_mem_of_all (by decide)) ++ [.ready (wordOf "note" (by decide) (by decide))]))

theorem isConvertible_linkMarkup : IsConvertible linkMarkup where
  free := by decide +kernel
  kept := by
    intro earlier slot later h
    obtain ⟨others, rfl, htarget⟩ := Text.exists_of_not_mem (hole_not_mem_letters slot) h
    rcases others with _ | ⟨chunk, others⟩
    · exact @not_endsWithDropped "<a".toList "href".toList ' ' (by decide) (Text.forall_mem_of_all (by decide)) (by
        rintro (hname | ⟨_, _, hname, -⟩) <;> exact absurd hname (by simp))
    · obtain ⟨rfl, hbehind⟩ := List.cons.inj htarget
      obtain ⟨others, rfl, htitle⟩ := Text.exists_of_not_mem (hole_not_mem_letters slot) hbehind
      rcases others with _ | ⟨chunk, others⟩
      · rintro ⟨earlier, blank, name, hends, -⟩
        have hlast := congrArg List.getLast? hends
        simp [letters, Chunk.written, Hole.written, List.getLast?_append, List.getLast?_cons] at hlast
      · obtain ⟨rfl, hlast⟩ := List.cons.inj htitle
        obtain ⟨others, rfl, hnote⟩ := Text.exists_of_not_mem (hole_not_mem_letters slot) hlast
        rcases others with _ | ⟨chunk, others⟩
        · cases (List.cons.inj hnote).1
        · cases others <;> cases (List.cons.inj hnote).2
  apart := by
    intro earlier name later h
    obtain ⟨others, rfl, htarget⟩ := Text.exists_of_not_mem (ready_not_mem_letters name) h
    rcases others with _ | ⟨chunk, others⟩
    · cases (List.cons.inj htarget).1
    · obtain ⟨rfl, hbehind⟩ := List.cons.inj htarget
      obtain ⟨others, rfl, htitle⟩ := Text.exists_of_not_mem (ready_not_mem_letters name) hbehind
      rcases others with _ | ⟨chunk, others⟩
      · cases (List.cons.inj htitle).1
      · obtain ⟨rfl, hlast⟩ := List.cons.inj htitle
        obtain ⟨others, rfl, hnote⟩ := Text.exists_of_not_mem (ready_not_mem_letters name) hlast
        rcases others with _ | ⟨chunk, others⟩
        · simp [letters, Chunk.written, Hole.written, List.getLast?_append, List.getLast?_cons]
        · cases others <;> cases (List.cons.inj hnote).2

theorem rules_fill_holes_of_link : IsConvertible linkMarkup ∧
    applyRules rules "<a href=\x7bitem.link\x7d>\x7b title \x7d</a> \x7b\x7bnote\x7d\x7d" =
      "<a href=\"\x7b\x7bitem_link\x7d\x7d\">\x7b\x7btitle\x7d\x7d</a> \x7b\x7bnote\x7d\x7d" ∧
    Template.ListsFirst ["item_link", "title", "note"] (Template.placeholders
      (applyRules rules "<a href=\x7bitem.link\x7d>\x7b title \x7d</a> \x7b\x7bnote\x7d\x7d")) := by
  have htext : writtenChunks linkMarkup =
      "<a href=\x7bitem.link\x7d>\x7b title \x7d</a> \x7b\x7bnote\x7d\x7d".toList := by decide +kernel
  have hfilled : Text.trim (filledAfter none linkMarkup) =
      "<a href=\"\x7b\x7bitem_link\x7d\x7d\">\x7b\x7btitle\x7d\x7d</a> \x7b\x7bnote\x7d\x7d".toList := by
    decide +kernel
  have hnames : linkMarkup.filterMap Chunk.name? = ["item_link", "title", "note"] := by decide +kernel
  have hrules := rules_fill_holes linkMarkup isConvertible_linkMarkup
  rw [htext, hfilled, hnames, String.ofList_toList, String.ofList_toList] at hrules
  exact ⟨isConvertible_linkMarkup, hrules⟩

end Showcase.Jsx
