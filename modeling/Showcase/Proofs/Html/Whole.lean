import Showcase.Proofs.Html.Tag
import Showcase.Proofs.Html.Tree
import Showcase.Proofs.Pattern.Replacement
import Showcase.Proofs.Text.Stretch

/-!
# Markup that is read whole

Text without markup and tags that are complete are read the same whatever follows them. So the tokens of a text begin with
those of every part of it that is read whole, and an element that such a part opens and closes at once is found without
contents, unless a name stands before it or the text cannot be read at all.
-/

namespace Showcase.Html

open Pattern

/-! ## Tags -/

theorem quotedAll_append (attributes : List Attribute) (s t : List Char) :
    quotedAll attributes (s ++ t) = quotedAll attributes s ++ t := by
  induction attributes with
  | nil => rfl
  | cons entry others ih =>
    change ' ' :: quoted entry (quotedAll others (s ++ t)) = ' ' :: quoted entry (quotedAll others s) ++ t
    rw [ih]
    simp [quoted]

/-- A start tag is read whatever follows. -/
theorem readMarkup_startTag {name : String} (hname : IsSmallName name) (hraw : rawElements.contains name = false)
    {attributes : List Attribute} (hnames : ∀ entry ∈ attributes, IsSmallName entry.1) (rest : List Char) :
    readMarkup ('<' :: (name.toList ++ quotedAll attributes ['>'] ++ rest)) =
      .go [.startTag name attributes false] none rest := by
  obtain ⟨c, others, hcons, hc, -⟩ := hname.exists_cons
  have htag := startTag_quotedAll hname hnames rest
  rw [← List.singleton_append, quotedAll_append, ← List.append_assoc] at htag
  rw [hcons] at htag ⊢
  simp only [List.cons_append] at htag ⊢
  rw [readMarkup, isLetter_small hc, if_pos rfl, readStartTag, List.drop_succ_cons, List.drop_zero, htag]
  dsimp only
  rw [hraw]
  rfl

/-- A character of the name in a plain end tag. -/
def isEndNameChar (c : Char) : Bool :=
  Text.isLetter c || Text.isDigit c || c == '-' || c == '.' || c == ':' || c == '_'

/-- What a plain end tag is: its name, with blanks around it. -/
theorem reads_plainEndTag_iff {before : Option Char} {stretch rest : List Char} {found : List (Nat × List Char)} :
    plainEndTag.Reads before stretch rest found ↔
      ∃ lead first others trail, stretch = '<' :: '/' :: (lead ++ (first :: others ++ (trail ++ ['>']))) ∧
        (∀ c ∈ lead, Text.isBlank c = true) ∧ Text.isLetter first = true ∧ (∀ c ∈ others, isEndNameChar c = true) ∧
        (∀ c ∈ trail, Text.isBlank c = true) ∧ found = [(1, first :: others)] := by
  simp only [plainEndTag, reads_literal_cons, reads_blanks_cons, reads_capture_cons, reads_one_many_iff, reads_char_cons,
    reads_sequence_nil]
  constructor
  · rintro ⟨_, rfl, lead, _, rfl, hlead, _, _, _, _, rfl, ⟨first, others, rfl, hfirst, hothers, rfl⟩,
      ⟨trail, _, rfl, htrail, _, rfl, rfl, rfl⟩, rfl⟩
    exact ⟨lead, first, others, trail, by simp, hlead, hfirst, hothers, htrail, rfl⟩
  · rintro ⟨lead, first, others, trail, rfl, hlead, hfirst, hothers, htrail, rfl⟩
    exact ⟨_, rfl, lead, _, rfl, hlead, first :: others, _, [], [], rfl, ⟨first, others, rfl, hfirst, hothers, rfl⟩,
      ⟨trail, _, rfl, htrail, [], rfl, rfl, rfl⟩, rfl⟩

theorem isBlank_of_isEndNameChar {c : Char} (hc : isEndNameChar c = true) : Text.isBlank c = false := by
  simp only [isEndNameChar, Bool.or_eq_true, beq_iff_eq] at hc
  rcases hc with ((((hletter | hdigit) | rfl) | rfl) | rfl) | rfl
  · exact Text.isBlank_of_isWord (Text.isWord_of_isLetter hletter)
  · exact Text.isBlank_of_isWord (Text.isWord_of_isDigit hdigit)
  all_goals decide

theorem isEndNameChar_small {c : Char} (hc : c ∈ smallLetters) : isEndNameChar c = true := of_small (by decide) hc

/-- What is found of an end tag is its whole name, whatever follows. -/
theorem found_of_reads_plainEndTag {name : String} (hname : IsSmallName name) {stretch rest behind : List Char}
    {found : List (Nat × List Char)} (hreads : plainEndTag.Reads none stretch behind found)
    (hsplit : '<' :: '/' :: (name.toList ++ '>' :: rest) = stretch ++ behind) : found = [(1, name.toList)] := by
  obtain ⟨lead, first, others, trail, rfl, hlead, hfirst, hothers, htrail, rfl⟩ := reads_plainEndTag_iff.mp hreads
  simp only [List.cons_append, List.append_assoc, List.cons.injEq, true_and, List.nil_append] at hsplit
  -- the name begins with no blank and ends before the bracket, so nothing but the name can be captured
  have hfirstChar : isEndNameChar first = true := by simp [isEndNameChar, hfirst]
  obtain ⟨c, small, hcons, hc, -⟩ := hname.exists_cons
  have hname' : ∀ d, (name.toList ++ '>' :: rest).head? = some d → Text.isBlank d = false := by
    rw [hcons]
    exact Text.of_head_cons (isBlank_of_isEndNameChar (isEndNameChar_small hc)) _
  have hbegins : ∀ tail d, (first :: tail).head? = some d → Text.isBlank d = false :=
    Text.of_head_cons (isBlank_of_isEndNameChar hfirstChar)
  have hbracket : ∀ d, ('>' :: rest).head? = some d → isEndNameChar d = false := Text.of_head_cons (by decide) rest
  have hends : ∀ d, (trail ++ '>' :: behind).head? = some d → isEndNameChar d = false := by
    cases trail with
    | nil => exact Text.of_head_cons (by decide) behind
    | cons blank trail =>
      have hblank := htrail blank List.mem_cons_self
      exact Text.of_head_cons (Text.eq_false_of_apart isEndNameChar Text.isBlank isBlank_of_isEndNameChar hblank) _
  obtain ⟨-, hsplit⟩ := @Text.stretch_unique _ [] lead _ _ nofun hlead hname' (hbegins _) hsplit
  obtain ⟨hsame, -⟩ := @Text.stretch_unique isEndNameChar name.toList (first :: others) _ _
    (fun d hd => isEndNameChar_small (hname.mem_small d hd)) (List.forall_mem_cons.mpr ⟨hfirstChar, hothers⟩) hbracket hends
    hsplit
  rw [hsame]

/-- The name in an end tag is found up to its last letter. -/
theorem exists_matchAt_plainEndTag {name : String} (hname : IsSmallName name) (rest : List Char) :
    ∃ m, plainEndTag.matchAt none 0 ('<' :: '/' :: (name.toList ++ '>' :: rest)) = some m ∧
      m.captured 1 = name.toList := by
  obtain ⟨c, others, hcons, hc, hothers⟩ := hname.exists_cons
  have hreads : plainEndTag.Reads none ('<' :: '/' :: (name.toList ++ ['>'])) rest [(1, name.toList)] := by
    refine reads_plainEndTag_iff.mpr ⟨[], c, others, [], by simp [hcons], nofun, isLetter_small hc, ?_, nofun, by rw [hcons]⟩
    exact fun d hd => isEndNameChar_small (hothers d hd)
  obtain ⟨m, hmatch⟩ := exists_matchAt hreads 0
  rw [List.cons_append, List.cons_append, List.append_assoc, List.singleton_append] at hmatch
  obtain ⟨_, _, found, hsplit, hreads, htells⟩ := reads_of_matchAt hmatch
  obtain rfl := found_of_reads_plainEndTag hname hreads hsplit
  refine ⟨m, hmatch, ?_⟩
  rw [Match.captured, htells.captured?]
  rfl

/-- An end tag is read whatever follows. -/
theorem readMarkup_endTag {name : String} (hname : IsSmallName name) (rest : List Char) :
    readMarkup ('<' :: '/' :: (name.toList ++ '>' :: rest)) = .go [.endTag name] none rest := by
  obtain ⟨m, hmatch, hcaptured⟩ := exists_matchAt_plainEndTag hname rest
  have hbracket : '>' ∉ '<' :: '/' :: name.toList := by
    intro hin
    rcases List.mem_cons.mp hin with hin | hin
    · cases hin
    · rcases List.mem_cons.mp hin with hin | hin
      · cases hin
      · exact absurd (hname.mem_small _ hin) (by decide)
  have hread : readMarkup ('<' :: '/' :: (name.toList ++ '>' :: rest)) =
      readEndTag none ('<' :: '/' :: (name.toList ++ '>' :: rest)) := rfl
  rw [hread, readEndTag, hmatch, ← List.cons_append, ← List.cons_append, Text.cutAtFirst_append hbracket]
  simp [hcaptured, hname.lower]

/-! ## Whole pieces -/

/-- A text without references and markup. -/
def IsPlainText (s : List Char) : Prop := ∀ c ∈ s, c ≠ '&' ∧ c ≠ '<'

/-- Markup that is read whole, and its tokens: texts, each with a piece of markup behind it that is read whatever follows. -/
inductive ReadsWhole : List Char → List Token → Prop where
  | nil : ReadsWhole [] []
  | piece {plain markup later : List Char} {found others : List Token} (hplain : IsPlainText plain)
      (hread : ∀ rest, readMarkup ('<' :: (markup ++ rest)) = .go found none rest) (hlater : ReadsWhole later others) :
      ReadsWhole (plain ++ '<' :: (markup ++ later)) (textTokens plain ++ found ++ others)

namespace ReadsWhole

variable {s t : List Char} {first second : List Token}

theorem append (hs : ReadsWhole s first) (ht : ReadsWhole t second) : ReadsWhole (s ++ t) (first ++ second) := by
  induction hs with
  | nil => exact ht
  | piece hplain hread _ ih => simpa using ReadsWhole.piece hplain hread ih

theorem startTag {plain : List Char} (hplain : IsPlainText plain) {name : String} (hname : IsSmallName name)
    (hraw : rawElements.contains name = false) {attributes : List Attribute}
    (hnames : ∀ entry ∈ attributes, IsSmallName entry.1) :
    ReadsWhole (plain ++ '<' :: (name.toList ++ quotedAll attributes ['>']))
      (textTokens plain ++ [.startTag name attributes false]) := by
  simpa using ReadsWhole.piece hplain (readMarkup_startTag hname hraw hnames) .nil

theorem endTag {plain : List Char} (hplain : IsPlainText plain) {name : String} (hname : IsSmallName name) :
    ReadsWhole (plain ++ '<' :: '/' :: (name.toList ++ ['>'])) (textTokens plain ++ [.endTag name]) := by
  have hread : ∀ rest, readMarkup ('<' :: ('/' :: (name.toList ++ ['>']) ++ rest)) = .go [.endTag name] none rest := by
    intro rest
    rw [List.cons_append, List.append_assoc]
    exact readMarkup_endTag hname rest
  simpa using ReadsWhole.piece hplain hread .nil

end ReadsWhole

/-! ## Tokens -/

theorem map_after_after (first second : List Token) (result : Except String Stop) :
    (result.map (Stop.after second)).map (Stop.after first) = result.map (Stop.after (first ++ second)) := by
  cases result with
  | error message => rfl
  | ok stop => simp [Except.map, Stop.after]

/-- Text and a piece of markup are read in one step. -/
theorem pass_piece {plain text rest : List Char} {found : List Token} {raw : Option String} (hplain : IsPlainText plain)
    (h : readMarkup ('<' :: text) = .go found raw rest) (atEnd : Bool) (fuel : Nat) :
    pass atEnd (fuel + 1) none (plain ++ '<' :: text) =
      (pass atEnd fuel raw rest).map (Stop.after (textTokens plain ++ found)) := by
  have htake : (plain ++ '<' :: text).takeWhile (fun c => c != '&' && c != '<') = plain := by
    rw [List.takeWhile_append_of_pos (by simpa [IsPlainText] using hplain)]
    simp
  rw [pass]
  dsimp only
  rw [htake, List.drop_left]
  simp only [Option.isSome_none, Bool.false_eq_true, if_false, h]
  rfl

/-- What is read whole comes first. -/
theorem ReadsWhole.pass_append {s : List Char} {found : List Token} (h : ReadsWhole s found) (atEnd : Bool) {fuel : Nat}
    (hfuel : s.length ≤ fuel) (rest : List Char) :
    ∃ fuel', pass atEnd fuel none (s ++ rest) = (pass atEnd fuel' none rest).map (Stop.after found) := by
  induction h generalizing fuel with
  | nil =>
    refine ⟨fuel, ?_⟩
    cases hpass : pass atEnd fuel none rest <;> simp [hpass, Except.map, Stop.after]
  | @piece plain markup later found others hplain hread _ ih =>
    obtain ⟨fuel, rfl⟩ : ∃ less, fuel = less + 1 := by
      refine ⟨fuel - 1, ?_⟩
      simp at hfuel
      omega
    obtain ⟨fuel', hpass⟩ := @ih fuel (by simp at hfuel; omega)
    refine ⟨fuel', ?_⟩
    rw [List.append_assoc, List.cons_append, List.append_assoc, pass_piece hplain (hread (later ++ rest)), hpass,
      map_after_after]

/-- The tokens of a text begin with those of what is read whole, unless the text cannot be read. -/
theorem ReadsWhole.tokens_append {s : List Char} {found : List Token} (h : ReadsWhole s found) (rest : List Char) :
    (∃ message, tokens (s ++ rest) = .error message) ∨ ∃ later, tokens (s ++ rest) = .ok (found ++ later) := by
  obtain ⟨fuel, hpass⟩ := @ReadsWhole.pass_append s found h false ((s ++ rest).length + 1)
    (by rw [List.length_append]; omega) rest
  rw [tokens, hpass]
  cases pass false fuel none rest with
  | error message => exact .inl ⟨message, rfl⟩
  | ok stop =>
    simp only [Except.map, Stop.after, bind, Except.bind]
    cases pass true (stop.rest.length + 1) stop.raw stop.rest with
    | error message => exact .inl ⟨message, rfl⟩
    | ok second =>
      refine .inr ⟨stop.tokens ++ (second.tokens ++ if second.raw.isNone then textTokens second.rest else []), ?_⟩
      simp only [pure, Except.pure, List.append_assoc]

/-- Markup whose first element of a name is opened and closed at once, in front of anything: unless the text cannot be
read, that element is found without contents. -/
theorem ReadsWhole.nodes_append {s : List Char} {before : List Token} {name : String} {attributes : List Attribute}
    (h : ReadsWhole s (before ++ [.startTag name attributes false, .endTag name])) (hvoid : name ∉ voidElements)
    (hbefore : ∀ token ∈ before, token.opens name = false) {text : String} {rest : List Char}
    (htext : text.toList = s ++ rest) :
    (∃ message, nodes text = .error message) ∨ ∃ found, nodes text = .ok found ∧ findAmong name found = some [] := by
  rw [nodes, htext]
  rcases h.tokens_append rest with ⟨message, htokens⟩ | ⟨later, htokens⟩
  · exact .inl ⟨message, by rw [htokens]; rfl⟩
  · refine .inr ⟨_, by rw [htokens]; rfl, ?_⟩
    rw [List.append_assoc]
    exact Builder.findAmong_finish_empty hvoid hbefore attributes later

end Showcase.Html
