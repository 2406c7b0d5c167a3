import Showcase.Jsx.Rule
import Showcase.Proofs.Pattern.Replacement
import Showcase.Proofs.Text.Stretch

/-!
# Self-closed tags

Markup of texts and tags is expanded tag by tag: a self-closed tag of a void element becomes its start tag, any other one
becomes a start tag with its end tag right behind it, and all else stays. A match of the rule is never more and never less
than one self-closed tag, whatever stands beside it.
-/

namespace Showcase.Jsx

open Pattern

/-! ## Texts and tags -/

/-- A character of a tag's name behind its first letter. -/
def isNameChar (c : Char) : Bool := Text.isWord c || c == '.' || c == '-'

/-- The name of a tag: a letter, and then letters, digits, underscores, points and hyphens. -/
structure TagName where
  first : Char
  others : List Char
  isLetter_first : Text.isLetter first = true
  isNameChar_others : ∀ c ∈ others, isNameChar c = true

/-- The characters of a name. -/
def TagName.text (name : TagName) : List Char := name.first :: name.others

/-- Whether an element has no end tag, whatever the case of its letters. -/
def isVoid (name : List Char) : Bool := voidElements.any fun known => known.toList == Text.lower name

/-- A text has no angle bracket in it. -/
def IsBracketless (s : List Char) : Prop := ∀ c ∈ s, c ≠ '<' ∧ c ≠ '>'

instance (s : List Char) : Decidable (IsBracketless s) :=
  decidable_of_iff (s.all (fun c => c != '<' && c != '>') = true) (by simp [IsBracketless])

/-- What stands in a tag behind its name: nothing, or a blank and then a text without angle brackets. Its last character
that is no blank is no slash. -/
structure TagBody where
  text : List Char
  begins : ∀ c, text.head? = some c → Text.isBlank c = true
  isBracketless : IsBracketless text
  ends : (Text.trimEnd text).getLast? ≠ some '/'

/-- A part of markup. -/
inductive Segment where
  /-- A text outside of tags. -/
  | text (s : List Char) (isBracketless : IsBracketless s)
  /-- An end tag. -/
  | endTag (inside : List Char) (isBracketless : IsBracketless inside)
  /-- A start tag. -/
  | startTag (name : TagName) (body : TagBody)
  /-- A tag that closes itself. -/
  | selfClosed (name : TagName) (body : TagBody)

/-- A part as it is written. -/
def Segment.written : Segment → List Char
  | .text s _ => s
  | .endTag inside _ => '<' :: '/' :: (inside ++ ['>'])
  | .startTag name body => '<' :: (name.text ++ body.text ++ ['>'])
  | .selfClosed name body => '<' :: (name.text ++ body.text ++ ['/', '>'])

/-- Parts as they are written, one after the other. -/
def writtenSegments (segments : List Segment) : List Char := segments.flatMap Segment.written

/-! ## What is made of a tag -/

theorem isBlank_of_isNameChar {c : Char} (hc : isNameChar c = true) : Text.isBlank c = false := by
  simp only [isNameChar, Bool.or_eq_true, beq_iff_eq] at hc
  rcases hc with (hword | rfl) | rfl
  · exact Text.isBlank_of_isWord hword
  · decide
  · decide

theorem isNameChar_of_isLetter {c : Char} (hc : Text.isLetter c = true) : isNameChar c = true := by
  rw [isNameChar, Text.isWord_of_isLetter hc, Bool.true_or, Bool.true_or]

theorem ne_bracket_of_isNameChar {c : Char} (hc : isNameChar c = true) : c ≠ '<' ∧ c ≠ '>' ∧ c ≠ '/' := by
  refine ⟨?_, ?_, ?_⟩ <;> rintro rfl <;> exact absurd hc (by decide)

theorem TagName.isNameChar (name : TagName) : ∀ c ∈ name.text, Jsx.isNameChar c = true := by
  intro c hc
  rcases List.mem_cons.mp hc with rfl | hothers
  · exact isNameChar_of_isLetter name.isLetter_first
  · exact name.isNameChar_others c hothers

theorem TagName.isBracketless (name : TagName) : IsBracketless name.text := by
  intro c hc
  obtain ⟨hless, hgreater, -⟩ := ne_bracket_of_isNameChar (name.isNameChar c hc)
  exact ⟨hless, hgreater⟩

/-- What stands behind a name, without blanks at its end. -/
def TagBody.trimmed (body : TagBody) : TagBody where
  text := Text.trimEnd body.text
  begins := by
    intro c hc
    apply body.begins
    obtain ⟨blanks, hsplit, -, -⟩ := Text.exists_stripEndWhile Text.isBlank body.text
    rw [hsplit, List.head?_append]
    change (Text.trimEnd body.text).head?.or _ = _
    rw [hc, Option.some_or]
  isBracketless := by
    intro c hc
    obtain ⟨blanks, hsplit, -, -⟩ := Text.exists_stripEndWhile Text.isBlank body.text
    apply body.isBracketless
    rw [hsplit]
    exact List.mem_append_left _ hc
  ends := by
    obtain ⟨-, -, -, hends⟩ := Text.exists_stripEndWhile Text.isBlank body.text
    have hidem : Text.trimEnd (Text.trimEnd body.text) = Text.trimEnd body.text := Text.stripEndWhile_eq_self hends
    rw [hidem]
    exact body.ends

/-- What is made of a part: of a self-closed tag a start tag, and behind it an end tag unless the element has none. -/
def Segment.expanded : Segment → List Segment
  | .selfClosed name body =>
    if isVoid name.text then [.startTag name body.trimmed]
    else [.startTag name body.trimmed, .endTag name.text name.isBracketless]
  | .text s isBracketless => [.text s isBracketless]
  | .endTag inside isBracketless => [.endTag inside isBracketless]
  | .startTag name body => [.startTag name body]

/-- Whether a part is the end tag of an element that has none. -/
def Segment.endsVoid : Segment → Bool
  | .endTag inside _ => isVoid inside
  | _ => false

/-! ## What the rule reads -/

/-- What the rule takes for the inside of a tag: nothing, or blanks and then no angle bracket. -/
def IsInside (inside : List Char) : Prop :=
  inside = [] ∨ ∃ blanks later, inside = blanks ++ later ∧ (∀ c ∈ blanks, Text.isBlank c = true) ∧
    1 ≤ blanks.length ∧ ∀ c ∈ later, outside "<>" c = true

/-- What the rule finds is a tag that closes itself. -/
theorem reads_selfClosingTags_iff {before : Option Char} {stretch rest : List Char} {found : List (Nat × List Char)} :
    selfClosingTags.pattern.Reads before stretch rest found ↔
      ∃ first others inside gap, stretch = '<' :: (first :: others ++ (inside ++ (gap ++ ['/', '>']))) ∧
        Text.isLetter first = true ∧ (∀ c ∈ others, isNameChar c = true) ∧ IsInside inside ∧
        (∀ c ∈ gap, Text.isBlank c = true) ∧ found = [(2, inside), (1, first :: others)] := by
  simp only [selfClosingTags, reads_char_cons, reads_capture_cons, reads_one_many_iff, reads_blanks_cons,
    reads_literal_cons, reads_sequence_nil]
  constructor
  · rintro ⟨_, rfl, _, _, _, _, rfl, ⟨first, others, rfl, hfirst, hothers, rfl⟩,
      ⟨inside, _, _, _, rfl, hinside, ⟨gap, _, rfl, hgap, _, rfl, rfl, rfl⟩, rfl⟩, rfl⟩
    rcases hinside with ⟨blanks, later, _, _, rfl, ⟨hblanks, hlength, rfl⟩, ⟨hlater, -, rfl⟩, rfl⟩ | ⟨rfl, rfl⟩
    · exact ⟨first, others, blanks ++ later, gap, rfl, hfirst, hothers,
        .inr ⟨blanks, later, rfl, hblanks, hlength, hlater⟩, hgap, rfl⟩
    · exact ⟨first, others, [], gap, rfl, hfirst, hothers, .inl rfl, hgap, rfl⟩
  · rintro ⟨first, others, inside, gap, rfl, hfirst, hothers, hinside, hgap, rfl⟩
    refine ⟨_, rfl, first :: others, _, [], [(2, inside)], rfl, ⟨first, others, rfl, hfirst, hothers, rfl⟩,
      ⟨inside, _, [], [], rfl, ?_, ⟨gap, _, rfl, hgap, [], rfl, rfl, rfl⟩, rfl⟩, rfl⟩
    rcases hinside with rfl | ⟨blanks, later, rfl, hblanks, hlength, hlater⟩
    · exact .inr ⟨rfl, rfl⟩
    · exact .inl ⟨blanks, later, [], [], rfl, ⟨hblanks, hlength, rfl⟩, ⟨hlater, Nat.zero_le _, rfl⟩, rfl⟩

theorem IsInside.isBracketless {inside : List Char} (h : IsInside inside) : IsBracketless inside := by
  intro c hc
  rcases h with rfl | ⟨blanks, later, rfl, hblanks, -, hlater⟩
  · cases hc
  · rcases List.mem_append.mp hc with hblank | hlate
    · have hc := hblanks c hblank
      constructor <;> rintro rfl <;> exact absurd hc (by decide)
    · have hc := hlater c hlate
      constructor <;> rintro rfl <;> exact absurd hc (by decide)

/-- What follows a name in a match begins with a blank, or there is nothing. -/
theorem IsInside.head_blank {inside gap : List Char} (h : IsInside inside) (hgap : ∀ c ∈ gap, Text.isBlank c = true) :
    ∀ c, (inside ++ gap).head? = some c → Text.isBlank c = true := by
  intro c hc
  rcases h with rfl | ⟨blanks, later, rfl, hblanks, hlength, -⟩
  · exact hgap c (List.mem_of_head? hc)
  · cases blanks with
    | nil => exact absurd hlength (by decide)
    | cons d blanks =>
      obtain rfl : d = c := Option.some.inj hc
      exact hblanks d List.mem_cons_self

theorem TagBody.isInside (body : TagBody) : IsInside body.text := by
  cases htext : body.text with
  | nil => exact .inl rfl
  | cons c rest =>
    have hc : Text.isBlank c = true := body.begins c (by rw [htext, List.head?_cons])
    refine .inr ⟨[c], rest, rfl, by simpa using hc, Nat.le_refl 1, ?_⟩
    intro d hd
    obtain ⟨hless, hgreater⟩ := body.isBracketless d (htext ▸ List.mem_cons_of_mem c hd)
    simp [outside, hless, hgreater]

/-- No tag that is followed by a closing bracket ends with a slash, unless it closes itself. -/
theorem TagBody.getLast_ne (name : TagName) (body : TagBody) : (name.text ++ body.text).getLast? ≠ some '/' := by
  intro hlast
  rw [List.getLast?_append] at hlast
  cases hbody : body.text.getLast? with
  | none =>
    rw [hbody, Option.none_or] at hlast
    exact (ne_bracket_of_isNameChar (name.isNameChar '/' (List.mem_of_getLast? hlast))).2.2 rfl
  | some c =>
    rw [hbody, Option.some_or] at hlast
    obtain rfl := Option.some.inj hlast
    have hkept : Text.trimEnd body.text = body.text := by
      apply Text.stripEndWhile_eq_self
      intro d hd
      obtain rfl := Option.some.inj (hbody.symm.trans hd)
      decide
    exact body.ends (by rw [hkept, hbody])

section

variable {first : Char} {others inside gap rest later : List Char}

theorem isBracketless_match (hfirst : Text.isLetter first = true) (hothers : ∀ c ∈ others, isNameChar c = true)
    (hinside : IsInside inside) (hgap : ∀ c ∈ gap, Text.isBlank c = true) :
    IsBracketless (first :: others ++ (inside ++ (gap ++ ['/']))) := by
  intro c hc
  simp only [List.mem_append, List.mem_cons, List.not_mem_nil, or_false] at hc
  rcases hc with (rfl | hname) | hin | hblank | rfl
  · exact ⟨(ne_bracket_of_isNameChar (isNameChar_of_isLetter hfirst)).1,
      (ne_bracket_of_isNameChar (isNameChar_of_isLetter hfirst)).2.1⟩
  · exact ⟨(ne_bracket_of_isNameChar (hothers c hname)).1, (ne_bracket_of_isNameChar (hothers c hname)).2.1⟩
  · exact hinside.isBracketless c hin
  · have hc := hgap c hblank
    constructor <;> rintro rfl <;> exact absurd hc (by decide)
  · decide

/-- A match that begins at a tag ends with it: the slash before the closing bracket is that of the tag. -/
theorem match_of_tag (hmatch : IsBracketless (first :: others ++ (inside ++ (gap ++ ['/'])))) {tag : List Char}
    (htag : IsBracketless tag)
    (h : first :: others ++ (inside ++ (gap ++ '/' :: '>' :: rest)) = tag ++ '>' :: later) :
    first :: others ++ (inside ++ (gap ++ ['/'])) = tag ∧ rest = later := by
  have hstretch : (first :: others ++ (inside ++ (gap ++ ['/']))) ++ '>' :: rest = tag ++ '>' :: later := by
    simpa using h
  have hbracket : ∀ rest : List Char, ∀ c, ('>' :: rest).head? = some c → (c != '>') = false := Text.of_head_cons (by decide)
  obtain ⟨hsame, hlater⟩ := Text.stretch_unique (fun c hc => by simpa using (hmatch c hc).2)
    (fun c hc => by simpa using (htag c hc).2) (hbracket rest) (hbracket later) hstretch
  exact ⟨hsame, (List.cons.inj hlater).2⟩

end

/-! ## Where the rule reads nothing -/

variable {before : Option Char} {rest : List Char}

theorem readsNothing_of_ne {c : Char} (hc : c ≠ '<') : selfClosingTags.pattern.ReadsNothing before (c :: rest) := by
  intro stretch later found hsplit hreads
  obtain ⟨first, others, inside, gap, rfl, -⟩ := reads_selfClosingTags_iff.mp hreads
  exact hc (List.cons.inj hsplit).1

theorem readsNothing_endTag : selfClosingTags.pattern.ReadsNothing before ('<' :: '/' :: rest) := by
  intro stretch later found hsplit hreads
  obtain ⟨first, others, inside, gap, rfl, hfirst, -⟩ := reads_selfClosingTags_iff.mp hreads
  obtain rfl : '/' = first := (List.cons.inj (List.cons.inj hsplit).2).1
  exact absurd hfirst (by decide)

theorem TagBody.isBracketless_tag (name : TagName) (body : TagBody) : IsBracketless (name.text ++ body.text) := by
  intro c hc
  rcases List.mem_append.mp hc with hname | hbody
  · exact name.isBracketless c hname
  · exact body.isBracketless c hbody

theorem readsNothing_startTag (name : TagName) (body : TagBody) :
    selfClosingTags.pattern.ReadsNothing before ('<' :: (name.text ++ body.text ++ '>' :: rest)) := by
  intro stretch later found hsplit hreads
  obtain ⟨first, others, inside, gap, rfl, hfirst, hothers, hinside, hgap, -⟩ := reads_selfClosingTags_iff.mp hreads
  have hmatch := isBracketless_match hfirst hothers hinside hgap
  have htext : first :: others ++ (inside ++ (gap ++ '/' :: '>' :: later)) = name.text ++ body.text ++ '>' :: rest := by
    simpa using (List.cons.inj hsplit).2.symm
  obtain ⟨hsame, -⟩ := match_of_tag hmatch (body.isBracketless_tag name) htext
  apply body.getLast_ne name
  rw [← hsame]
  simp [List.getLast?_append, List.getLast?_cons]

/-- A match at a self-closed tag is the tag: the name is the whole name, and what is captured behind it is, but for blanks
at the end, what stands there. -/
theorem match_of_selfClosed (name : TagName) (body : TagBody) {stretch later : List Char} {found : List (Nat × List Char)}
    (hsplit : '<' :: (name.text ++ body.text ++ '/' :: '>' :: rest) = stretch ++ later)
    (hreads : selfClosingTags.pattern.Reads before stretch later found) :
    stretch = (Segment.selfClosed name body).written ∧
      ∃ inside, found = [(2, inside), (1, name.text)] ∧ Text.trimEnd inside = Text.trimEnd body.text := by
  obtain ⟨first, others, inside, gap, rfl, hfirst, hothers, hinside, hgap, rfl⟩ := reads_selfClosingTags_iff.mp hreads
  have hmatch := isBracketless_match hfirst hothers hinside hgap
  have htag : IsBracketless (name.text ++ body.text ++ ['/']) := by
    intro c hc
    rcases List.mem_append.mp hc with htag | hslash
    · exact body.isBracketless_tag name c htag
    · obtain rfl := List.mem_singleton.mp hslash
      decide
  have htext : first :: others ++ (inside ++ (gap ++ '/' :: '>' :: later)) =
      name.text ++ body.text ++ ['/'] ++ '>' :: rest := by
    simpa using (List.cons.inj hsplit).2.symm
  obtain ⟨hsame, -⟩ := match_of_tag hmatch htag htext
  -- the name ends where the blanks begin, in the match as in the tag
  have hparts : first :: others ++ (inside ++ gap) = name.text ++ body.text := by
    apply (List.append_left_inj ['/']).mp
    simpa using hsame
  have hblank : ∀ {s : List Char}, (∀ c, s.head? = some c → Text.isBlank c = true) →
      ∀ c, s.head? = some c → isNameChar c = false :=
    fun hs c hc => Text.eq_false_of_apart isNameChar Text.isBlank isBlank_of_isNameChar (hs c hc)
  obtain ⟨hname, hbody⟩ := Text.stretch_unique (List.forall_mem_cons.mpr ⟨isNameChar_of_isLetter hfirst, hothers⟩)
    name.isNameChar (hblank (hinside.head_blank hgap)) (hblank body.begins) hparts
  refine ⟨?_, inside, by rw [hname], ?_⟩
  · rw [Segment.written, ← hname, ← hbody]
    simp
  · rw [← hbody]
    exact (Text.stripEndWhile_append hgap).symm

/-! ## Expanding -/

@[simp] theorem writtenSegments_cons (segment : Segment) (segments : List Segment) :
    writtenSegments (segment :: segments) = segment.written ++ writtenSegments segments := rfl

@[simp] theorem writtenSegments_singleton (segment : Segment) : writtenSegments [segment] = segment.written :=
  List.flatMap_singleton _ _

@[simp] theorem writtenSegments_append (first second : List Segment) :
    writtenSegments (first ++ second) = writtenSegments first ++ writtenSegments second :=
  List.flatMap_append

section

variable {replacement : Match → List Char} {result : List Char}

/-- A stretch in which no tag begins is kept. -/
theorem rewrites_kept {kept : List Char} (hkept : '<' ∉ kept)
    (h : Rewrites selfClosingTags.pattern replacement (beforeAfter before kept) rest result) :
    Rewrites selfClosingTags.pattern replacement before (kept ++ rest) (kept ++ result) := by
  apply Rewrites.keepAll _ h
  intro earlier later hsplit hlater
  obtain ⟨c, later, rfl⟩ := List.exists_cons_of_ne_nil hlater
  apply readsNothing_of_ne
  rintro rfl
  exact hkept (hsplit ▸ List.mem_append_right earlier List.mem_cons_self)

/-- A tag in which no other begins and which is no match is kept. -/
theorem rewrites_tag {tag : List Char} (htag : '<' ∉ tag)
    (hnothing : selfClosingTags.pattern.ReadsNothing before ('<' :: (tag ++ rest)))
    (h : Rewrites selfClosingTags.pattern replacement (beforeAfter before ('<' :: tag)) rest result) :
    Rewrites selfClosingTags.pattern replacement before ('<' :: tag ++ rest) ('<' :: tag ++ result) := by
  rw [beforeAfter_cons] at h
  exact .keep hnothing (rewrites_kept htag h)

end

theorem IsBracketless.not_mem {s : List Char} (h : IsBracketless s) : '<' ∉ s := fun hc => (h '<' hc).1 rfl

/-- What the rule writes for a self-closed tag are the parts that it is expanded to. -/
theorem expandSelfClosed_eq (name : TagName) (body : TagBody) {inside : List Char}
    (h : Text.trimEnd inside = Text.trimEnd body.text) :
    expandSelfClosed name.text inside = writtenSegments (Segment.selfClosed name body).expanded := by
  rw [expandSelfClosed, h, Segment.expanded, isVoid]
  split
  · simp [writtenSegments, Segment.written, TagBody.trimmed]
  · simp [writtenSegments, Segment.written, TagBody.trimmed]

theorem rewrites_selfClosed (name : TagName) (body : TagBody) {result : List Char}
    (h : Rewrites selfClosingTags.pattern selfClosingTags.replacement
      (beforeAfter before (Segment.selfClosed name body).written) rest result) :
    Rewrites selfClosingTags.pattern selfClosingTags.replacement before ((Segment.selfClosed name body).written ++ rest)
      (writtenSegments (Segment.selfClosed name body).expanded ++ result) := by
  apply Rewrites.swap _ _ _ h
  · exact List.cons_ne_nil _ _
  · refine ⟨[(2, body.text), (1, name.text)], reads_selfClosingTags_iff.mpr ?_⟩
    exact ⟨name.first, name.others, body.text, [], by simp [Segment.written, TagName.text], name.isLetter_first,
      name.isNameChar_others, body.isInside, by simp, rfl⟩
  · intro other later found hsplit hreads
    have htext : '<' :: (name.text ++ body.text ++ '/' :: '>' :: rest) = other ++ later := by
      simpa [Segment.written] using hsplit
    obtain ⟨hother, inside, rfl, hinside⟩ := match_of_selfClosed name body htext hreads
    refine ⟨hother, fun m htells => ?_⟩
    have hname : m.captured 1 = name.text := by
      rw [Match.captured, htells.captured?]
      rfl
    have hbehind : m.captured 2 = inside := by
      rw [Match.captured, htells.captured?]
      rfl
    change expandSelfClosed (m.captured 1) (m.captured 2) = _
    rw [hname, hbehind, expandSelfClosed_eq name body hinside]

/-- The rule goes through markup part by part. -/
theorem rewrites_segments (segments : List Segment) (before : Option Char) :
    Rewrites selfClosingTags.pattern selfClosingTags.replacement before (writtenSegments segments)
      (writtenSegments (segments.flatMap Segment.expanded)) := by
  induction segments generalizing before with
  | nil => exact .nil
  | cons segment segments ih =>
    rw [List.flatMap_cons, writtenSegments_cons, writtenSegments_append]
    -- the pattern begins with an opening bracket, and a part has none but the one that a tag begins with
    cases segment with
    | text s hs =>
      rw [Segment.expanded, writtenSegments_singleton]
      exact rewrites_kept hs.not_mem (ih _)
    | endTag inside hinside =>
      have htag : '<' ∉ '/' :: (inside ++ ['>']) := by simpa using hinside.not_mem
      rw [Segment.expanded, writtenSegments_singleton]
      exact rewrites_tag htag readsNothing_endTag (ih _)
    | startTag name body =>
      have htag : '<' ∉ name.text ++ body.text ++ ['>'] := by simpa using (body.isBracketless_tag name).not_mem
      have hnothing : selfClosingTags.pattern.ReadsNothing before
          ('<' :: (name.text ++ body.text ++ ['>'] ++ writtenSegments segments)) := by
        rw [List.append_assoc _ ['>'], List.singleton_append]
        exact readsNothing_startTag name body
      rw [Segment.expanded, writtenSegments_singleton]
      exact rewrites_tag htag hnothing (ih _)
    | selfClosed name body => exact rewrites_selfClosed name body (ih _)

/-- The rule makes of markup what is made of its parts. -/
theorem apply_selfClosingTags (segments : List Segment) :
    selfClosingTags.apply (writtenSegments segments) = writtenSegments (segments.flatMap Segment.expanded) :=
  (rewrites_segments segments none).replaceAll_eq

/-- What a part is expanded to stays as it is. -/
theorem flatMap_expanded_expanded (segment : Segment) :
    segment.expanded.flatMap Segment.expanded = segment.expanded := by
  cases segment with
  | selfClosed name body =>
    rw [Segment.expanded]
    split <;> rfl
  | _ => rfl

/-- An expanded part has the end tags of elements without end tag that the part had. -/
theorem filter_endsVoid_expanded (segment : Segment) :
    segment.expanded.filter Segment.endsVoid = [segment].filter Segment.endsVoid := by
  cases segment with
  | selfClosed name body =>
    rw [Segment.expanded]
    split
    · rfl
    · rename_i hvoid
      simp [Segment.endsVoid, hvoid]
  | _ => rfl

/-- Markup is expanded tag by tag: a self-closed tag becomes a start tag, blanks at its end left out, with its end tag at
once behind it unless the element is one without end tags; every other part stays as it is and in its place. So no element
without end tags gains one, and what is expanded is not expanded again. -/
theorem self_closed_tags_expand (segments : List Segment) :
    let expanded := segments.flatMap Segment.expanded
    selfClosingTags.apply (writtenSegments segments) = writtenSegments expanded ∧
      expanded.filter Segment.endsVoid = segments.filter Segment.endsVoid ∧
      selfClosingTags.apply (selfClosingTags.apply (writtenSegments segments)) =
        selfClosingTags.apply (writtenSegments segments) := by
  intro expanded
  have htwice : expanded.flatMap Segment.expanded = expanded := by
    rw [List.flatMap_assoc]
    simp only [flatMap_expanded_expanded]
    rfl
  refine ⟨apply_selfClosingTags segments, ?_, ?_⟩
  · rw [List.filter_flatMap]
    simp only [filter_endsVoid_expanded]
    rw [← List.filter_flatMap, List.flatMap_singleton']
  · rw [apply_selfClosingTags, apply_selfClosingTags, htwice]

/-- An image and an icon that close themselves, in a paragraph. -/
def illustrated : List Segment :=
  [.startTag ⟨'p', [], by decide, by simp⟩ ⟨[], by simp, by decide, by decide⟩,
    .selfClosed ⟨'I', "mg".toList, by decide, Text.forall_mem_of_all (by decide)⟩
      ⟨" src=\"a.png\" ".toList, by simp; decide, by decide, by decide⟩,
    .text " or ".toList (by decide),
    .selfClosed ⟨'U', "i.Icon".toList, by decide, Text.forall_mem_of_all (by decide)⟩ ⟨[], by simp, by decide, by decide⟩,
    .endTag ['p'] (by decide)]

/-- The image is left without an end tag and the icon gets one, once. -/
theorem self_closed_tags_expand_illustrated :
    selfClosingTags.apply "<p><Img src=\"a.png\" /> or <Ui.Icon/></p>".toList =
        "<p><Img src=\"a.png\"> or <Ui.Icon></Ui.Icon></p>".toList ∧
      selfClosingTags.apply (selfClosingTags.apply "<p><Img src=\"a.png\" /> or <Ui.Icon/></p>".toList) =
        selfClosingTags.apply "<p><Img src=\"a.png\" /> or <Ui.Icon/></p>".toList := by
  obtain ⟨hexpanded, -, htwice⟩ := self_closed_tags_expand illustrated
  exact ⟨hexpanded, htwice⟩

end Showcase.Jsx
