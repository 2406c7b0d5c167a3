import Showcase.Jsx.Rule
import Showcase.Proofs.Pattern.Replacement
import Showcase.Proofs.Text.Stretch

/-!
# Holes

Markup of letters, holes and placeholders: a hole is a name or a name with a property in single braces, a placeholder is a
name in double ones. What the rules for holes find in it are holes and nothing else, and each hole that they find becomes a
placeholder. An equals sign right before a hole makes it the value of an attribute, which is put between quotes.
-/

namespace Showcase.Jsx

open Pattern

/-! ## Markup with holes -/

/-- A run of word characters. -/
@[ext] structure Word where
  text : List Char
  ne_nil : text ≠ []
  isWord : ∀ c ∈ text, Text.isWord c = true

/-- A name, or a name and a property, in single braces, with blanks at their inner sides. -/
@[ext] structure Hole where
  lead : List Char
  name : Word
  property? : Option Word
  trail : List Char
  isBlank_lead : ∀ c ∈ lead, Text.isBlank c = true
  isBlank_trail : ∀ c ∈ trail, Text.isBlank c = true

namespace Hole

/-- A property as it is written behind a name. -/
def propertyText : Option Word → List Char
  | none => []
  | some property => '.' :: property.text

/-- What stands between the braces. -/
def inside (hole : Hole) : List Char := hole.lead ++ (hole.name.text ++ (propertyText hole.property? ++ hole.trail))

/-- A hole as it is written. -/
def written (hole : Hole) : List Char := '\x7b' :: (hole.inside ++ ['\x7d'])

/-- The name that a hole asks for: its name, or its name and its property with an underscore between them. -/
def joined (hole : Hole) : Word where
  text := joinedName hole.name.text (hole.property?.map Word.text)
  ne_nil := by
    cases hole.property? with
    | none => exact hole.name.ne_nil
    | some property => exact List.append_ne_nil_of_left_ne_nil hole.name.ne_nil _
  isWord := by
    intro c hc
    cases hproperty : hole.property? with
    | none =>
      rw [hproperty] at hc
      exact hole.name.isWord c hc
    | some property =>
      rw [hproperty] at hc
      rcases List.mem_append.mp hc with hname | hlater
      · exact hole.name.isWord c hname
      · rcases List.mem_cons.mp hlater with rfl | hlater
        · decide
        · exact property.isWord c hlater

theorem text_joined (hole : Hole) : hole.joined.text = joinedName hole.name.text (hole.property?.map Word.text) := rfl

/-- What is captured of a property. -/
def capturedProperty (property? : Option Word) : List (Nat × List Char) :=
  (property?.map fun property => (2, property.text)).toList

/-- What is captured of a hole. -/
def captured (hole : Hole) : List (Nat × List Char) := capturedProperty hole.property? ++ [(1, hole.name.text)]

end Hole

/-- A part of markup with holes: a letter that is no brace, a hole, or a placeholder that is there already. -/
inductive Chunk where
  | letter (c : Char) (isPlain : c ≠ '\x7b' ∧ c ≠ '\x7d')
  | hole (slot : Hole)
  | ready (name : Word)

/-- A part as it is written. -/
def Chunk.written : Chunk → List Char
  | .letter c _ => [c]
  | .hole slot => slot.written
  | .ready name => placeholder name.text

/-- Parts as they are written, one after the other. -/
def writtenChunks (chunks : List Chunk) : List Char := chunks.flatMap Chunk.written

@[simp] theorem writtenChunks_nil : writtenChunks [] = [] := rfl

@[simp] theorem writtenChunks_cons (chunk : Chunk) (later : List Chunk) :
    writtenChunks (chunk :: later) = chunk.written ++ writtenChunks later := rfl

/-! ## Characters of holes -/

/-- A character that can stand in a word or between words is no brace. -/
theorem ne_brace_of_isWord {c : Char} (hc : Text.isWord c = true) : c ≠ '\x7b' ∧ c ≠ '\x7d' := by
  constructor <;> rintro rfl <;> exact absurd hc (by decide)

theorem ne_brace_of_isBlank {c : Char} (hc : Text.isBlank c = true) : c ≠ '\x7b' ∧ c ≠ '\x7d' := by
  constructor <;> rintro rfl <;> exact absurd hc (by decide)

/-- A word begins with a character of a word. -/
theorem Word.head_append (word : Word) (rest : List Char) :
    ∀ c, (word.text ++ rest).head? = some c → Text.isWord c = true := by
  intro c hc
  rcases htext : word.text with _ | ⟨first, others⟩
  · exact absurd htext word.ne_nil
  · rw [htext] at hc
    obtain rfl : first = c := Option.some.inj hc
    exact word.isWord first (htext ▸ List.mem_cons_self)

/-- Behind the opening braces of a placeholder there is no other one. -/
theorem Word.opening_not_mem (word : Word) : '\x7b' ∉ word.text ++ ['\x7d', '\x7d'] := by
  intro hc
  rcases List.mem_append.mp hc with hin | hclosing
  · exact (ne_brace_of_isWord (word.isWord _ hin)).1 rfl
  · simp at hclosing

namespace Hole

/-- Between the braces of a hole there is no brace and no equals sign. -/
theorem ne_of_mem_inside (hole : Hole) {c : Char} (hc : c ∈ hole.inside) : c ≠ '\x7b' ∧ c ≠ '\x7d' ∧ c ≠ '=' := by
  have hword : ∀ {c : Char}, Text.isWord c = true → c ≠ '\x7b' ∧ c ≠ '\x7d' ∧ c ≠ '=' := by
    intro c hc
    refine ⟨(ne_brace_of_isWord hc).1, (ne_brace_of_isWord hc).2, ?_⟩
    rintro rfl
    exact absurd hc (by decide)
  have hblank : ∀ {c : Char}, Text.isBlank c = true → c ≠ '\x7b' ∧ c ≠ '\x7d' ∧ c ≠ '=' := by
    intro c hc
    refine ⟨(ne_brace_of_isBlank hc).1, (ne_brace_of_isBlank hc).2, ?_⟩
    rintro rfl
    exact absurd hc (by decide)
  simp only [inside, List.mem_append] at hc
  rcases hc with hlead | hname | hproperty | htrail
  · exact hblank (hole.isBlank_lead c hlead)
  · exact hword (hole.name.isWord c hname)
  · cases hsome : hole.property? with
    | none => simp [hsome, propertyText] at hproperty
    | some property =>
      rw [hsome, propertyText, List.mem_cons] at hproperty
      rcases hproperty with rfl | hin
      · decide
      · exact hword (property.isWord c hin)
  · exact hblank (hole.isBlank_trail c htrail)

/-- Behind the opening brace of a hole there is no other one. -/
theorem opening_not_mem (hole : Hole) : '\x7b' ∉ hole.inside ++ ['\x7d'] := by
  intro hc
  rcases List.mem_append.mp hc with hin | hclosing
  · exact (hole.ne_of_mem_inside hin).1 rfl
  · exact absurd (List.mem_singleton.mp hclosing) (by decide)

/-- What stands behind the opening brace of a hole is a blank or the beginning of its name. -/
theorem head_inside (hole : Hole) (rest : List Char) :
    ∃ c later, hole.inside ++ rest = c :: later ∧ (Text.isBlank c = true ∨ Text.isWord c = true) := by
  rcases hlead : hole.lead with _ | ⟨c, lead⟩
  · rcases hname : hole.name.text with _ | ⟨c, name⟩
    · exact absurd hname hole.name.ne_nil
    · refine ⟨c, name ++ (propertyText hole.property? ++ hole.trail) ++ rest, by simp [inside, hlead, hname], .inr ?_⟩
      exact hole.name.isWord c (hname ▸ List.mem_cons_self)
  · refine ⟨c, lead ++ (hole.name.text ++ (propertyText hole.property? ++ hole.trail)) ++ rest,
      by simp [inside, hlead], .inl ?_⟩
    exact hole.isBlank_lead c (hlead ▸ List.mem_cons_self)

/-- What stands behind the name and the property of a hole begins with no character of a word and no point. -/
theorem head_trail (hole : Hole) (rest : List Char) :
    ∀ c, (hole.trail ++ '\x7d' :: rest).head? = some c → Text.isWord c = false ∧ c ≠ '.' := by
  rcases htrail : hole.trail with _ | ⟨first, trail⟩
  · exact Text.of_head_cons (by decide) rest
  · have hblank := hole.isBlank_trail first (htrail ▸ List.mem_cons_self)
    refine Text.of_head_cons ⟨Text.eq_false_of_apart Text.isWord Text.isBlank Text.isBlank_of_isWord hblank, ?_⟩
      (trail ++ '\x7d' :: rest)
    rintro rfl
    exact absurd hblank (by decide)

/-- What stands behind the name of a hole begins with no character of a word. -/
theorem head_property (hole : Hole) (rest : List Char) : ∀ c,
    (propertyText hole.property? ++ (hole.trail ++ '\x7d' :: rest)).head? = some c → Text.isWord c = false := by
  cases hole.property? with
  | none => exact fun c hc => (hole.head_trail rest c hc).1
  | some property => exact Text.of_head_cons (by decide) _

/-- With a property or without one, what follows the name is read in one way only. -/
theorem property_unique {hole other : Hole} {rest later : List Char}
    (h : propertyText hole.property? ++ (hole.trail ++ '\x7d' :: rest) =
      propertyText other.property? ++ (other.trail ++ '\x7d' :: later)) :
    hole.property? = other.property? ∧ hole.trail ++ '\x7d' :: rest = other.trail ++ '\x7d' :: later := by
  cases hproperty : hole.property? with
  | none =>
    cases hproperty' : other.property? with
    | none =>
      rw [hproperty, hproperty'] at h
      exact ⟨rfl, h⟩
    | some property =>
      -- the point of the other property would stand where blanks or the closing brace begin
      rw [hproperty, hproperty', propertyText, propertyText, List.nil_append, List.cons_append] at h
      exact absurd rfl (hole.head_trail rest '.' (by rw [h, List.head?_cons])).2
  | some property =>
    cases hproperty' : other.property? with
    | none =>
      rw [hproperty, hproperty', propertyText, propertyText, List.nil_append, List.cons_append] at h
      exact absurd rfl (other.head_trail later '.' (by rw [← h, List.head?_cons])).2
    | some property' =>
      rw [hproperty, hproperty'] at h
      obtain ⟨hsame, h⟩ := Text.stretch_unique property.isWord property'.isWord
        (fun c hc => (hole.head_trail rest c hc).1) (fun c hc => (other.head_trail later c hc).1) (List.cons.inj h).2
      exact ⟨congrArg some (Word.ext hsame), h⟩

/-- A text begins with one hole at most. -/
theorem unique {hole other : Hole} {rest later : List Char} (h : hole.written ++ rest = other.written ++ later) :
    hole = other ∧ rest = later := by
  have hbrace : ∀ (rest : List Char), ∀ c, ('\x7d' :: rest).head? = some c → Text.isBlank c = false :=
    Text.of_head_cons (by decide)
  have hletter : ∀ (hole : Hole) (rest : List Char), ∀ c, (hole.name.text ++ rest).head? = some c →
      Text.isBlank c = false :=
    fun hole rest c hc => Text.isBlank_of_isWord (hole.name.head_append rest c hc)
  simp only [written, inside, List.cons_append, List.append_assoc, List.nil_append, List.cons.injEq, true_and] at h
  -- part by part, each up to where another kind of character begins
  obtain ⟨hlead, h⟩ := Text.stretch_unique hole.isBlank_lead other.isBlank_lead (hletter hole _) (hletter other _) h
  obtain ⟨hname, h⟩ := Text.stretch_unique hole.name.isWord other.name.isWord (hole.head_property rest)
    (other.head_property later) h
  obtain ⟨hproperty, h⟩ := property_unique h
  obtain ⟨htrail, h⟩ := Text.stretch_unique hole.isBlank_trail other.isBlank_trail (hbrace rest) (hbrace later) h
  exact ⟨Hole.ext hlead (Word.ext hname) hproperty htrail, (List.cons.inj h).2⟩

end Hole

/-! ## What the rules for holes read -/

section

variable {before : Option Char} {stretch rest : List Char} {found : List (Nat × List Char)}

theorem reads_word_iff : word.Reads before stretch rest found ↔ ∃ name : Word, stretch = name.text ∧ found = [] := by
  constructor
  · rintro ⟨hall, hlength, rfl⟩
    exact ⟨⟨stretch, List.ne_nil_of_length_pos hlength, hall⟩, rfl, rfl⟩
  · rintro ⟨name, rfl, rfl⟩
    exact ⟨name.isWord, List.length_pos_iff.mpr name.ne_nil, rfl⟩

/-- A word that is captured, and what is read behind it. -/
theorem reads_capture_word_cons {number : Nat} {others : List Pattern} :
    (sequence (capture number word :: others)).Reads before stretch rest found ↔
      ∃ (name : Word) (tail : List Char) (later : List (Nat × List Char)), stretch = name.text ++ tail ∧
        (sequence others).Reads (beforeAfter before name.text) tail rest later ∧
        found = later ++ [(number, name.text)] := by
  simp only [reads_capture_cons, reads_word_iff]
  constructor
  · rintro ⟨_, tail, _, later, rfl, ⟨name, rfl, rfl⟩, htail, rfl⟩
    exact ⟨name, tail, later, rfl, htail, rfl⟩
  · rintro ⟨name, tail, later, rfl, htail, rfl⟩
    exact ⟨name.text, tail, [], later, rfl, ⟨name, rfl, rfl⟩, htail, rfl⟩

/-- A point and a word, or nothing, and what is read behind it. -/
theorem reads_property_cons {others : List Pattern} :
    (sequence (optional (seq (char '.') (capture 2 word)) :: others)).Reads before stretch rest found ↔
      ∃ property? tail later, stretch = Hole.propertyText property? ++ tail ∧
        (sequence others).Reads (beforeAfter before (Hole.propertyText property?)) tail rest later ∧
        found = later ++ Hole.capturedProperty property? := by
  rw [reads_sequence_iff]
  constructor
  · rintro ⟨_, tail, _, later, rfl, ⟨_, _, _, _, rfl, hpoint, ⟨_, hproperty, rfl⟩, rfl⟩ | ⟨rfl, rfl⟩, htail, rfl⟩
    · obtain ⟨rfl, rfl⟩ := reads_char_iff.mp hpoint
      obtain ⟨property, rfl, rfl⟩ := reads_word_iff.mp hproperty
      exact ⟨some property, tail, later, rfl, htail, rfl⟩
    · exact ⟨none, tail, later, rfl, htail, rfl⟩
  · rintro ⟨property?, tail, later, rfl, htail, rfl⟩
    refine ⟨Hole.propertyText property?, tail, Hole.capturedProperty property?, later, rfl, ?_, htail, rfl⟩
    cases property? with
    | none => exact .inr ⟨rfl, rfl⟩
    | some property =>
      exact .inl ⟨['.'], property.text, [], [(2, property.text)], rfl, reads_char_iff.mpr ⟨rfl, rfl⟩,
        ⟨[], reads_word_iff.mpr ⟨property, rfl, rfl⟩, rfl⟩, rfl⟩

/-- The rule for attributes finds an equals sign and a hole. -/
theorem reads_attributeExpressions_iff : attributeExpressions.pattern.Reads before stretch rest found ↔
    ∃ hole : Hole, stretch = '=' :: hole.written ∧ found = hole.captured := by
  simp only [attributeExpressions, reads_char_cons, reads_blanks_cons, reads_capture_word_cons, reads_property_cons,
    reads_sequence_nil]
  constructor
  · rintro ⟨_, rfl, _, rfl, lead, _, rfl, hlead, name, _, _, rfl, ⟨property?, _, _, rfl, ⟨trail, _, rfl, htrail, _, rfl,
      rfl, rfl⟩, rfl⟩, rfl⟩
    exact ⟨⟨lead, name, property?, trail, hlead, htrail⟩, by simp [Hole.written, Hole.inside], rfl⟩
  · rintro ⟨hole, rfl, rfl⟩
    exact ⟨_, rfl, _, rfl, hole.lead, _, by simp [Hole.inside], hole.isBlank_lead, hole.name, _, _, rfl,
      ⟨hole.property?, _, [], rfl, ⟨hole.trail, _, rfl, hole.isBlank_trail, [], rfl, rfl, rfl⟩, rfl⟩, rfl⟩

/-- What the rules for holes outside of attributes find: a hole that stands between no other braces. -/
def ReadsHoles (pattern : Pattern) (takes : Hole → Prop) : Prop :=
  ∀ before stretch rest found, pattern.Reads before stretch rest found ↔
    ∃ hole : Hole, takes hole ∧ before ≠ some '\x7b' ∧ stretch = hole.written ∧ rest.head? ≠ some '\x7d' ∧
      found = hole.captured

theorem reads_loneOpening_cons {others : List Pattern} :
    (sequence (loneOpening :: others)).Reads before stretch rest found ↔
      before ≠ some '\x7b' ∧ ∃ tail, stretch = '\x7b' :: tail ∧ (sequence others).Reads (some '\x7b') tail rest found := by
  rw [reads_sequence_iff]
  constructor
  · rintro ⟨_, tail, _, later, rfl, ⟨_, _, _, _, rfl, ⟨hbefore, rfl, rfl⟩, hopening, rfl⟩, htail, rfl⟩
    obtain ⟨rfl, rfl⟩ := reads_char_iff.mp hopening
    refine ⟨?_, tail, rfl, by simpa using htail⟩
    rintro rfl
    exact absurd hbefore (by decide)
  · rintro ⟨hbefore, tail, rfl, htail⟩
    refine ⟨['\x7b'], tail, [], found, rfl, ?_, htail, (List.append_nil _).symm⟩
    refine ⟨[], ['\x7b'], [], [], rfl, ⟨?_, rfl, rfl⟩, reads_char_iff.mpr ⟨rfl, rfl⟩, rfl⟩
    cases before with
    | none => rfl
    | some c => simpa using hbefore

theorem reads_loneClosing : (sequence [loneClosing]).Reads before stretch rest found ↔
    stretch = ['\x7d'] ∧ rest.head? ≠ some '\x7d' ∧ found = [] := by
  rw [reads_sequence_iff]
  constructor
  · rintro ⟨_, _, _, _, rfl, ⟨_, _, _, _, rfl, hclosing, ⟨hrest, rfl, rfl⟩, rfl⟩, ⟨rfl, rfl⟩, rfl⟩
    obtain ⟨rfl, rfl⟩ := reads_char_iff.mp hclosing
    refine ⟨rfl, ?_, rfl⟩
    intro hhead
    rw [List.nil_append, hhead] at hrest
    exact absurd hrest (by decide)
  · rintro ⟨rfl, hrest, rfl⟩
    refine ⟨['\x7d'], [], [], [], rfl, ?_, ⟨rfl, rfl⟩, rfl⟩
    refine ⟨['\x7d'], [], [], [], rfl, reads_char_iff.mpr ⟨rfl, rfl⟩, ⟨?_, rfl, rfl⟩, rfl⟩
    rw [List.nil_append]
    cases hhead : rest.head? with
    | none => rfl
    | some c =>
      rw [hhead] at hrest
      simpa using hrest

theorem readsHoles_nestedProperty :
    ReadsHoles nestedPropertyPlaceholders.pattern fun hole => hole.property?.isSome = true := by
  intro before stretch rest found
  simp only [nestedPropertyPlaceholders, reads_loneOpening_cons, reads_char_cons, reads_blanks_cons,
    reads_capture_word_cons, reads_loneClosing]
  constructor
  · rintro ⟨hbefore, _, rfl, lead, _, rfl, hlead, name, _, _, rfl, ⟨_, rfl, property, _, _, rfl, ⟨trail, _, rfl, htrail,
      rfl, hrest, rfl⟩, rfl⟩, rfl⟩
    exact ⟨⟨lead, name, some property, trail, hlead, htrail⟩, rfl, hbefore,
      by simp [Hole.written, Hole.inside, Hole.propertyText], hrest, rfl⟩
  · rintro ⟨⟨lead, name, property?, trail, hlead, htrail⟩, htakes, hbefore, rfl, hrest, rfl⟩
    obtain ⟨property, rfl⟩ := Option.isSome_iff_exists.mp htakes
    exact ⟨hbefore, _, rfl, lead, _, by simp [Hole.inside, Hole.propertyText], hlead, name, _, _, rfl, ⟨_, rfl, property, _, _, rfl,
      ⟨trail, _, rfl, htrail, rfl, hrest, rfl⟩, rfl⟩, rfl⟩

theorem readsHoles_identifier :
    ReadsHoles identifierPlaceholders.pattern fun hole => hole.property? = none := by
  intro before stretch rest found
  simp only [identifierPlaceholders, reads_loneOpening_cons, reads_blanks_cons, reads_capture_word_cons,
    reads_loneClosing]
  constructor
  · rintro ⟨hbefore, _, rfl, lead, _, rfl, hlead, name, _, _, rfl, ⟨trail, _, rfl, htrail, rfl, hrest, rfl⟩, rfl⟩
    exact ⟨⟨lead, name, none, trail, hlead, htrail⟩, rfl, hbefore,
      by simp [Hole.written, Hole.inside, Hole.propertyText], hrest, rfl⟩
  · rintro ⟨⟨lead, name, property?, trail, hlead, htrail⟩, rfl, hbefore, rfl, hrest, rfl⟩
    exact ⟨hbefore, _, rfl, lead, _, by simp [Hole.inside, Hole.propertyText], hlead, name, _, _, rfl,
      ⟨trail, _, rfl, htrail, rfl, hrest, rfl⟩, rfl⟩

end

/-! ## What the rules for holes write -/

variable {before : Option Char} {rest result : List Char}

/-- No part begins with a closing brace. -/
theorem head_writtenChunks (chunks : List Chunk) : (writtenChunks chunks).head? ≠ some '\x7d' := by
  cases chunks with
  | nil => exact fun h => nomatch h
  | cons chunk later =>
    cases chunk with
    | letter c hc => exact fun h => hc.2 (Option.some.inj h)
    | hole slot => exact fun h => absurd (Option.some.inj h) (by decide)
    | ready name => exact fun h => absurd (Option.some.inj h) (by decide)

/-- A placeholder does not begin with a hole. -/
theorem written_append_ne_ready (hole : Hole) (name : Word) (rest later : List Char) :
    hole.written ++ rest ≠ placeholder name.text ++ later := by
  intro h
  obtain ⟨c, tail, htail, hc⟩ := hole.head_inside ('\x7d' :: rest)
  simp only [Hole.written, placeholder, List.cons_append, List.append_assoc, List.nil_append, List.cons.injEq,
    true_and] at h
  rw [htail] at h
  obtain rfl : c = '\x7b' := (List.cons.inj h).1
  rcases hc with hc | hc <;> exact absurd hc (by decide)

/-- What a match of a hole tells. -/
theorem captured_of_tells {hole : Hole} {m : Match} {stretch : List Char} (h : Tells m stretch hole.captured) :
    m.captured 1 = hole.name.text ∧ m.captured? 2 = hole.property?.map Word.text := by
  rw [Match.captured, h.captured?, h.captured?, Hole.captured, Hole.capturedProperty]
  cases hole.property? <;> exact ⟨rfl, rfl⟩

/-- A rule that finds the holes of some kind, outside of other braces, and writes their placeholders. -/
structure TakesHoles (rule : Rule) (takes : Hole → Prop) : Prop where
  reads : ReadsHoles rule.pattern takes
  replacement : ∀ hole m, takes hole → Tells m hole.written hole.captured →
    rule.replacement m = placeholder hole.joined.text

theorem takesHoles_nestedProperty : TakesHoles nestedPropertyPlaceholders fun hole => hole.property?.isSome = true where
  reads := readsHoles_nestedProperty
  replacement := by
    intro hole m _ htells
    obtain ⟨hname, hproperty⟩ := captured_of_tells htells
    change placeholder (joinedName (m.captured 1) (m.captured? 2)) = _
    rw [hname, hproperty]
    rfl

theorem takesHoles_identifier : TakesHoles identifierPlaceholders fun hole => hole.property? = none where
  reads := readsHoles_identifier
  replacement := by
    intro hole m hnone htells
    obtain ⟨hname, -⟩ := captured_of_tells htells
    change placeholder (m.captured 1) = _
    rw [hname, Hole.text_joined, hnone]
    rfl

/-- A part after a rule for the holes of some kind. -/
def Chunk.settled (takes : Hole → Prop) [DecidablePred takes] : Chunk → Chunk
  | .letter c isPlain => .letter c isPlain
  | .hole slot => if takes slot then .ready slot.joined else .hole slot
  | .ready name => .ready name

namespace TakesHoles

variable {rule : Rule} {takes : Hole → Prop}

theorem readsNothing_of_ne (h : TakesHoles rule takes) {c : Char} (hc : c ≠ '\x7b') :
    rule.pattern.ReadsNothing before (c :: rest) := by
  intro stretch later found hsplit hreads
  obtain ⟨hole, -, -, rfl, -⟩ := (h.reads _ _ _ _).mp hreads
  exact hc (List.cons.inj hsplit).1

/-- What has no opening brace in it is kept. -/
theorem rewrites_kept (h : TakesHoles rule takes) {kept : List Char} (hkept : '\x7b' ∉ kept)
    (hrest : Rewrites rule.pattern rule.replacement (beforeAfter before kept) rest result) :
    Rewrites rule.pattern rule.replacement before (kept ++ rest) (kept ++ result) := by
  apply Rewrites.keepAll _ hrest
  intro earlier later hsplit hlater
  obtain ⟨c, later, rfl⟩ := List.exists_cons_of_ne_nil hlater
  apply h.readsNothing_of_ne
  rintro rfl
  exact hkept (hsplit ▸ List.mem_append_right earlier List.mem_cons_self)

/-- A hole of the kind gives way to its placeholder. -/
theorem rewrites_taken (h : TakesHoles rule takes) {hole : Hole} (htakes : takes hole) (hbefore : before ≠ some '\x7b')
    (hhead : rest.head? ≠ some '\x7d')
    (hrest : Rewrites rule.pattern rule.replacement (beforeAfter before hole.written) rest result) :
    Rewrites rule.pattern rule.replacement before (hole.written ++ rest) (placeholder hole.joined.text ++ result) := by
  apply Rewrites.swap (List.cons_ne_nil _ _) _ _ hrest
  · exact ⟨hole.captured, (h.reads _ _ _ _).mpr ⟨hole, htakes, hbefore, rfl, hhead, rfl⟩⟩
  · intro other later found hsplit hreads
    obtain ⟨hole', -, -, rfl, -, rfl⟩ := (h.reads _ _ _ _).mp hreads
    obtain ⟨rfl, -⟩ := Hole.unique hsplit
    exact ⟨rfl, fun m htells => h.replacement hole m htakes htells⟩

/-- A hole of another kind stays. -/
theorem rewrites_passed (h : TakesHoles rule takes) {hole : Hole} (htakes : ¬takes hole)
    (hrest : Rewrites rule.pattern rule.replacement (beforeAfter before hole.written) rest result) :
    Rewrites rule.pattern rule.replacement before (hole.written ++ rest) (hole.written ++ result) := by
  rw [Hole.written, beforeAfter_cons] at hrest
  refine .keep ?_ (h.rewrites_kept hole.opening_not_mem hrest)
  intro stretch later found hsplit hreads
  obtain ⟨hole', htakes', -, rfl, -⟩ := (h.reads _ _ _ _).mp hreads
  obtain ⟨rfl, -⟩ := Hole.unique hsplit
  exact htakes htakes'

/-- A placeholder stays: its second brace follows a brace, and its first one is followed by one. -/
theorem rewrites_ready (h : TakesHoles rule takes) {name : Word}
    (hrest : Rewrites rule.pattern rule.replacement (beforeAfter before (placeholder name.text)) rest result) :
    Rewrites rule.pattern rule.replacement before (placeholder name.text ++ rest) (placeholder name.text ++ result) := by
  simp only [placeholder, List.cons_append, beforeAfter_cons] at hrest ⊢
  refine .keep ?_ (.keep ?_ (h.rewrites_kept name.opening_not_mem hrest))
  · intro stretch later found hsplit hreads
    obtain ⟨hole, -, -, rfl, -⟩ := (h.reads _ _ _ _).mp hreads
    exact written_append_ne_ready hole name later rest hsplit.symm
  · intro stretch later found hsplit hreads
    obtain ⟨hole, -, hbefore, -⟩ := (h.reads _ _ _ _).mp hreads
    exact hbefore rfl

/-- A rule for the holes of some kind goes through markup part by part. -/
theorem rewrites [DecidablePred takes] (h : TakesHoles rule takes) (chunks : List Chunk) (hbefore : before ≠ some '\x7b') :
    Rewrites rule.pattern rule.replacement before (writtenChunks chunks)
      (writtenChunks (chunks.map (Chunk.settled takes))) := by
  induction chunks generalizing before with
  | nil => exact .nil
  | cons chunk later ih =>
    rw [List.map_cons, writtenChunks_cons, writtenChunks_cons]
    cases chunk with
    | letter c hc =>
      exact .keep (h.readsNothing_of_ne hc.1) (ih fun hbrace => hc.1 (Option.some.inj hbrace))
    | hole slot =>
      have hlater : beforeAfter before slot.written ≠ some '\x7b' := by
        simp [Hole.written, beforeAfter, List.getLast?_cons, List.getLast?_append]
      rw [Chunk.settled]
      split
      · rename_i htakes
        exact h.rewrites_taken htakes hbefore (head_writtenChunks later) (ih hlater)
      · rename_i htakes
        exact h.rewrites_passed htakes (ih hlater)
    | ready name =>
      apply h.rewrites_ready (ih _)
      simp [placeholder, beforeAfter, List.getLast?_cons, List.getLast?_append]

/-- A rule for the holes of some kind turns each of them into its placeholder and changes nothing else. -/
theorem apply_eq [DecidablePred takes] (h : TakesHoles rule takes) (chunks : List Chunk) :
    rule.apply (writtenChunks chunks) = writtenChunks (chunks.map (Chunk.settled takes)) := by
  have hstart : (none : Option Char) ≠ some '\x7b' := nofun
  exact (h.rewrites chunks hstart).replaceAll_eq

end TakesHoles

/-! ## Attributes -/

/-- A double quote. -/
def quote : Chunk := .letter '"' (by decide)

/-- Markup with the placeholders of the holes that are values of attributes: those that stand right behind an equals sign.
The placeholders are between quotes. -/
def quoted : List Chunk → List Chunk
  | .letter c isPlain :: .hole slot :: later =>
    if c = '=' then .letter c isPlain :: quote :: .ready slot.joined :: quote :: quoted later
    else .letter c isPlain :: .hole slot :: quoted later
  | chunk :: later => chunk :: quoted later
  | [] => []

theorem readsNothing_of_ne_equals {c : Char} (hc : c ≠ '=') :
    attributeExpressions.pattern.ReadsNothing before (c :: rest) := by
  intro stretch later found hsplit hreads
  obtain ⟨hole, rfl, -⟩ := reads_attributeExpressions_iff.mp hreads
  exact hc (List.cons.inj hsplit).1

/-- A character behind which no hole stands is no match. -/
theorem readsNothing_of_not_hole {c : Char} {chunks : List Chunk} (hchunks : ∀ slot later, chunks ≠ .hole slot :: later) :
    attributeExpressions.pattern.ReadsNothing before (c :: writtenChunks chunks) := by
  intro stretch later found hsplit hreads
  obtain ⟨hole, rfl, -⟩ := reads_attributeExpressions_iff.mp hreads
  have hhole : hole.written ++ later = writtenChunks chunks := (List.cons.inj hsplit).2.symm
  cases chunks with
  | nil => exact List.cons_ne_nil _ _ hhole
  | cons chunk others =>
    cases chunk with
    | letter d hd => exact hd.1 (List.cons.inj hhole).1.symm
    | hole slot => exact hchunks slot others rfl
    | ready name => exact written_append_ne_ready hole name later (writtenChunks others) hhole

theorem rewrites_kept_of_no_equals {replacement : Match → List Char} {kept : List Char} (hkept : '=' ∉ kept)
    (h : Rewrites attributeExpressions.pattern replacement (beforeAfter before kept) rest result) :
    Rewrites attributeExpressions.pattern replacement before (kept ++ rest) (kept ++ result) := by
  apply Rewrites.keepAll _ h
  intro earlier later hsplit hlater
  obtain ⟨c, later, rfl⟩ := List.exists_cons_of_ne_nil hlater
  apply readsNothing_of_ne_equals
  rintro rfl
  exact hkept (hsplit ▸ List.mem_append_right earlier List.mem_cons_self)

theorem Hole.not_mem_written (hole : Hole) : '=' ∉ hole.written := by
  intro hc
  simp only [Hole.written, List.mem_cons, List.mem_append, List.not_mem_nil, or_false] at hc
  rcases hc with hc | hc | hc
  · exact absurd hc (by decide)
  · exact (hole.ne_of_mem_inside hc).2.2 rfl
  · exact absurd hc (by decide)

theorem Word.not_mem_placeholder (name : Word) : '=' ∉ placeholder name.text := by
  intro hc
  simp only [placeholder, List.mem_cons, List.mem_append, List.cons_append, List.not_mem_nil, or_false] at hc
  rcases hc with hc | hc | hc | hc | hc
  · exact absurd hc (by decide)
  · exact absurd hc (by decide)
  · exact absurd (name.isWord _ hc) (by decide)
  · exact absurd hc (by decide)
  · exact absurd hc (by decide)

/-- A hole behind an equals sign gives way to its placeholder between quotes. -/
theorem rewrites_attribute (slot : Hole)
    (h : Rewrites attributeExpressions.pattern attributeExpressions.replacement (beforeAfter before ('=' :: slot.written))
      rest result) :
    Rewrites attributeExpressions.pattern attributeExpressions.replacement before ('=' :: slot.written ++ rest)
      ('=' :: inQuotes (placeholder slot.joined.text) ++ result) := by
  apply Rewrites.swap (List.cons_ne_nil _ _) _ _ h
  · exact ⟨slot.captured, reads_attributeExpressions_iff.mpr ⟨slot, rfl, rfl⟩⟩
  · intro other later found hsplit hreads
    obtain ⟨slot', rfl, rfl⟩ := reads_attributeExpressions_iff.mp hreads
    obtain ⟨rfl, -⟩ := Hole.unique (List.cons.inj hsplit).2
    refine ⟨rfl, fun m htells => ?_⟩
    obtain ⟨hname, hproperty⟩ := captured_of_tells htells
    change '=' :: inQuotes (placeholder (joinedName (m.captured 1) (m.captured? 2))) = _
    rw [hname, hproperty, ← Hole.text_joined]

theorem rewrites_quoted (chunks : List Chunk) (before : Option Char) :
    Rewrites attributeExpressions.pattern attributeExpressions.replacement before (writtenChunks chunks)
      (writtenChunks (quoted chunks)) := by
  induction chunks using quoted.induct generalizing before with
  | case1 slot later isPlain ih =>
    have hnew : writtenChunks (quoted (.letter '=' isPlain :: .hole slot :: later)) =
        '=' :: inQuotes (placeholder slot.joined.text) ++ writtenChunks (quoted later) := by
      simp [quoted, quote, Chunk.written, inQuotes]
    rw [hnew]
    exact rewrites_attribute slot (ih _)
  | case2 c isPlain slot later hequals ih =>
    rw [quoted, if_neg hequals]
    have hslot := rewrites_kept_of_no_equals slot.not_mem_written (ih (beforeAfter (some c) slot.written))
    exact .keep (readsNothing_of_ne_equals hequals) hslot
  | case3 chunk later hother ih =>
    rw [quoted.eq_2 _ _ hother]
    cases chunk with
    | letter c isPlain =>
      refine .keep (readsNothing_of_not_hole fun slot others hlater => ?_) (ih _)
      exact hother c isPlain slot others rfl hlater
    | hole slot => exact rewrites_kept_of_no_equals slot.not_mem_written (ih _)
    | ready name => exact rewrites_kept_of_no_equals name.not_mem_placeholder (ih _)
  | case4 => exact .nil

/-- The rule for attributes puts the placeholders of their holes between quotes and changes nothing else. -/
theorem apply_attributeExpressions (chunks : List Chunk) :
    attributeExpressions.apply (writtenChunks chunks) = writtenChunks (quoted chunks) :=
  (rewrites_quoted chunks none).replaceAll_eq

end Showcase.Jsx
