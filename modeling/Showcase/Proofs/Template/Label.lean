import Mathlib.Data.List.Forall2
import Showcase.Proofs.Text.SmallLetter
import Showcase.Proofs.Text.Stretch
import Showcase.Template.Label

/-!
# Labels of spelt names

A name of several words is spelt with capitals or with underscores, and its label is the same: the words with spaces
between them and one capital at the beginning. Every spelling comes apart into the words, each with or without a capital,
and of what comes apart like this the label is made. A label comes apart too, so it is its own label.
-/

namespace Showcase.Text

/-! ## Characters of words -/

/-- A letter or digit of any script that is its own lower case. -/
def IsSettled (c : Char) : Prop := isWord c = true ∧ c ≠ '_' ∧ lower [c] = [c]

instance (c : Char) : Decidable (IsSettled c) := inferInstanceAs (Decidable (_ ∧ _ ∧ _))

/-- Small letters and digits of ASCII are settled. -/
theorem isSettled_of_ascii {c : Char} (hc : (isSmall c || isDigit c) = true) : IsSettled c := by
  have hascii : c.toNat < 128 := by
    rcases Bool.or_eq_true_iff.mp hc with hsmall | hdigit
    · have hbounds := toNat_of_isSmall hsmall
      omega
    · exact ascii_of_isDigit hdigit
  exact of_ascii (p := fun c => (isSmall c || isDigit c) = true → IsSettled c) (by decide) hascii hc

namespace IsSettled

variable {c : Char}

theorem isBlank_eq (h : IsSettled c) : isBlank c = false := isBlank_of_isWord h.1

/-- Lower case leaves a settled character as it is, whatever stands around it. -/
theorem lowerChar_eq (h : IsSettled c) : (c.toNat ≠ 0x3A3 ∧ c.toNat ≠ 0x130) ∧ lowerChar c = c := by
  have hlower := h.2.2
  rw [lower, lowerAfter] at hlower
  -- the two characters that lower case takes on its own would not be left as they are
  by_cases hsigma : c.toNat = 0x3A3
  · rw [eq_ofNat hsigma] at hlower
    exact absurd hlower (by decide)
  · by_cases hdotted : c.toNat = 0x130
    · rw [eq_ofNat hdotted] at hlower
      exact absurd hlower (by decide)
    · rw [if_neg (by simpa using hsigma), if_neg (by simpa using hdotted)] at hlower
      exact ⟨⟨hsigma, hdotted⟩, by simpa [lowerAfter] using hlower⟩

theorem isCapital_eq (h : IsSettled c) : isCapital c = false := by
  by_contra hcapital
  rw [Bool.not_eq_false] at hcapital
  have hascii := ascii_of_isLetter (isLetter_of_isCapital hcapital)
  exact of_ascii (p := fun c => isCapital c = true → lowerChar c ≠ c) (by decide) hascii hcapital h.lowerChar_eq.2

end IsSettled

/-- A small letter of ASCII has a capital, whose lower case it is. -/
theorem toUpper_of_isSmall {c : Char} (hc : isSmall c = true) :
    c.toUpper.toNat < 128 ∧ isCapital c.toUpper = true ∧ lowerChar c.toUpper = c ∧ upperChar c = [c.toUpper] := by
  have hbounds := toNat_of_isSmall hc
  exact of_ascii (p := fun c => isSmall c = true →
    c.toUpper.toNat < 128 ∧ isCapital c.toUpper = true ∧ lowerChar c.toUpper = c ∧ upperChar c = [c.toUpper])
    (by decide) (by omega) hc

end Showcase.Text

namespace Showcase.Naming

/-! ## Spellings -/

/-- A word of a name: a small letter of ASCII, and then small letters and digits. -/
def IsNameWord : List Char → Prop
  | [] => False
  | first :: others => Text.isSmall first = true ∧ ∀ c ∈ others, Text.IsSettled c

instance : (word : List Char) → Decidable (IsNameWord word)
  | [] => .isFalse id
  | first :: others =>
    have : Decidable (∀ c ∈ others, Text.IsSettled c) := List.decidableBAll Text.IsSettled others
    inferInstanceAs (Decidable (Text.isSmall first = true ∧ ∀ c ∈ others, Text.IsSettled c))

/-- The word with a capital. -/
def capitalized (word : List Char) : List Char := word.modifyHead Char.toUpper

/-- The ways in which a name of several words is spelt. -/
inductive Spelling where
  | camelCase
  | pascalCase
  | snakeCase

/-- The words of a name in one spelling. -/
def Spelling.write : Spelling → List (List Char) → List Char
  | camelCase, [] => []
  | camelCase, first :: others => first ++ others.flatMap capitalized
  | pascalCase, words => words.flatMap capitalized
  | snakeCase, words => List.intercalate ['_'] words

/-- The words with spaces between them and a capital at the beginning. -/
def phrase (words : List (List Char)) : List Char := capitalized (List.intercalate [' '] words)

/-! ## Words and pieces -/

namespace IsNameWord

variable {word : List Char}

theorem isSettled (h : IsNameWord word) : ∀ c ∈ word, Text.IsSettled c := by
  cases word with
  | nil => exact h.elim
  | cons first others =>
    exact List.forall_mem_cons.mpr ⟨Text.isSettled_of_ascii (Bool.or_eq_true_iff.mpr (.inl h.1)), h.2⟩

theorem ne_nil (h : IsNameWord word) : word ≠ [] := by
  rintro rfl
  exact h

end IsNameWord

/-- What a word may come apart as: itself, with or without a capital. -/
def Spells (piece word : List Char) : Prop := piece = word ∨ piece = capitalized word

namespace Spells

variable {piece word : List Char}

theorem ne_nil (h : Spells piece word) (hword : IsNameWord word) : piece ≠ [] := by
  rcases h with rfl | rfl
  · exact hword.ne_nil
  · simpa [capitalized] using hword.ne_nil

theorem map_lowerChar (h : Spells piece word) (hword : IsNameWord word) : piece.map Text.lowerChar = word := by
  have hsame : ∀ {s : List Char}, (∀ c ∈ s, Text.IsSettled c) → s.map Text.lowerChar = s := by
    intro s hs
    rw [List.map_congr_left fun c hc => (hs c hc).lowerChar_eq.2, List.map_id']
  rcases h with rfl | rfl
  · exact hsame hword.isSettled
  · cases word with
    | nil => rfl
    | cons first others =>
      rw [capitalized, List.modifyHead_cons, List.map_cons, (Text.toUpper_of_isSmall hword.1).2.2.1, hsame hword.2]

/-- Nothing in a piece is stripped, and every character of it is put in lower case by itself. -/
theorem plain (h : Spells piece word) (hword : IsNameWord word) :
    ∀ c ∈ piece, Text.isBlank c = false ∧ c.toNat ≠ 0x3A3 ∧ c.toNat ≠ 0x130 := by
  have hsettled : ∀ {c : Char}, Text.IsSettled c → Text.isBlank c = false ∧ c.toNat ≠ 0x3A3 ∧ c.toNat ≠ 0x130 :=
    fun hc => ⟨hc.isBlank_eq, hc.lowerChar_eq.1⟩
  rcases h with rfl | rfl
  · exact fun c hc => hsettled (hword.isSettled c hc)
  · cases word with
    | nil => exact hword.elim
    | cons first others =>
      -- the capital is of ASCII, so it is neither a sigma nor dotted
      obtain ⟨hascii, hcapital, -⟩ := Text.toUpper_of_isSmall hword.1
      have hblank := Text.isBlank_of_isWord (Text.isWord_of_isLetter (Text.isLetter_of_isCapital hcapital))
      exact List.forall_mem_cons.mpr ⟨⟨hblank, by omega, by omega⟩, fun c hc => hsettled (hword.2 c hc)⟩

end Spells

/-! ## Texts that come apart -/

/-- A text that spaces take apart into the words of a name, each with or without a capital. -/
def ComesApart (text : List Char) (words : List (List Char)) : Prop :=
  ∃ lead pieces, (∀ c ∈ lead, Text.isBlank c = true) ∧ List.Forall₂ Spells pieces words ∧
    Text.spaceOut text = lead ++ List.intercalate [' '] pieces

theorem spaceOut_append (s t : List Char) : Text.spaceOut (s ++ t) = Text.spaceOut s ++ Text.spaceOut t :=
  List.flatMap_append

theorem spaceOut_settled {s : List Char} (hs : ∀ c ∈ s, Text.IsSettled c) : Text.spaceOut s = s := by
  induction s with
  | nil => rfl
  | cons c rest ih =>
    obtain ⟨hc, hrest⟩ := List.forall_mem_cons.mp hs
    have happend := spaceOut_append [c] rest
    rw [List.singleton_append, ih hrest] at happend
    rw [happend, Text.spaceOut, List.flatMap_singleton, hc.isCapital_eq, if_neg Bool.false_ne_true,
      if_neg (by simpa using hc.2.1), List.singleton_append]

/-- A capital puts a space before its word. -/
theorem spaceOut_capitalized {word : List Char} (hword : IsNameWord word) :
    Text.spaceOut (capitalized word) = ' ' :: capitalized word := by
  cases word with
  | nil => exact hword.elim
  | cons first others =>
    have happend := spaceOut_append [first.toUpper] others
    rw [List.singleton_append, spaceOut_settled hword.2] at happend
    rw [capitalized, List.modifyHead_cons, happend, Text.spaceOut, List.flatMap_singleton,
      (Text.toUpper_of_isSmall hword.1).2.1, if_pos rfl, List.cons_append, List.singleton_append]

/-- A mark that becomes a space parts the words. -/
theorem spaceOut_marked {mark : Char} (hmark : Text.spaceOut [mark] = [' ']) {word : List Char}
    (hword : IsNameWord word) : Text.spaceOut (mark :: word) = ' ' :: word := by
  rw [← List.singleton_append, spaceOut_append, hmark, spaceOut_settled hword.isSettled, List.singleton_append]

/-- Words that are each written with something that becomes a space come apart at it. -/
theorem spaceOut_flatMap {words : List (List Char)} {written piece : List Char → List Char}
    (h : ∀ word ∈ words, Text.spaceOut (written word) = ' ' :: piece word) :
    Text.spaceOut (words.flatMap written) = (words.map piece).flatMap (' ' :: ·) := by
  induction words with
  | nil => rfl
  | cons word others ih =>
    obtain ⟨hword, hothers⟩ := List.forall_mem_cons.mp h
    rw [List.flatMap_cons, spaceOut_append, hword, ih hothers, List.map_cons, List.flatMap_cons]

section

variable {first : List Char} {others : List (List Char)}

theorem comesApart_camelCase (hfirst : IsNameWord first) (hothers : ∀ word ∈ others, IsNameWord word) :
    ComesApart (Spelling.camelCase.write (first :: others)) (first :: others) := by
  refine ⟨[], first :: others.map capitalized, Text.isBlank_nil, .cons (.inl rfl) ?_, ?_⟩
  · exact List.forall₂_map_left_iff.mpr (List.forall₂_same.mpr fun _ _ => .inr rfl)
  · rw [Spelling.write, spaceOut_append, spaceOut_settled hfirst.isSettled,
      spaceOut_flatMap fun word hword => spaceOut_capitalized (hothers word hword), List.nil_append,
      Text.intercalate_cons]

theorem comesApart_pascalCase (hfirst : IsNameWord first) (hothers : ∀ word ∈ others, IsNameWord word) :
    ComesApart (Spelling.pascalCase.write (first :: others)) (first :: others) := by
  -- the capital of the first word puts a space before it, which is stripped later
  refine ⟨[' '], (first :: others).map capitalized, Text.isBlank_space, ?_, ?_⟩
  · exact List.forall₂_map_left_iff.mpr (List.forall₂_same.mpr fun _ _ => .inr rfl)
  · have hwords := List.forall_mem_cons.mpr ⟨hfirst, hothers⟩
    rw [Spelling.write, spaceOut_flatMap fun word hword => spaceOut_capitalized (hwords word hword), List.map_cons,
      List.flatMap_cons, Text.intercalate_cons]
    rfl

theorem comesApart_snakeCase (hfirst : IsNameWord first) (hothers : ∀ word ∈ others, IsNameWord word) :
    ComesApart (Spelling.snakeCase.write (first :: others)) (first :: others) := by
  refine ⟨[], first :: others, Text.isBlank_nil, List.forall₂_same.mpr fun _ _ => .inl rfl, ?_⟩
  rw [Spelling.write, Text.intercalate_cons, spaceOut_append, spaceOut_settled hfirst.isSettled,
    spaceOut_flatMap fun word hword => spaceOut_marked rfl (hothers word hword), List.map_id', List.nil_append,
    Text.intercalate_cons]

theorem capitalized_append (hfirst : IsNameWord first) (rest : List Char) :
    capitalized (first ++ rest) = capitalized first ++ rest := by
  cases first with
  | nil => exact hfirst.elim
  | cons c tail => rfl

theorem comesApart_phrase (hfirst : IsNameWord first) (hothers : ∀ word ∈ others, IsNameWord word) :
    ComesApart (phrase (first :: others)) (first :: others) := by
  refine ⟨[' '], capitalized first :: others, Text.isBlank_space,
    .cons (.inr rfl) (List.forall₂_same.mpr fun _ _ => .inl rfl), ?_⟩
  rw [phrase, Text.intercalate_cons, capitalized_append hfirst, spaceOut_append, spaceOut_capitalized hfirst,
    spaceOut_flatMap fun word hword => spaceOut_marked rfl (hothers word hword), List.map_id', Text.intercalate_cons]
  rfl

end

/-! ## The label of what comes apart -/

variable {pieces words : List (List Char)}

theorem map_lowerChar_pieces (h : List.Forall₂ Spells pieces words) (hwords : ∀ word ∈ words, IsNameWord word) :
    pieces.map (List.map Text.lowerChar) = words := by
  induction h with
  | nil => rfl
  | cons hspells _ ih =>
    obtain ⟨hword, hothers⟩ := List.forall_mem_cons.mp hwords
    rw [List.map_cons, hspells.map_lowerChar hword, ih hothers]

/-- No piece is empty, nothing in a piece is stripped, and every character of it is put in lower case by itself. -/
theorem plain_pieces (h : List.Forall₂ Spells pieces words) (hwords : ∀ word ∈ words, IsNameWord word) :
    ∀ piece ∈ pieces, piece ≠ [] ∧ ∀ c ∈ piece, Text.isBlank c = false ∧ c.toNat ≠ 0x3A3 ∧ c.toNat ≠ 0x130 := by
  induction h with
  | nil => exact List.forall_mem_nil _
  | cons hspells _ ih =>
    obtain ⟨hword, hothers⟩ := List.forall_mem_cons.mp hwords
    exact List.forall_mem_cons.mpr ⟨⟨hspells.ne_nil hword, hspells.plain hword⟩, ih hothers⟩

theorem trim_pieces (h : List.Forall₂ Spells pieces words) (hwords : ∀ word ∈ words, IsNameWord word)
    {lead : List Char} (hlead : ∀ c ∈ lead, Text.isBlank c = true) :
    Text.trim (lead ++ List.intercalate [' '] pieces) = List.intercalate [' '] pieces := by
  have hplain := plain_pieces h hwords
  have hfilled : ∀ piece ∈ pieces, piece ≠ [] := fun piece hpiece => (hplain piece hpiece).1
  rw [Text.trim, Text.stripWhile_append_left hlead]
  apply Text.stripWhile_eq_self
  · intro c hc
    obtain ⟨piece, hpiece, hhead⟩ := Text.head?_intercalate hfilled hc
    exact ((hplain piece hpiece).2 c (List.mem_of_head? hhead)).1
  · intro c hc
    obtain ⟨piece, hpiece, hlast⟩ := Text.getLast?_intercalate hfilled hc
    exact ((hplain piece hpiece).2 c (List.mem_of_getLast? hlast)).1

theorem lower_pieces (h : List.Forall₂ Spells pieces words) (hwords : ∀ word ∈ words, IsNameWord word) :
    Text.lower (List.intercalate [' '] pieces) = List.intercalate [' '] words := by
  have hcommon : ∀ c ∈ List.intercalate [' '] pieces, c.toNat ≠ 0x3A3 ∧ c.toNat ≠ 0x130 := by
    intro c hc
    rcases Text.mem_intercalate hc with rfl | ⟨piece, hpiece, hmem⟩
    · decide
    · exact ((plain_pieces h hwords piece hpiece).2 c hmem).2
  rw [Text.lower_eq_map hcommon, Text.map_intercalate, map_lowerChar_pieces h hwords]
  rfl

theorem capitalize_words (hwords : ∀ word ∈ words, IsNameWord word) :
    Text.capitalize (List.intercalate [' '] words) = phrase words := by
  cases words with
  | nil => rfl
  | cons first others =>
    have hfirst := hwords first List.mem_cons_self
    rw [phrase, Text.intercalate_cons]
    cases first with
    | nil => exact hfirst.elim
    | cons c tail =>
      rw [List.cons_append, Text.capitalize, (Text.toUpper_of_isSmall hfirst.1).2.2.2, capitalized,
        List.modifyHead_cons, List.singleton_append]

/-- The label of a text is made of the words that it comes apart into. -/
theorem label_of_comesApart (hwords : ∀ word ∈ words, IsNameWord word) {text : List Char}
    (h : ComesApart text words) : label (String.ofList text) = String.ofList (phrase words) := by
  obtain ⟨lead, pieces, hlead, hspells, hspaced⟩ := h
  rw [label, String.toList_ofList, hspaced, trim_pieces hspells hwords hlead, lower_pieces hspells hwords,
    capitalize_words hwords]

/-- However a name of several words is spelt, its label is the words with spaces between them and a capital at the
beginning; and this label is its own label. -/
theorem label_spelling (words : List (List Char)) (hwords : ∀ word ∈ words, IsNameWord word) :
    (∀ spelling : Spelling, label (String.ofList (spelling.write words)) = String.ofList (phrase words)) ∧
      label (String.ofList (phrase words)) = String.ofList (phrase words) := by
  cases words with
  | nil => exact ⟨fun spelling => by cases spelling <;> rfl, rfl⟩
  | cons first others =>
    obtain ⟨hfirst, hothers⟩ := List.forall_mem_cons.mp hwords
    refine ⟨fun spelling => label_of_comesApart hwords ?_, label_of_comesApart hwords (comesApart_phrase hfirst hothers)⟩
    cases spelling with
    | camelCase => exact comesApart_camelCase hfirst hothers
    | pascalCase => exact comesApart_pascalCase hfirst hothers
    | snakeCase => exact comesApart_snakeCase hfirst hothers

theorem label_spelling_of_hero :
    label "heroTitle2" = "Hero title2" ∧ label "HeroTitle2" = "Hero title2" ∧ label "hero_title2" = "Hero title2" ∧
      label "Hero title2" = "Hero title2" := by
  have hwords : ∀ word ∈ ["hero".toList, "title2".toList], IsNameWord word := by decide
  obtain ⟨hspelling, hlabel⟩ := label_spelling ["hero".toList, "title2".toList] hwords
  exact ⟨hspelling .camelCase, hspelling .pascalCase, hspelling .snakeCase, hlabel⟩

end Showcase.Naming
