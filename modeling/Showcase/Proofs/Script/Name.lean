import Showcase.Proofs.Pattern.Reading
import Showcase.Proofs.Text.Stretch
import Showcase.Script.Module

/-!
# Names in code

An identifier ends where no character of a name follows, and neither blanks nor the marks of code are characters of a
name. So what stands at the head of a text is an identifier in one way only.
-/

namespace Showcase.Script

open Pattern

/-! ## Characters of names -/

theorem isNamePart_of_isNameStart {c : Char} (hc : isNameStart c = true) : isNamePart c = true := by
  simp only [isNameStart, Bool.or_eq_true, beq_iff_eq] at hc
  rcases hc with (hletter | rfl) | rfl
  · rw [isNamePart, Text.isWord_of_isLetter hletter, Bool.true_or]
  · decide
  · decide

theorem isNameStart_of_isCapital {c : Char} (hc : Text.isCapital c = true) : isNameStart c = true := by
  rw [isNameStart, Text.isLetter_of_isCapital hc, Bool.true_or, Bool.true_or]

/-- No character of a name is a blank. -/
theorem isBlank_of_isNamePart {c : Char} (hc : isNamePart c = true) : Text.isBlank c = false := by
  simp only [isNamePart, Bool.or_eq_true, beq_iff_eq] at hc
  rcases hc with hword | rfl
  · exact Text.isBlank_of_isWord hword
  · decide

theorem isNamePart_of_isBlank {c : Char} (hc : Text.isBlank c = true) : isNamePart c = false :=
  Text.eq_false_of_apart isNamePart Text.isBlank isBlank_of_isNamePart hc

/-- Where blanks stand for one space, they are this space. -/
theorem space_unique {gap s t : List Char} (hgap : ∀ c ∈ gap, Text.isBlank c = true)
    (hs : ∀ c, s.head? = some c → Text.isBlank c = false) (ht : ∀ c, t.head? = some c → Text.isBlank c = false)
    (h : gap ++ s = ' ' :: t) : gap = [' '] ∧ s = t :=
  Text.stretch_unique hgap Text.isBlank_space hs ht h

/-- Blanks and something else that is in no name do not go on with a name. -/
theorem head_blanks {space : List Char} {c : Char} (hspace : ∀ c ∈ space, Text.isBlank c = true)
    (hc : isNamePart c = false) (rest : List Char) :
    ∀ d, (space ++ c :: rest).head? = some d → isNamePart d = false := by
  cases space with
  | nil => exact Text.of_head_cons hc rest
  | cons d space => exact Text.of_head_cons (isNamePart_of_isBlank (hspace d List.mem_cons_self)) _

/-! ## Identifiers -/

/-- A text is an identifier, from its first to its last character. -/
def IsName (s : List Char) : Prop :=
  ∃ first others, s = first :: others ∧ isNameStart first = true ∧ ∀ c ∈ others, isNamePart c = true

namespace IsName

variable {s : List Char}

theorem isNamePart (h : IsName s) : ∀ c ∈ s, isNamePart c = true := by
  obtain ⟨first, others, rfl, hfirst, hothers⟩ := h
  exact List.forall_mem_cons.mpr ⟨isNamePart_of_isNameStart hfirst, hothers⟩

/-- What begins with an identifier begins with no blank. -/
theorem head (h : IsName s) (rest : List Char) : ∀ c, (s ++ rest).head? = some c → isNameStart c = true := by
  obtain ⟨first, others, rfl, hfirst, -⟩ := h
  exact Text.of_head_cons hfirst (others ++ rest)

theorem head_isBlank (h : IsName s) (rest : List Char) : ∀ c, (s ++ rest).head? = some c → Text.isBlank c = false :=
  fun c hc => isBlank_of_isNamePart (isNamePart_of_isNameStart (h.head rest c hc))

end IsName

theorem reads_identifier_iff {before : Option Char} {stretch rest : List Char} {found : List (Nat × List Char)} :
    identifier.Reads before stretch rest found ↔ IsName stretch ∧ found = [] := by
  rw [identifier, reads_one_many_iff]
  constructor
  · rintro ⟨first, others, rfl, hfirst, hothers, rfl⟩
    exact ⟨⟨first, others, rfl, hfirst, hothers⟩, rfl⟩
  · rintro ⟨⟨first, others, rfl, hfirst, hothers⟩, rfl⟩
    exact ⟨first, others, rfl, hfirst, hothers, rfl⟩

theorem reads_identifier_cons {others : List Pattern} {before : Option Char} {stretch rest : List Char}
    {found : List (Nat × List Char)} : (sequence (identifier :: others)).Reads before stretch rest found ↔
      ∃ name tail, stretch = name ++ tail ∧ IsName name ∧
        (sequence others).Reads (beforeAfter before name) tail rest found :=
  reads_cons_of_silent fun _ _ _ => reads_identifier_iff

end Showcase.Script
