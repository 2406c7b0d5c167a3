import Mathlib.Data.List.DropRight
import Mathlib.Data.List.TakeWhile
import Showcase.Proofs.Text.Split
import Showcase.Text.Word

/-!
# Stretches of a text

A text splits in one way only into a stretch of one kind of character and what begins with another kind. Blanks and the
characters of words are of different kinds. What is stripped at the ends of a text is told by such a split too.
-/

namespace Showcase.Text

/-! ## Kinds of characters -/

/-- Ranges that lie apart hold no code point in common. -/
theorem CodePointSet.holds_of_apart {first second : CodePointSet}
    (hapart : (first.all fun range => second.all fun other => range.2 < other.1 || other.2 < range.1) = true) {n : Nat}
    (h : first.holds n = true) : second.holds n = false := by
  simp only [holds, List.any_eq_true, List.any_eq_false, List.all_eq_true, Bool.and_eq_true, Bool.or_eq_true,
    decide_eq_true_eq] at *
  obtain ⟨range, hrange, hlow, hhigh⟩ := h
  rintro other hother ⟨hlow', hhigh'⟩
  rcases hapart range hrange other hother with hbefore | hafter <;> omega

theorem ascii_of_isLetter {c : Char} (hc : isLetter c = true) : c.toNat < 128 := by
  simp only [isLetter, Bool.or_eq_true, Bool.and_eq_true, decide_eq_true_eq] at hc
  rcases hc with ⟨-, hle⟩ | ⟨-, hle⟩
  · exact Nat.lt_of_le_of_lt (toNat_le_of_le hle) (by decide)
  · exact Nat.lt_of_le_of_lt (toNat_le_of_le hle) (by decide)

theorem isWord_of_isLetter {c : Char} (hc : isLetter c = true) : isWord c = true := by
  rw [isWord, if_pos (ascii_of_isLetter hc), hc, Bool.true_or, Bool.true_or]

theorem isLetter_of_isCapital {c : Char} (hc : isCapital c = true) : isLetter c = true := by
  rw [isCapital] at hc
  rw [isLetter, hc, Bool.or_true]

theorem ascii_of_isDigit {c : Char} (hc : isDigit c = true) : c.toNat < 128 := by
  simp only [isDigit, Bool.and_eq_true, decide_eq_true_eq] at hc
  exact Nat.lt_of_le_of_lt (toNat_le_of_le hc.2) (by decide)

theorem isWord_of_isDigit {c : Char} (hc : isDigit c = true) : isWord c = true := by
  rw [isWord, if_pos (ascii_of_isDigit hc), hc, Bool.or_true, Bool.true_or]

/-- Where no character of one kind is of another, none of the other is of the one. -/
theorem eq_false_of_apart (kind other : Char → Bool) (h : ∀ {c}, kind c = true → other c = false) {c : Char}
    (hc : other c = true) : kind c = false := by
  by_contra hkind
  rw [h (Bool.not_eq_false _ ▸ hkind)] at hc
  cases hc

/-- A character of another kind is in no stretch of one kind. -/
theorem not_mem_of_kind {kind : Char → Bool} {c : Char} {s : List Char} (hc : kind c = false)
    (hs : ∀ d ∈ s, kind d = true) : c ∉ s := by
  intro hmem
  rw [hs c hmem] at hc
  cases hc

/-- Nothing, and the space between two words, are stretches of blanks. -/
theorem isBlank_nil : ∀ c ∈ [], isBlank c = true := List.forall_mem_nil _

theorem isBlank_space : ∀ c ∈ [' '], isBlank c = true := forall_mem_of_all (by decide)

/-- No character of a word is a blank. -/
theorem isBlank_of_isWord {c : Char} (hc : isWord c = true) : isBlank c = false := by
  by_cases hascii : c.toNat < 128
  · exact of_ascii (p := fun c => isWord c = true → isBlank c = false) (by decide) hascii hc
  · rw [isWord, if_neg hascii] at hc
    rw [isBlank, if_neg hascii]
    exact CodePointSet.holds_of_apart (by decide +kernel) hc

/-! ## Splitting a text -/

section

variable {α : Type} {c : α} {s t u v : List α}

/-- What is not in the first part is in the second. -/
theorem exists_of_not_mem (hs : c ∉ s) (h : s ++ t = u ++ c :: v) : ∃ later, u = s ++ later ∧ t = later ++ c :: v := by
  rcases List.append_eq_append_iff.mp h with ⟨later, hu, ht⟩ | ⟨later, hs', hlater⟩
  · exact ⟨later, hu, ht⟩
  · cases later with
    | nil => exact ⟨[], by simpa using hs'.symm, by simpa using hlater.symm⟩
    | cons d later =>
      obtain rfl : c = d := (List.cons.inj hlater).1
      exact absurd (hs' ▸ List.mem_append_right u List.mem_cons_self) hs

/-- There is one way to split a text at the first place of a character. -/
theorem append_cons_unique (hs : c ∉ s) (hu : c ∉ u) (h : s ++ c :: t = u ++ c :: v) : s = u ∧ t = v := by
  obtain ⟨later, rfl, hlater⟩ := exists_of_not_mem hs h
  cases later with
  | nil => exact ⟨(List.append_nil s).symm, (List.cons.inj hlater).2⟩
  | cons d later =>
    obtain ⟨rfl, -⟩ := List.cons.inj hlater
    exact absurd (List.mem_append_right s List.mem_cons_self) hu

/-- What is not in the second part is in the first. -/
theorem exists_of_not_mem_right (ht : c ∉ t) (h : s ++ t = u ++ c :: v) :
    ∃ later, s = u ++ c :: later ∧ v = later ++ t := by
  rcases List.append_eq_append_iff.mp h with ⟨later, -, ht'⟩ | ⟨later, hs, hlater⟩
  · exact absurd (ht' ▸ List.mem_append_right later List.mem_cons_self) ht
  · cases later with
    | nil =>
      rw [List.nil_append] at hlater
      exact absurd (hlater ▸ List.mem_cons_self) ht
    | cons d later =>
      obtain ⟨rfl, hv⟩ := List.cons.inj hlater
      exact ⟨later, hs, hv⟩

end

section

variable {passes : Char → Bool} {stretch other rest later : List Char}

/-- A stretch of one kind ends where another kind begins. -/
theorem takeWhile_stretch (hstretch : ∀ c ∈ stretch, passes c = true) (hrest : ∀ c, rest.head? = some c → passes c = false) :
    (stretch ++ rest).takeWhile passes = stretch := by
  rw [List.takeWhile_append_of_pos hstretch]
  cases rest with
  | nil => rw [List.takeWhile_nil, List.append_nil]
  | cons c rest => rw [List.takeWhile_cons, if_neg (by simp [hrest c rfl]), List.append_nil]

/-- What begins with a character begins with no other one. -/
theorem of_head_cons {p : Char → Prop} {c : Char} (hc : p c) (rest : List Char) : ∀ d, (c :: rest).head? = some d → p d := by
  intro d hd
  obtain rfl := Option.some.inj hd
  exact hc

/-- There is one way to split a text into a stretch of one kind and what begins with another kind. -/
theorem stretch_unique (hstretch : ∀ c ∈ stretch, passes c = true) (hother : ∀ c ∈ other, passes c = true)
    (hrest : ∀ c, rest.head? = some c → passes c = false) (hlater : ∀ c, later.head? = some c → passes c = false)
    (h : stretch ++ rest = other ++ later) : stretch = other ∧ rest = later := by
  have hsame : stretch = other := by
    rw [← takeWhile_stretch hstretch hrest, h, takeWhile_stretch hother hlater]
  subst hsame
  exact ⟨rfl, List.append_cancel_left h⟩

end

/-! ## Stripping -/

section

variable {drops : Char → Bool} {s t : List Char}

theorem stripEndWhile_append (ht : ∀ c ∈ t, drops c = true) : stripEndWhile drops (s ++ t) = stripEndWhile drops s := by
  have hreverse : ∀ c ∈ t.reverse, drops c = true := fun c hc => ht c (List.mem_reverse.mp hc)
  rw [stripEndWhile, List.reverse_append, List.dropWhile_append_of_pos hreverse, stripEndWhile]

theorem stripEndWhile_eq_self (hs : ∀ c, s.getLast? = some c → drops c = false) : stripEndWhile drops s = s := by
  rw [stripEndWhile]
  cases hreverse : s.reverse with
  | nil => rw [List.dropWhile_nil, List.reverse_eq_nil_iff.mp hreverse, List.reverse_nil]
  | cons c rest =>
    have hlast : s.getLast? = some c := by rw [← List.head?_reverse, hreverse, List.head?_cons]
    rw [List.dropWhile_cons, if_neg (by simp [hs c hlast]), ← hreverse, List.reverse_reverse]

/-- What is stripped at the end is a stretch of what is dropped, and what is left does not end with it. -/
theorem exists_stripEndWhile (drops : Char → Bool) (s : List Char) :
    ∃ t, s = stripEndWhile drops s ++ t ∧ (∀ c ∈ t, drops c = true) ∧
      ∀ c, (stripEndWhile drops s).getLast? = some c → drops c = false := by
  refine ⟨s.rtakeWhile drops, List.rdropWhile_append_rtakeWhile.symm, ?_, ?_⟩
  · intro c hc
    exact List.mem_rtakeWhile_imp hc
  · intro c hc
    have hhead := List.head?_dropWhile_not drops s.reverse
    rw [stripEndWhile, List.getLast?_reverse] at hc
    simpa [hc] using hhead

theorem stripWhile_eq (drops : Char → Bool) (s : List Char) :
    stripWhile drops s = stripEndWhile drops (s.dropWhile drops) := rfl

/-- What is stripped at the two ends are stretches of what is dropped. -/
theorem exists_stripWhile (drops : Char → Bool) (s : List Char) :
    ∃ lead trail, s = lead ++ stripWhile drops s ++ trail ∧ (∀ c ∈ lead, drops c = true) ∧
      ∀ c ∈ trail, drops c = true := by
  obtain ⟨trail, hsplit, htrail, -⟩ := exists_stripEndWhile drops (s.dropWhile drops)
  refine ⟨s.takeWhile drops, trail, ?_, fun c hc => List.mem_takeWhile_imp hc, htrail⟩
  rw [stripWhile_eq, List.append_assoc, ← hsplit, List.takeWhile_append_dropWhile]

theorem stripWhile_append_left (hs : ∀ c ∈ s, drops c = true) : stripWhile drops (s ++ t) = stripWhile drops t := by
  rw [stripWhile_eq, stripWhile_eq, List.dropWhile_append_of_pos hs]

theorem stripWhile_append_right (ht : ∀ c ∈ t, drops c = true) : stripWhile drops (s ++ t) = stripWhile drops s := by
  rw [stripWhile_eq, stripWhile_eq, List.dropWhile_append]
  split
  · rename_i hnone
    have hall : t.dropWhile drops = [] := List.dropWhile_eq_nil_iff.mpr ht
    rw [hall, List.isEmpty_iff.mp hnone]
  · exact stripEndWhile_append ht

end

end Showcase.Text
