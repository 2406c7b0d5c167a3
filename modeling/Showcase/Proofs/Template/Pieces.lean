import Mathlib.Data.List.TakeWhile
import Showcase.Template.Basic

/-!
# Reading a template

Reading a template from the left divides it into pieces. A division is the one that reading yields exactly if it writes the
template, its placeholders have bodies without closing braces, and no letter stands where a placeholder could begin:
`pieces_eq_iff` says so, and everything else about templates follows from it.
-/

namespace Showcase.Template

/-! ## Where a placeholder begins -/

/-- What may stand between the braces of a placeholder. -/
def IsBody (body : List Char) : Prop := body ≠ [] ∧ '}' ∉ body

/-- A text begins with a placeholder. -/
def Opens (s : List Char) : Prop :=
  ∃ body rest, IsBody body ∧ s = '{' :: '{' :: (body ++ '}' :: '}' :: rest)

theorem ne_closing_of_not_mem {body : List Char} (h : '}' ∉ body) : ∀ c ∈ body, (c != '}') = true := by
  intro c hc
  rw [bne_iff_ne]
  rintro rfl
  exact h hc

/-- The body of the placeholder that a text begins with ends at the first closing brace. -/
theorem placeholderAt?_eq_some {s body : List Char} :
    placeholderAt? s = some body ↔ IsBody body ∧ ∃ rest, s = '{' :: '{' :: (body ++ '}' :: '}' :: rest) := by
  constructor
  · intro h
    unfold placeholderAt? at h
    split at h
    · rename_i rest
      dsimp only at h
      -- the body reaches up to the first closing brace, behind which another has to stand
      split at h
      · cases h
      · rename_i hfilled
        split at h
        · rename_i later hdrop
          obtain rfl := Option.some.inj h
          refine ⟨⟨fun hnil => hfilled (by rw [hnil]; rfl), fun hclosing => ?_⟩, later, ?_⟩
          · exact absurd (List.mem_takeWhile_imp hclosing) (by decide)
          · rw [← hdrop, List.takeWhile_append_dropWhile]
        · cases h
    · cases h
  · rintro ⟨⟨hfilled, hclosing⟩, rest, rfl⟩
    have hbody := ne_closing_of_not_mem hclosing
    have htake : (body ++ '}' :: '}' :: rest).takeWhile (· != '}') = body := by
      rw [List.takeWhile_append_of_pos hbody]
      simp
    have hdrop : (body ++ '}' :: '}' :: rest).dropWhile (· != '}') = '}' :: '}' :: rest := by
      rw [List.dropWhile_append_of_pos hbody]
      simp
    simp [placeholderAt?, htake, hdrop, hfilled]

theorem placeholderAt?_eq_none {s : List Char} : placeholderAt? s = none ↔ ¬Opens s := by
  constructor
  · rintro h ⟨body, rest, hbody, hs⟩
    rw [placeholderAt?_eq_some.mpr ⟨hbody, rest, hs⟩] at h
    cases h
  · intro h
    cases hs : placeholderAt? s with
    | none => rfl
    | some body =>
      obtain ⟨hbody, rest, hrest⟩ := placeholderAt?_eq_some.mp hs
      exact absurd ⟨body, rest, hbody, hrest⟩ h

/-! ## Reading -/

theorem piecesFrom_eq (taken : Nat) (s : List Char) : piecesFrom taken s = pieces (s.drop taken) := by
  induction s generalizing taken with
  | nil => cases taken <;> rfl
  | cons c rest ih =>
    cases taken with
    | zero => rfl
    | succ taken => exact ih taken

@[simp] theorem pieces_nil : pieces [] = [] := rfl

theorem pieces_letter {c : Char} {rest : List Char} (h : ¬Opens (c :: rest)) :
    pieces (c :: rest) = .letter c :: pieces rest := by
  rw [pieces, piecesFrom, placeholderAt?_eq_none.mpr h]
  rfl

theorem pieces_placeholder {body : List Char} (hbody : IsBody body) (rest : List Char) :
    pieces ('{' :: '{' :: (body ++ '}' :: '}' :: rest)) = .placeholder body :: pieces rest := by
  rw [pieces, piecesFrom, placeholderAt?_eq_some.mpr ⟨hbody, rest, rfl⟩]
  -- past the body there are the second opening brace and the two closing ones
  have hskipped : ('{' :: (body ++ '}' :: '}' :: rest)).drop (body.length + 3) = rest := by
    rw [List.drop_succ_cons, List.drop_append]
    simp
  simp only [piecesFrom_eq, hskipped]

/-! ## Divisions -/

/-- The text of pieces, one after the other. -/
def written (division : List Piece) : List Char := division.flatMap Piece.text

@[simp] theorem written_nil : written [] = [] := rfl

@[simp] theorem written_letter (c : Char) (later : List Piece) : written (.letter c :: later) = c :: written later := rfl

@[simp] theorem written_placeholder (body : List Char) (later : List Piece) :
    written (.placeholder body :: later) = '{' :: '{' :: (body ++ '}' :: '}' :: written later) := by
  simp [written, Piece.text]

theorem written_append (division later : List Piece) : written (division ++ later) = written division ++ written later :=
  List.flatMap_append

/-- A division of a text that passes over no placeholder. -/
inductive IsReading : List Piece → Prop where
  | nil : IsReading []
  | letter {c : Char} {later : List Piece} (hfree : ¬Opens (c :: written later)) (hlater : IsReading later) :
      IsReading (.letter c :: later)
  | placeholder {body : List Char} {later : List Piece} (hbody : IsBody body) (hlater : IsReading later) :
      IsReading (.placeholder body :: later)

theorem IsReading.pieces_written {division : List Piece} (h : IsReading division) :
    pieces (written division) = division := by
  induction h with
  | nil => rfl
  | letter hfree _ ih => rw [written_letter, pieces_letter hfree, ih]
  | placeholder hbody _ ih => rw [written_placeholder, pieces_placeholder hbody, ih]

/-- Reading passes over no placeholder, and what is read is the whole text. -/
theorem isReading_pieces (s : List Char) : IsReading (pieces s) ∧ written (pieces s) = s := by
  induction hlength : s.length using Nat.strong_induction_on generalizing s with
  | _ length ih =>
    subst hlength
    rcases s with _ | ⟨c, rest⟩
    · exact ⟨.nil, rfl⟩
    by_cases hopens : Opens (c :: rest)
    · obtain ⟨body, later, hbody, hs⟩ := hopens
      rw [hs, pieces_placeholder hbody, written_placeholder]
      obtain ⟨hlater, hwritten⟩ := ih later.length (by simp [hs]; omega) later rfl
      rw [hwritten]
      exact ⟨.placeholder hbody hlater, rfl⟩
    · rw [pieces_letter hopens, written_letter]
      obtain ⟨hlater, hwritten⟩ := ih rest.length (by simp) rest rfl
      rw [hwritten]
      exact ⟨.letter (by rwa [hwritten]) hlater, rfl⟩

/-- A text has one division that passes over no placeholder, and it is the one that is read. -/
theorem pieces_eq_iff {s : List Char} {division : List Piece} :
    pieces s = division ↔ IsReading division ∧ written division = s := by
  constructor
  · rintro rfl
    exact isReading_pieces s
  · rintro ⟨hreading, rfl⟩
    exact hreading.pieces_written

end Showcase.Template
