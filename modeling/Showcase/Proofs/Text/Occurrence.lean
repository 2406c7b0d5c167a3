import Showcase.Proofs.Text.Split

/-!
# Occurrences of a part

What stands in a text after the last occurrence of a part, and what stands before the first one. A part has no occurrence
where its first character is missing, or where its second one never follows its first one.
-/

namespace Showcase.Text

/-- What stands after the last occurrence of a part, if there is one. -/
def afterLastOf? (part : List Char) : List Char → Option (List Char)
  | [] => if part.isEmpty then some [] else none
  | c :: rest =>
    match afterLastOf? part rest with
    | some later => some later
    | none => if part.isPrefixOf (c :: rest) then some ((c :: rest).drop part.length) else none

/-- What stands before the first occurrence of a part, if there is one. -/
def beforeFirstOf? (part : List Char) : List Char → Option (List Char)
  | [] => if part.isEmpty then some [] else none
  | c :: rest => if part.isPrefixOf (c :: rest) then some [] else (beforeFirstOf? part rest).map (c :: ·)

variable {first : Char} {later : List Char}

theorem isPrefixOf_of_ne {c : Char} (hc : c ≠ first) (rest : List Char) :
    (first :: later).isPrefixOf (c :: rest) = false := by
  simp [List.isPrefixOf, Ne.symm hc]

/-- Where the first character of a part is missing, no occurrence begins. -/
theorem afterLastOf?_skip {s : List Char} (hs : first ∉ s) (t : List Char) :
    afterLastOf? (first :: later) (s ++ t) = afterLastOf? (first :: later) t := by
  induction s with
  | nil => rfl
  | cons c rest ih =>
    rw [List.mem_cons, not_or] at hs
    rw [List.cons_append, afterLastOf?, ih hs.2, isPrefixOf_of_ne (Ne.symm hs.1)]
    cases afterLastOf? (first :: later) t <;> rfl

/-- An occurrence is the last one if the part occurs nowhere behind its first character. -/
theorem afterLastOf?_append {rest : List Char} (hlast : afterLastOf? (first :: later) (later ++ rest) = none)
    (before : List Char) : afterLastOf? (first :: later) (before ++ (first :: later ++ rest)) = some rest := by
  induction before with
  | nil =>
    have hprefix : (first :: later).isPrefixOf (first :: (later ++ rest)) = true :=
      List.isPrefixOf_iff_prefix.mpr (List.prefix_append (first :: later) rest)
    have hdrop : (first :: (later ++ rest)).drop (first :: later).length = rest := by
      rw [← List.cons_append, List.drop_left]
    rw [List.nil_append, List.cons_append, afterLastOf?, hlast, hprefix, if_pos rfl, hdrop]
  | cons c before ih => rw [List.cons_append, afterLastOf?, ih]

/-- An occurrence is the first one if the first character of the part is missing before it. -/
theorem beforeFirstOf?_append {s : List Char} (hs : first ∉ s) (rest : List Char) :
    beforeFirstOf? (first :: later) (s ++ (first :: later ++ rest)) = some s := by
  induction s with
  | nil =>
    have hprefix : (first :: later).isPrefixOf (first :: (later ++ rest)) = true :=
      List.isPrefixOf_iff_prefix.mpr (List.prefix_append (first :: later) rest)
    rw [List.nil_append, List.cons_append, beforeFirstOf?, hprefix, if_pos rfl]
  | cons c s ih =>
    rw [List.mem_cons, not_or] at hs
    rw [List.cons_append, beforeFirstOf?, isPrefixOf_of_ne (Ne.symm hs.1), ih hs.2]
    rfl

/-! ## Pairs of characters -/

/-- Whether one character stands right before another somewhere in a text. -/
def hasPair (a b : Char) : List Char → Bool
  | c :: d :: rest => (c == a && d == b) || hasPair a b (d :: rest)
  | _ => false

variable {a b : Char}

theorem hasPair_cons_of_ne {c : Char} (hc : c ≠ a) (s : List Char) : hasPair a b (c :: s) = hasPair a b s := by
  cases s with
  | nil => rfl
  | cons d rest => simp [hasPair, hc]

/-- A character that is not the second of a pair parts what stands before it from what follows. -/
theorem hasPair_append {c : Char} (hc : c ≠ b) (s t : List Char) :
    hasPair a b (s ++ c :: t) = (hasPair a b s || hasPair a b (c :: t)) := by
  induction s with
  | nil => rfl
  | cons d rest ih =>
    cases rest with
    | nil => simp [hasPair, hc]
    | cons e rest =>
      rw [List.cons_append] at ih
      rw [List.cons_append, List.cons_append, hasPair, ih, hasPair, Bool.or_assoc]

/-- Joined by a character that is in no pair, texts without a pair have none. -/
theorem hasPair_intercalate {c : Char} (ha : c ≠ a) (hb : c ≠ b) {lines : List (List Char)}
    (hlines : ∀ line ∈ lines, hasPair a b line = false) : hasPair a b ([c].intercalate lines) = false := by
  induction lines with
  | nil => rfl
  | cons line lines ih =>
    obtain ⟨hline, hlines⟩ := List.forall_mem_cons.mp hlines
    cases lines with
    | nil => simpa using hline
    | cons next lines =>
      rw [intercalate_cons_of_ne_nil (List.cons_ne_nil next lines), hasPair_append hb, hline,
        hasPair_cons_of_ne ha, ih hlines]
      rfl

theorem hasPair_of_eq {s : String} {chars : List Char} (h : s = String.ofList chars)
    (hchars : hasPair a b chars = false) : hasPair a b s.toList = false := by
  rw [toList_of_eq h, hchars]

/-- Where the first two characters of a part are nowhere together, the part does not occur. -/
theorem afterLastOf?_of_hasPair {s : List Char} (hs : hasPair a b s = false) :
    afterLastOf? (a :: b :: later) s = none := by
  induction s with
  | nil => rfl
  | cons c rest ih =>
    cases rest with
    | nil => simp [afterLastOf?, List.isPrefixOf]
    | cons d rest =>
      -- the part would begin here with the pair that is nowhere
      rw [hasPair, Bool.or_eq_false_iff] at hs
      have hprefix : (a :: b :: later).isPrefixOf (c :: d :: rest) = false := by
        by_contra hfound
        simp only [Bool.not_eq_false, List.isPrefixOf, Bool.and_eq_true, beq_iff_eq] at hfound
        simp [hfound] at hs
      rw [afterLastOf?, ih hs.2, hprefix]
      rfl

end Showcase.Text
