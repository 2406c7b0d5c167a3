import Showcase.Proofs.Text.Stretch

/-!
# Words of a text

The words of a text are its longest runs of word characters, from left to right. What is no word character parts them, and
a run that nothing goes on is one of them.
-/

namespace Showcase.Text

/-- The words of a text: what stands between the characters that belong to no word. -/
def wordsOf (s : List Char) : List (List Char) := (s.splitOnP fun c => !isWord c).filter fun word => !word.isEmpty

variable {c : Char} {run rest : List Char}

@[simp] theorem wordsOf_nil : wordsOf [] = [] := by simp [wordsOf, List.splitOnP_nil]

/-- What stands before and behind a character of no word has words of its own. -/
theorem wordsOf_append (hc : isWord c = false) (s t : List Char) : wordsOf (s ++ c :: t) = wordsOf s ++ wordsOf t := by
  have hsplit : (!isWord c) = true := by rw [hc]; rfl
  rw [wordsOf, List.splitOnP_append_cons s t hsplit, List.filter_append]
  rfl

theorem wordsOf_cons (hc : isWord c = false) (rest : List Char) : wordsOf (c :: rest) = wordsOf rest := by
  have happend := wordsOf_append hc [] rest
  rwa [wordsOf_nil] at happend

/-- A run of word characters is one word. -/
theorem wordsOf_of_forall (hne : run ≠ []) (hrun : ∀ c ∈ run, isWord c = true) : wordsOf run = [run] := by
  rw [wordsOf, List.splitOnP_eq_singleton fun c hc => by rw [hrun c hc]; rfl]
  simp [hne]

/-- A run that does not go on is the first word. -/
theorem wordsOf_run (hne : run ≠ []) (hrun : ∀ c ∈ run, isWord c = true)
    (hrest : ∀ c, rest.head? = some c → isWord c = false) : wordsOf (run ++ rest) = run :: wordsOf rest := by
  cases rest with
  | nil => rw [List.append_nil, wordsOf_of_forall hne hrun, wordsOf_nil]
  | cons c rest =>
    have hc := hrest c rfl
    rw [wordsOf_append hc, wordsOf_of_forall hne hrun, wordsOf_cons hc, List.singleton_append]

/-- A text is taken from its end: it is empty, or begins with a character of no word, or with a run that does not go on. -/
theorem runs_induction {motive : List Char → Prop} (nil : motive [])
    (cons : ∀ c rest, isWord c = false → motive rest → motive (c :: rest))
    (append : ∀ run rest, run ≠ [] → (∀ c ∈ run, isWord c = true) → (∀ c, rest.head? = some c → isWord c = false) →
      motive rest → motive (run ++ rest)) (s : List Char) : motive s := by
  induction hlength : s.length using Nat.strong_induction_on generalizing s with
  | _ n ih =>
    cases s with
    | nil => exact nil
    | cons c rest =>
      cases hc : isWord c with
      | false => exact cons c rest hc (ih rest.length (by simp [← hlength]) rest rfl)
      | true =>
        -- the run is taken as far as it goes, so what is left is shorter and begins with no word character
        have hsplit : (c :: rest).takeWhile isWord ++ (c :: rest).dropWhile isWord = c :: rest :=
          List.takeWhile_append_dropWhile
        have hne : (c :: rest).takeWhile isWord ≠ [] := by simp [hc]
        have hstop : ∀ d, ((c :: rest).dropWhile isWord).head? = some d → isWord d = false := by
          intro d hd
          have hnot := List.head?_dropWhile_not isWord (c :: rest)
          rwa [hd] at hnot
        rw [← hsplit]
        refine append _ _ hne (fun d hd => List.mem_takeWhile_imp hd) hstop (ih _ ?_ _ rfl)
        have hsum := congrArg List.length hsplit
        have hpositive := List.length_pos_iff.mpr hne
        rw [List.length_append] at hsum
        omega

/-- The characters of a word are characters of the text. -/
theorem mem_of_mem_wordsOf {word s : List Char} (hword : word ∈ wordsOf s) (hc : c ∈ word) : c ∈ s := by
  induction s using runs_induction with
  | nil => simp at hword
  | cons d rest hd ih =>
    rw [wordsOf_cons hd] at hword
    exact List.mem_cons_of_mem d (ih hword)
  | append run rest hne hrun hrest ih =>
    rw [wordsOf_run hne hrun hrest] at hword
    rcases List.mem_cons.mp hword with rfl | hlater
    · exact List.mem_append_left rest hc
    · exact List.mem_append_right run (ih hlater)

end Showcase.Text
