import Showcase.Proofs.Address.Escape
import Showcase.Proofs.Text.Split

/-!
# Steps of a path

A path is resolved step by step: steps to the same place are left out, and a step upwards takes back the step before it.
A path without such steps is left as it is, also when it is encoded or when it goes on after a path that is resolved. In
any other case what the path stands for gets shorter.
-/

namespace Showcase.Address

open Text (splitAtChar)

/-- A step to the same place or upwards. -/
def isDotStep (step : List Char) : Bool := step == ['.'] || step == ['.', '.']

/-- A path without steps to the same place and upwards. -/
def IsSettled (path : List Char) : Prop := ∀ step ∈ splitAtChar '/' path, isDotStep step = false

theorem isSettled_of_not_mem {path : List Char} (h : '.' ∉ path) : IsSettled path := by
  intro step hstep
  have hnone : '.' ∉ step := fun hmem => h (Text.mem_of_mem_piece hstep hmem)
  rw [isDotStep, Bool.or_eq_false_iff, beq_eq_false_iff_ne, beq_eq_false_iff_ne]
  constructor
  · rintro rfl
    exact hnone (by simp)
  · rintro rfl
    exact hnone (by simp)

/-- One step that leads neither to the same place nor upwards. -/
theorem isSettled_of_single {step : List Char} (hslash : '/' ∉ step) (hsame : step ≠ ['.']) (hup : step ≠ ['.', '.']) :
    IsSettled step := by
  intro piece hpiece
  rw [Text.splitAtChar_of_not_mem hslash, List.mem_singleton] at hpiece
  rw [hpiece, isDotStep, Bool.or_eq_false_iff, beq_eq_false_iff_ne, beq_eq_false_iff_ne]
  exact ⟨hsame, hup⟩

/-! ## Resolving -/

theorem resolveSteps_cons_of_settled {step : List Char} (h : isDotStep step = false) (done steps : List (List Char)) :
    resolveSteps done (step :: steps) = resolveSteps (step :: done) steps := by
  rw [isDotStep, Bool.or_eq_false_iff] at h
  rw [resolveSteps, if_neg (by simp [h.1]), if_neg (by simp [h.2])]

theorem resolveSteps_of_settled {steps : List (List Char)} (h : ∀ step ∈ steps, isDotStep step = false)
    (done : List (List Char)) : resolveSteps done steps = done.reverse ++ steps := by
  induction steps generalizing done with
  | nil => simp [resolveSteps]
  | cons step steps ih =>
    rw [resolveSteps_cons_of_settled (h step List.mem_cons_self),
      ih fun other hother => h other (List.mem_cons_of_mem _ hother)]
    simp

/-- Steps that go on after others are resolved from where these have led. -/
theorem resolveSteps_append (done first second : List (List Char)) :
    resolveSteps done (first ++ second) = resolveSteps (resolveSteps done first).reverse second := by
  induction first generalizing done with
  | nil => simp [resolveSteps]
  | cons step steps ih =>
    rw [List.cons_append, resolveSteps, resolveSteps]
    split
    · exact ih done
    · split
      · exact ih _
      · exact ih _

theorem normalPath_eq (path : List Char) :
    normalPath path = List.intercalate ['/'] (resolveSteps [] (splitAtChar '/' path)) := by
  unfold normalPath
  dsimp only
  split
  · rfl
  · rename_i hnone
    have hsettled : ∀ step ∈ splitAtChar '/' path, isDotStep step = false := by
      intro step hstep
      rw [Bool.eq_false_iff]
      intro hdot
      exact hnone (List.any_eq_true.mpr ⟨step, hstep, hdot⟩)
    rw [resolveSteps_of_settled hsettled, List.reverse_nil, List.nil_append, Text.intercalate_splitAtChar]

/-- A path that is settled is left as it is. -/
theorem normalPath_of_settled {path : List Char} (h : IsSettled path) : normalPath path = path := by
  rw [normalPath_eq, resolveSteps_of_settled h, List.reverse_nil, List.nil_append, Text.intercalate_splitAtChar]

/-- What has been resolved is settled. -/
theorem isDotStep_of_mem_resolveSteps {done steps : List (List Char)} (hdone : ∀ step ∈ done, isDotStep step = false) :
    ∀ step ∈ resolveSteps done steps, isDotStep step = false := by
  induction steps generalizing done with
  | nil => simpa [resolveSteps] using hdone
  | cons first steps ih =>
    by_cases hfirst : isDotStep first = true
    · rw [isDotStep, Bool.or_eq_true] at hfirst
      rw [resolveSteps]
      split
      · exact ih hdone
      · rename_i hsame
        rw [if_pos (hfirst.resolve_left hsame)]
        -- a step upwards takes away what was done last
        apply ih
        intro step hstep
        split at hstep
        · exact hdone step hstep
        · exact hdone step (List.mem_of_mem_drop hstep)
    · rw [Bool.not_eq_true] at hfirst
      rw [resolveSteps_cons_of_settled hfirst]
      apply ih
      intro step hstep
      rcases List.mem_cons.mp hstep with rfl | hdone'
      · exact hfirst
      · exact hdone step hdone'

theorem mem_of_mem_resolveSteps {done steps : List (List Char)} {step : List Char} (h : step ∈ resolveSteps done steps) :
    step ∈ done ∨ step ∈ steps := by
  induction steps generalizing done with
  | nil => exact .inl (by simpa [resolveSteps] using h)
  | cons first steps ih =>
    rw [resolveSteps] at h
    split at h
    · exact (ih h).imp_right (List.mem_cons_of_mem first)
    · split at h
      · rcases ih h with hdone | hsteps
        · split at hdone
          · exact .inl hdone
          · exact .inl (List.mem_of_mem_drop hdone)
        · exact .inr (List.mem_cons_of_mem first hsteps)
      · rcases ih h with hdone | hsteps
        · rcases List.mem_cons.mp hdone with rfl | hdone
          · exact .inr List.mem_cons_self
          · exact .inl hdone
        · exact .inr (List.mem_cons_of_mem first hsteps)

/-- The root, which stands first, is never taken back. -/
theorem exists_resolveSteps_root (later steps : List (List Char)) :
    ∃ others, resolveSteps (later ++ [[]]) steps = [] :: others := by
  induction steps generalizing later with
  | nil => exact ⟨later.reverse, by simp [resolveSteps]⟩
  | cons step steps ih =>
    rw [resolveSteps]
    split
    · exact ih later
    · split
      · split
        · exact ih later
        · rename_i hroot
          rcases later with _ | ⟨last, others⟩
          · simp at hroot
          · exact ih others
      · exact ih (step :: later)

/-- A path from the root, or an empty one, is resolved to one. -/
theorem resolveSteps_ne_nil {path : List Char} (hpath : path = [] ∨ path.head? = some '/') :
    resolveSteps [] (splitAtChar '/' path) ≠ [] := by
  have hroot : ∃ steps, splitAtChar '/' path = [] :: steps := by
    rcases hpath with rfl | hhead
    · exact ⟨[], rfl⟩
    · rcases path with _ | ⟨c, rest⟩
      · cases hhead
      · obtain rfl : c = '/' := Option.some.inj hhead
        exact ⟨_, Text.splitAtChar_cons_self '/' rest⟩
  obtain ⟨steps, hsteps⟩ := hroot
  obtain ⟨others, hothers⟩ := exists_resolveSteps_root [] steps
  rw [hsteps, resolveSteps_cons_of_settled rfl]
  rw [List.nil_append] at hothers
  rw [hothers]
  simp

/-! ## Paths that go on -/

/-- A settled path that goes on after a path from the root goes on after what this is resolved to. -/
theorem normalPath_append {path : List Char} (hpath : path = [] ∨ path.head? = some '/') {rest : List Char}
    (hrest : IsSettled rest) : normalPath (path ++ '/' :: rest) = normalPath path ++ '/' :: rest := by
  rw [normalPath_eq, normalPath_eq, Text.splitAtChar_append, resolveSteps_append, resolveSteps_of_settled hrest,
    List.reverse_reverse, Text.intercalate_append (resolveSteps_ne_nil hpath) (Text.splitAtChar_ne_nil '/' rest),
    Text.intercalate_splitAtChar]

/-- A step to the same place leads nowhere. -/
theorem normalPath_same {path : List Char} (h : IsSettled path) : normalPath (path ++ '/' :: ['.']) = path := by
  have hstep : splitAtChar '/' ['.'] = [['.']] := rfl
  rw [normalPath_eq, Text.splitAtChar_append, hstep, resolveSteps_append, resolveSteps_of_settled h, List.reverse_nil,
    List.nil_append, resolveSteps, if_pos (beq_self_eq_true _), resolveSteps, List.reverse_reverse,
    Text.intercalate_splitAtChar]

/-- A step upwards takes back the step before it. -/
theorem normalPath_up {path step : List Char} (hstep : '/' ∉ step) (h : IsSettled (path ++ '/' :: step)) :
    normalPath ((path ++ '/' :: step) ++ '/' :: ['.', '.']) = path := by
  have hup : splitAtChar '/' ['.', '.'] = [['.', '.']] := rfl
  have hsteps : splitAtChar '/' (path ++ '/' :: step) = splitAtChar '/' path ++ [step] := by
    rw [Text.splitAtChar_append, Text.splitAtChar_of_not_mem hstep]
  have htaken : (splitAtChar '/' path ++ [step]).reverse = step :: (splitAtChar '/' path).reverse := by
    simp
  have hkept : ((step :: (splitAtChar '/' path).reverse).isEmpty || step :: (splitAtChar '/' path).reverse == [[]]) =
      false := by
    simp [Text.splitAtChar_ne_nil]
  rw [IsSettled, hsteps] at h
  rw [normalPath_eq, Text.splitAtChar_append, hup, hsteps, resolveSteps_append, resolveSteps_of_settled h,
    List.reverse_nil, List.nil_append, htaken, resolveSteps, if_neg (by decide), if_pos (beq_self_eq_true _), hkept,
    if_neg Bool.false_ne_true, List.drop_one, List.tail_cons, resolveSteps, List.reverse_reverse,
    Text.intercalate_splitAtChar]

/-! ## Encoding -/

section

variable {mayStand : Char → Bool}

/-- A path is encoded step by step. -/
theorem splitAtChar_encodePart (hslash : mayStand '/' = true) (path : List Char) :
    splitAtChar '/' (encodePart mayStand path) = (splitAtChar '/' path).map (encodePart mayStand) := by
  induction hlength : path.length using Nat.strongRecOn generalizing path with
  | ind n ih =>
    by_cases hmem : '/' ∈ path
    · -- a slash begins no escape, so that what stands before and behind it is encoded on its own
      obtain ⟨before, after, hsplit, -⟩ := List.eq_append_cons_of_mem hmem
      have hbefore : before.length < n := by
        rw [← hlength, hsplit]
        simp
      have hafter : after.length < n := by
        rw [← hlength, hsplit]
        simp
        omega
      have hcons : encodePart mayStand ('/' :: after) = '/' :: encodePart mayStand after := by
        rw [encodePart_of_alone mayStand (beginsEscape_of_ne (by decide) after), if_pos hslash]
        rfl
      rw [hsplit, encodePart_append mayStand (by decide), hcons, Text.splitAtChar_append, Text.splitAtChar_append,
        ih _ hbefore before rfl, ih _ hafter after rfl, List.map_append]
    · have hnone : '/' ∉ encodePart mayStand path := by
        intro hin
        rcases mem_encodePart hin with ⟨hold, -⟩ | hpercent | hhex
        · exact hmem hold
        · cases hpercent
        · cases hhex
      rw [Text.splitAtChar_of_not_mem hnone, Text.splitAtChar_of_not_mem hmem]
      rfl

/-- A text of points is encoded as it is, and nothing else is encoded as one. -/
theorem encodePart_eq_points (hdot : mayStand '.' = true) {step points : List Char} (hpoints : ∀ c ∈ points, c = '.') :
    encodePart mayStand step = points ↔ step = points := by
  constructor
  · intro h
    have hnone : '%' ∉ encodePart mayStand step := by
      rw [h]
      intro hmem
      exact absurd (hpoints _ hmem) (by decide)
    rw [← encodePart_eq_of_not_mem hnone, h]
  · rintro rfl
    exact encodePart_eq_self fun c hc => by rw [hpoints c hc, hdot]

theorem isDotStep_encodePart (hdot : mayStand '.' = true) (step : List Char) :
    isDotStep (encodePart mayStand step) = isDotStep step := by
  have hone : (encodePart mayStand step == ['.']) = (step == ['.']) := by
    rw [Bool.eq_iff_iff, beq_iff_eq, beq_iff_eq]
    exact encodePart_eq_points hdot (by simp)
  have htwo : (encodePart mayStand step == ['.', '.']) = (step == ['.', '.']) := by
    rw [Bool.eq_iff_iff, beq_iff_eq, beq_iff_eq]
    exact encodePart_eq_points hdot (by simp)
  rw [isDotStep, hone, htwo]
  rfl

/-- A settled path is settled when it is encoded. -/
theorem IsSettled.encodePart (hslash : mayStand '/' = true) (hdot : mayStand '.' = true) {path : List Char}
    (h : IsSettled path) : IsSettled (encodePart mayStand path) := by
  intro step hstep
  rw [splitAtChar_encodePart hslash] at hstep
  obtain ⟨written, hwritten, rfl⟩ := List.mem_map.mp hstep
  rw [isDotStep_encodePart hdot]
  exact h written hwritten

end

/-- A resolved path is settled. -/
theorem isSettled_normalPath (path : List Char) : IsSettled (normalPath path) := by
  intro step hstep
  have hresolved : ∀ piece ∈ resolveSteps [] (splitAtChar '/' path), isDotStep piece = false :=
    isDotStep_of_mem_resolveSteps (by simp)
  have hpieces : ∀ piece ∈ resolveSteps [] (splitAtChar '/' path), '/' ∉ piece := by
    intro piece hpiece
    rcases mem_of_mem_resolveSteps hpiece with hnone | hsteps
    · cases hnone
    · exact Text.not_mem_piece hsteps
  rw [normalPath_eq] at hstep
  by_cases hnil : resolveSteps [] (splitAtChar '/' path) = []
  · rw [hnil] at hstep
    rw [List.mem_singleton.mp hstep]
    rfl
  · rw [Text.splitAtChar_intercalate hnil hpieces] at hstep
    exact hresolved step hstep

/-! ## What paths stand for -/

/-- How many bytes steps stand for, with a slash after each. -/
def weight : List (List Char) → Nat
  | [] => 0
  | step :: steps => (decodedBytes step).length + 1 + weight steps

@[simp] theorem weight_nil : weight [] = 0 := rfl

@[simp] theorem weight_cons (step : List Char) (steps : List (List Char)) :
    weight (step :: steps) = (decodedBytes step).length + 1 + weight steps := rfl

@[simp] theorem weight_append (first second : List (List Char)) :
    weight (first ++ second) = weight first + weight second := by
  induction first with
  | nil => rw [List.nil_append, weight_nil, Nat.zero_add]
  | cons step first ih =>
    rw [List.cons_append, weight_cons, weight_cons, ih]
    omega

@[simp] theorem weight_reverse (steps : List (List Char)) : weight steps.reverse = weight steps := by
  induction steps with
  | nil => rfl
  | cons step steps ih =>
    rw [List.reverse_cons, weight_append, ih, weight_cons, weight_cons, weight_nil]
    omega

theorem weight_drop_le (n : Nat) (steps : List (List Char)) : weight (steps.drop n) ≤ weight steps := by
  conv_rhs => rw [← List.take_append_drop n steps, weight_append]
  exact Nat.le_add_left _ _

theorem length_decodedBytes_slash (s t : List Char) :
    (decodedBytes (s ++ '/' :: t)).length = (decodedBytes s).length + 1 + (decodedBytes t).length := by
  have hslash : (String.utf8EncodeChar '/').length = 1 := by decide
  rw [decodedBytes_append (by decide) (by decide), List.length_append, List.length_append, hslash]
  omega

theorem weight_eq {steps : List (List Char)} (h : steps ≠ []) :
    weight steps = (decodedBytes (List.intercalate ['/'] steps)).length + 1 := by
  induction steps with
  | nil => exact absurd rfl h
  | cons step steps ih =>
    by_cases hsteps : steps = []
    · subst hsteps
      simp
    · rw [Text.intercalate_cons_of_ne_nil hsteps, length_decodedBytes_slash, weight_cons, ih hsteps]
      omega

/-- Resolving takes something away with every step that it resolves. -/
theorem weight_resolveSteps (done steps : List (List Char)) :
    weight (resolveSteps done steps) ≤ weight done + weight steps ∧
      (weight (resolveSteps done steps) = weight done + weight steps → ∀ step ∈ steps, isDotStep step = false) := by
  induction steps generalizing done with
  | nil => simp [resolveSteps]
  | cons step steps ih =>
    rw [resolveSteps, weight_cons]
    -- only a step that is neither the same nor upwards keeps its weight
    split
    · have hrest := (ih done).1
      exact ⟨by omega, fun heq => by omega⟩
    · rename_i hsame
      split
      · have hshorter := weight_drop_le 1 done
        split
        · have hrest := (ih done).1
          exact ⟨by omega, fun heq => by omega⟩
        · have hrest := (ih (done.drop 1)).1
          exact ⟨by omega, fun heq => by omega⟩
      · rename_i hup
        have hrest := ih (step :: done)
        rw [weight_cons] at hrest
        refine ⟨by omega, fun heq => List.forall_mem_cons.mpr ⟨?_, hrest.2 (by omega)⟩⟩
        rw [isDotStep, Bool.or_eq_false_iff]
        exact ⟨Bool.eq_false_iff.mpr hsame, Bool.eq_false_iff.mpr hup⟩

/-- A path that goes on after another stands for at most what both stand for, and for less if it is not settled. -/
theorem length_normalPath_append {path : List Char} (hpath : path = [] ∨ path.head? = some '/') (rest : List Char) :
    (decodedBytes (normalPath (path ++ '/' :: rest))).length ≤
        (decodedBytes (normalPath path)).length + 1 + (decodedBytes rest).length ∧
      ((decodedBytes (normalPath (path ++ '/' :: rest))).length =
        (decodedBytes (normalPath path)).length + 1 + (decodedBytes rest).length → IsSettled rest) := by
  have hwhole : path ++ '/' :: rest = [] ∨ (path ++ '/' :: rest).head? = some '/' := by
    rcases hpath with rfl | hhead
    · exact .inr rfl
    · exact .inr (by rw [List.head?_append, hhead]; rfl)
  have hsum := weight_resolveSteps (resolveSteps [] (splitAtChar '/' path)).reverse (splitAtChar '/' rest)
  rw [← resolveSteps_append, ← Text.splitAtChar_append, weight_reverse, weight_eq (resolveSteps_ne_nil hwhole),
    weight_eq (resolveSteps_ne_nil hpath), weight_eq (Text.splitAtChar_ne_nil '/' rest), ← normalPath_eq,
    ← normalPath_eq, Text.intercalate_splitAtChar] at hsum
  exact ⟨by omega, fun heq => hsum.2 (by omega)⟩

end Showcase.Address
