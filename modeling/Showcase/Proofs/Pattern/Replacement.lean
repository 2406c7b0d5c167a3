import Showcase.Pattern.Search
import Showcase.Proofs.Pattern.Reading

/-!
# Replacing what a pattern reads

A text is rewritten from left to right: where the pattern reads nothing, a character is kept, and where it does, the
stretch gives way to its replacement. `Rewrites` describes the way through a text without any order of choices, and
`replaceAll_eq` says that replacement goes that way. A text in which the pattern reads nothing stays as it is.
-/

namespace Showcase.Pattern

variable {pattern : Pattern} {before : Option Char} {offset : Nat} {text : List Char}

/-! ## A match at a place -/

/-- What a match tells: its length and what was captured. -/
structure Tells (m : Match) (stretch : List Char) (found : List (Nat × List Char)) : Prop where
  text : m.text = stretch
  length : m.span.length = stretch.length
  captured? : ∀ number, m.captured? number = found.lookup number

theorem lookup_texts (captures : List (Nat × Span)) (number : Nat) :
    (Span.texts captures).lookup number = (captures.lookup number).map Span.text := by
  induction captures with
  | nil => rfl
  | cons entry others ih =>
    obtain ⟨known, span⟩ := entry
    rw [Span.texts, List.map_cons, List.lookup_cons, List.lookup_cons]
    by_cases hknown : (number == known) = true
    · rw [hknown]
      rfl
    · rw [Bool.not_eq_true] at hknown
      rw [hknown]
      exact ih

theorem matchAt_eq_none : pattern.matchAt before offset text = none ↔ pattern.ReadsNothing before text := by
  rw [matchAt, Option.map_eq_none_iff]
  constructor
  · intro hnone stretch rest found hsplit hreads
    have hsome : (pattern.run some ⟨before, offset, text, []⟩).isSome = true := by
      apply isSome_run_of_reads hsplit hreads
      intro mid _
      rfl
    rw [hnone] at hsome
    cases hsome
  · intro hnothing
    cases hrun : pattern.run some ⟨before, offset, text, []⟩ with
    | none => rfl
    | some stop =>
      obtain ⟨stretch, rest, found, mid, hreads, hmid, -⟩ := exists_reads_of_run hrun
      exact absurd hreads (hnothing stretch rest found hmid.text)

/-- A match that goes from a place over a stretch. -/
theorem tells_of_advances {stretch rest : List Char} {found : List (Nat × List Char)} {stop : Cursor}
    (h : Advances ⟨before, offset, text, []⟩ stretch rest found stop) :
    Tells ⟨⟨text, stop.offset - offset⟩, stop.captures⟩ stretch found := by
  have hlength : stop.offset - offset = stretch.length := by
    rw [h.offset, Nat.add_sub_cancel_left]
  refine ⟨?_, hlength, ?_⟩
  · have htext : text = stretch ++ rest := h.text
    simp only [Match.text, Span.text, hlength, htext, List.take_left]
  · intro number
    have hcaptures := h.captures
    rw [show Span.texts (Cursor.captures ⟨before, offset, text, []⟩) = [] from rfl, List.append_nil] at hcaptures
    rw [Match.captured?, ← hcaptures, lookup_texts]

/-- A match is a stretch that the pattern reads. -/
theorem reads_of_matchAt {m : Match} (h : pattern.matchAt before offset text = some m) :
    ∃ stretch rest found, text = stretch ++ rest ∧ pattern.Reads before stretch rest found ∧
      Tells m stretch found := by
  obtain ⟨stop, hrun, rfl⟩ := Option.map_eq_some_iff.mp h
  obtain ⟨stretch, rest, found, mid, hreads, hmid, hstop⟩ := exists_reads_of_run hrun
  obtain rfl := Option.some.inj hstop
  exact ⟨stretch, rest, found, hmid.text, hreads, tells_of_advances hmid⟩

/-- Where the pattern reads something there is a match. -/
theorem exists_matchAt {stretch rest : List Char} {found : List (Nat × List Char)}
    (h : pattern.Reads before stretch rest found) (offset : Nat) :
    ∃ m, pattern.matchAt before offset (stretch ++ rest) = some m := by
  cases hmatch : pattern.matchAt before offset (stretch ++ rest) with
  | none => exact absurd h (matchAt_eq_none.mp hmatch stretch rest found rfl)
  | some m => exact ⟨m, rfl⟩

theorem run_sequence_append (first second : List Pattern) (go : Cursor → Option Cursor) (place : Cursor) :
    (sequence (first ++ second)).run go place = (sequence first).run ((sequence second).run go) place := by
  induction first generalizing place with
  | nil => rfl
  | cons pattern first ih =>
    rw [List.cons_append, sequence, sequence, run, run, funext ih]

/-- A capture that takes no more than it must, between other patterns: from no earlier place is the rest of the pattern
read. -/
theorem exists_shortest_of_matchAt {number offset : Nat} {test : Char → Bool} {front behind : List Pattern} {m : Match}
    (h : (sequence (front ++ capture number (few test 0) :: behind)).matchAt before offset text = some m) :
    ∃ head body tail rest earlier later, text = head ++ (body ++ (tail ++ rest)) ∧
      (sequence front).Reads before head (body ++ (tail ++ rest)) earlier ∧
      (sequence behind).Reads (beforeAfter (beforeAfter before head) body) tail rest later ∧
      Tells m (head ++ (body ++ tail)) (later ++ (number, body) :: earlier) ∧
      ∀ nearer farther, body = nearer ++ farther → farther ≠ [] →
        (sequence behind).ReadsNothing (beforeAfter (beforeAfter before head) nearer) (farther ++ (tail ++ rest)) := by
  obtain ⟨stop, hrun, rfl⟩ := Option.map_eq_some_iff.mp h
  rw [run_sequence_append] at hrun
  obtain ⟨head, _, earlier, place₁, hfront, hplace₁, hrun⟩ := exists_reads_of_run hrun
  obtain ⟨body, _, place₂, hplace₂, hrun, hshortest⟩ := exists_shortest_of_run_sequence hrun
  obtain ⟨tail, rest, later, place₃, hbehind, hplace₃, hstop⟩ := exists_reads_of_run hrun
  obtain rfl := Option.some.inj hstop
  obtain rfl := hplace₂.rest.symm.trans hplace₃.text
  obtain rfl := hplace₁.rest.symm.trans hplace₂.text
  rw [hplace₂.before, hplace₁.before] at hbehind
  rw [hplace₁.before] at hshortest
  have hadvances := (hplace₁.trans hplace₂).trans hplace₃
  rw [List.append_assoc] at hadvances
  exact ⟨head, body, tail, rest, earlier, later, hplace₁.text, hfront, hbehind, tells_of_advances hadvances, hshortest⟩

/-! ## The first match -/

/-- Where the pattern reads nothing the search goes on. -/
theorem findFrom_skip {passed : List Char}
    (hpassed : ∀ earlier later, passed = earlier ++ later → later ≠ [] →
      pattern.ReadsNothing (beforeAfter before earlier) (later ++ text)) :
    pattern.findFrom before offset (passed ++ text) =
      pattern.findFrom (beforeAfter before passed) (offset + passed.length) text := by
  induction passed generalizing before offset with
  | nil => rfl
  | cons c passed ih =>
    have hnone : pattern.matchAt before offset (c :: (passed ++ text)) = none :=
      matchAt_eq_none.mpr (hpassed [] (c :: passed) rfl (List.cons_ne_nil c passed))
    have hlater : ∀ earlier later, passed = earlier ++ later → later ≠ [] →
        pattern.ReadsNothing (beforeAfter (some c) earlier) (later ++ text) := by
      intro earlier later hsplit hlater
      rw [← beforeAfter_cons before]
      exact hpassed (c :: earlier) later (by rw [hsplit, List.cons_append]) hlater
    rw [List.cons_append, findFrom, hnone, beforeAfter_cons, List.length_cons, Nat.add_comm passed.length,
      ← Nat.add_assoc]
    exact ih hlater

/-- A match at the place is the first one. -/
theorem findFrom_of_matchAt {m : Match} (h : pattern.matchAt before offset text = some m) :
    pattern.findFrom before offset text = some m := by
  cases text with
  | nil => exact h
  | cons c rest => rw [findFrom, h]

/-! ## Replacement -/

/-- A text becomes another when every stretch that a pattern reads gives way to its replacement. -/
inductive Rewrites (pattern : Pattern) (replacement : Match → List Char) :
    (before : Option Char) → (text result : List Char) → Prop where
  | nil {before : Option Char} : Rewrites pattern replacement before [] []
  | keep {before : Option Char} {c : Char} {rest result : List Char}
      (hnothing : pattern.ReadsNothing before (c :: rest)) (h : Rewrites pattern replacement (some c) rest result) :
      Rewrites pattern replacement before (c :: rest) (c :: result)
  | swap {before : Option Char} {stretch rest new result : List Char} (hstretch : stretch ≠ [])
      (hreads : ∃ found, pattern.Reads before stretch rest found)
      (honly : ∀ other later found, stretch ++ rest = other ++ later → pattern.Reads before other later found →
        other = stretch ∧ ∀ m, Tells m other found → replacement m = new)
      (h : Rewrites pattern replacement (beforeAfter before stretch) rest result) :
      Rewrites pattern replacement before (stretch ++ rest) (new ++ result)

variable {replacement : Match → List Char}

/-- What a part of a divided text becomes. -/
def Part.become (replacement : Match → List Char) : Part → List Char
  | .plain c => [c]
  | .found m => replacement m

theorem replaceAll_eq_flatMap (pattern : Pattern) (replacement : Match → List Char) (text : List Char) :
    pattern.replaceAll replacement text = (pattern.divide text).flatMap (Part.become replacement) := by
  rw [replaceAll]
  congr 1

/-- What belongs to a match is passed over. -/
theorem divideFrom_passed (stretch rest : List Char) :
    pattern.divideFrom before offset stretch.length (stretch ++ rest) =
      pattern.divideFrom (beforeAfter before stretch) (offset + stretch.length) 0 rest := by
  induction stretch generalizing before offset with
  | nil => rfl
  | cons c stretch ih =>
    rw [List.cons_append, List.length_cons, divideFrom, ih, beforeAfter_cons, Nat.add_comm stretch.length,
      ← Nat.add_assoc]

theorem Rewrites.flatMap_divideFrom {result : List Char} (h : Rewrites pattern replacement before text result)
    (offset : Nat) : (pattern.divideFrom before offset 0 text).flatMap (Part.become replacement) = result := by
  induction h generalizing offset with
  | nil => rfl
  | @keep before c rest result hnothing _ ih =>
    rw [divideFrom, matchAt_eq_none.mpr hnothing]
    exact congrArg (c :: ·) (ih (offset + 1))
  | @swap before stretch rest new result hstretch hreads honly _ ih =>
    obtain ⟨found, hreads⟩ := hreads
    obtain ⟨m, hmatch⟩ := exists_matchAt hreads offset
    obtain ⟨other, later, captured, hsplit, hother, htells⟩ := reads_of_matchAt hmatch
    obtain ⟨rfl, hnew⟩ := honly other later captured hsplit hother
    cases other with
    | nil => exact absurd rfl hstretch
    | cons c other =>
      have hlength : m.span.length = other.length + 1 := htells.length
      rw [List.cons_append] at hmatch ⊢
      rw [divideFrom, hmatch]
      simp only [hlength, Nat.add_one_ne_zero, if_false, Nat.add_sub_cancel]
      rw [divideFrom_passed, List.flatMap_cons, ← beforeAfter_cons before, ih]
      exact congrArg (· ++ result) (hnew m htells)

/-- Replacement rewrites a text. -/
theorem Rewrites.replaceAll_eq {result : List Char} (h : Rewrites pattern replacement none text result) :
    pattern.replaceAll replacement text = result := by
  rw [replaceAll_eq_flatMap]
  exact h.flatMap_divideFrom 0

/-- A stretch in which nothing is read is kept. -/
theorem Rewrites.keepAll {kept rest result : List Char}
    (hkept : ∀ earlier later, kept = earlier ++ later → later ≠ [] →
      pattern.ReadsNothing (beforeAfter before earlier) (later ++ rest))
    (h : Rewrites pattern replacement (beforeAfter before kept) rest result) :
    Rewrites pattern replacement before (kept ++ rest) (kept ++ result) := by
  induction kept generalizing before with
  | nil => exact h
  | cons c kept ih =>
    rw [beforeAfter_cons] at h
    refine .keep (hkept [] (c :: kept) rfl (List.cons_ne_nil c kept)) (ih ?_ h)
    intro earlier later hsplit hlater
    rw [← beforeAfter_cons before]
    exact hkept (c :: earlier) later (by rw [hsplit, List.cons_append]) hlater

/-- A text in which nothing is read stays as it is. -/
theorem replaceAll_eq_self (h : ∀ earlier later, text = earlier ++ later → later ≠ [] →
    pattern.ReadsNothing (beforeAfter none earlier) later) : pattern.replaceAll replacement text = text := by
  have hrewrites : Rewrites pattern replacement none (text ++ []) (text ++ []) := by
    apply Rewrites.keepAll
    · intro earlier later hsplit hlater
      rw [List.append_nil]
      exact h earlier later hsplit hlater
    · exact .nil
  rw [List.append_nil] at hrewrites
  exact hrewrites.replaceAll_eq

end Showcase.Pattern
