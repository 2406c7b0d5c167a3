import Showcase.Proofs.Pattern.Replacement

/-!
# What a search finds

A search stops at the first place from which the pattern reads something. So what it finds is a stretch that the pattern
reads, behind a part of the text in which it reads nothing; and if it finds nothing, the pattern reads nothing at all.
-/

namespace Showcase.Pattern

variable {pattern : Pattern} {before : Option Char} {offset : Nat} {text : List Char} {m : Match}

/-! ## Passing over a part of a text -/

/-- A pattern reads nothing from any place in a stretch on, with `text` behind the stretch. -/
def Passes (pattern : Pattern) (before : Option Char) (passed text : List Char) : Prop :=
  ∀ earlier later, passed = earlier ++ later → later ≠ [] → pattern.ReadsNothing (beforeAfter before earlier) (later ++ text)

theorem passes_nil (pattern : Pattern) (before : Option Char) (text : List Char) : Passes pattern before [] text := by
  intro earlier later hsplit hlater
  exact absurd (List.append_eq_nil_iff.mp hsplit.symm).2 hlater

/-- Nothing is read at the head of a stretch, and nothing behind its first character. -/
theorem Passes.cons {c : Char} {passed : List Char} (hhead : pattern.ReadsNothing before (c :: (passed ++ text)))
    (h : Passes pattern (some c) passed text) : Passes pattern before (c :: passed) text := by
  intro earlier later hsplit hlater
  cases earlier with
  | nil =>
    obtain rfl : c :: passed = later := hsplit
    exact hhead
  | cons d earlier =>
    obtain ⟨rfl, hrest⟩ := List.cons.inj hsplit
    rw [beforeAfter_cons]
    exact h earlier later hrest hlater

/-- Where everything that a pattern reads begins with one character, it reads nothing in a stretch without it. -/
theorem passes_of_not_mem {c : Char} {passed : List Char}
    (hbegins : ∀ {before : Option Char} {stretch rest : List Char} {found : List (Nat × List Char)},
      pattern.Reads before stretch rest found → ∃ tail, stretch = c :: tail)
    (hpassed : c ∉ passed) (before : Option Char) (text : List Char) : Passes pattern before passed text := by
  rintro earlier later rfl hlater stretch rest found hsplit hreads
  obtain ⟨tail, rfl⟩ := hbegins hreads
  obtain ⟨d, later, rfl⟩ := List.exists_cons_of_ne_nil hlater
  obtain ⟨rfl, -⟩ := List.cons.inj hsplit
  exact hpassed (List.mem_append_right earlier List.mem_cons_self)

/-! ## The first match -/

/-- A match at a place begins there. -/
theorem start_of_matchAt (h : pattern.matchAt before offset text = some m) : m.span.start = text := by
  obtain ⟨stop, -, rfl⟩ := Option.map_eq_some_iff.mp h
  rfl

/-- What a search finds: a stretch that the pattern reads, behind a part of the text that it passes over. -/
structure Finds (pattern : Pattern) (before : Option Char) (m : Match) (passed stretch rest : List Char)
    (found : List (Nat × List Char)) : Prop where
  passes : Passes pattern before passed (stretch ++ rest)
  reads : pattern.Reads (beforeAfter before passed) stretch rest found
  tells : Tells m stretch found
  start : m.span.start = stretch ++ rest

theorem Finds.of_matchAt (h : pattern.matchAt before offset text = some m) :
    ∃ stretch rest found, text = stretch ++ rest ∧ Finds pattern before m [] stretch rest found := by
  obtain ⟨stretch, rest, found, hsplit, hreads, htells⟩ := reads_of_matchAt h
  exact ⟨stretch, rest, found, hsplit, passes_nil pattern before _, hreads, htells, (start_of_matchAt h).trans hsplit⟩

/-- A search finds a stretch that the pattern reads, and passes over what is before it. -/
theorem exists_finds_of_findFrom (h : pattern.findFrom before offset text = some m) :
    ∃ passed stretch rest found, text = passed ++ (stretch ++ rest) ∧ Finds pattern before m passed stretch rest found := by
  induction text generalizing before offset with
  | nil =>
    obtain ⟨stretch, rest, found, hsplit, hfinds⟩ := Finds.of_matchAt h
    exact ⟨[], stretch, rest, found, hsplit, hfinds⟩
  | cons c text ih =>
    rw [findFrom] at h
    split at h
    · rename_i other hother
      obtain ⟨stretch, rest, found, hsplit, hfinds⟩ := Finds.of_matchAt (hother.trans h)
      exact ⟨[], stretch, rest, found, hsplit, hfinds⟩
    · rename_i hnone
      obtain ⟨passed, stretch, rest, found, rfl, hfinds⟩ := ih h
      have hnothing := matchAt_eq_none.mp hnone
      refine ⟨c :: passed, stretch, rest, found, rfl, .cons hnothing hfinds.passes, ?_, hfinds.tells, hfinds.start⟩
      rw [beforeAfter_cons]
      exact hfinds.reads

/-- A search finds nothing exactly if there is no place from which the pattern reads something. -/
theorem findFrom_eq_none : pattern.findFrom before offset text = none ↔
    ∀ passed later, text = passed ++ later → pattern.ReadsNothing (beforeAfter before passed) later := by
  constructor
  · intro hnone passed later hsplit
    -- the pattern was tried at every place that the search passed
    induction passed generalizing before offset text with
    | nil =>
      obtain rfl : text = later := hsplit
      cases hmatch : pattern.matchAt before offset text with
      | none => exact matchAt_eq_none.mp hmatch
      | some m =>
        rw [findFrom_of_matchAt hmatch] at hnone
        cases hnone
    | cons c passed ih =>
      subst hsplit
      rw [List.cons_append, findFrom] at hnone
      split at hnone
      · cases hnone
      · rw [beforeAfter_cons]
        exact ih hnone rfl
  · intro hnothing
    cases hfind : pattern.findFrom before offset text with
    | none => rfl
    | some m =>
      obtain ⟨passed, stretch, rest, found, hsplit, hfinds⟩ := exists_finds_of_findFrom hfind
      exact absurd hfinds.reads (hnothing passed _ hsplit stretch rest found rfl)

/-- A pattern occurs in a text: it reads a stretch of it. -/
def Occurs (pattern : Pattern) (text : List Char) : Prop :=
  ∃ passed stretch rest found, text = passed ++ (stretch ++ rest) ∧
    pattern.Reads (beforeAfter none passed) stretch rest found

/-- A search finds something exactly if the pattern occurs in the text. -/
theorem find?_eq_none : pattern.find? text = none ↔ ¬pattern.Occurs text := by
  rw [find?, findFrom_eq_none]
  constructor
  · rintro hnothing ⟨passed, stretch, rest, found, hsplit, hreads⟩
    exact hnothing passed _ hsplit stretch rest found rfl hreads
  · intro hnever passed later hsplit stretch rest found hlater hreads
    exact hnever ⟨passed, stretch, rest, found, hlater ▸ hsplit, hreads⟩

/-! ## Captures -/

/-- A pattern without parts that are captured. -/
def IsCaptureless : Pattern → Prop
  | seq first second | either first second => first.IsCaptureless ∧ second.IsCaptureless
  | capture _ _ => False
  | _ => True

/-- What such a pattern reads captures nothing. -/
theorem IsCaptureless.found_eq_nil {stretch rest : List Char} {found : List (Nat × List Char)} (h : pattern.IsCaptureless)
    (hreads : pattern.Reads before stretch rest found) : found = [] := by
  induction pattern generalizing before stretch rest found with
  | nothing => exact hreads.2
  | one test =>
    obtain ⟨_, -, -, hfound⟩ := hreads
    exact hfound
  | many test least | few test least => exact hreads.2.2
  | seq first second ihfirst ihsecond =>
    obtain ⟨head, tail, earlier, later, rfl, hhead, htail, rfl⟩ := hreads
    obtain rfl := ihfirst h.1 hhead
    obtain rfl := ihsecond h.2 htail
    rfl
  | either first second ihfirst ihsecond =>
    rcases hreads with hfirst | hsecond
    · exact ihfirst h.1 hfirst
    · exact ihsecond h.2 hsecond
  | capture number inner ih => exact h.elim
  | wordEdge | lineStart | lineEnd | textStart | textEnd | ahead | notBefore | notAfter => exact hreads.2.2

end Showcase.Pattern
