import Showcase.Proofs.Pattern.Search

/-!
# All matches in a text

The matches in a text are found one behind the other. `Shows` describes the way through a text without any order of
choices: where the pattern reads nothing a character is passed, and where it reads a stretch, and no other one, the stretch
is a match. Every match, wherever it is found, is a stretch that the pattern reads.
-/

namespace Showcase.Pattern

variable {α : Type} {pattern : Pattern} {before : Option Char} {text rest : List Char} {view : Match → α} {values : List α}

/-- The match of a part of a divided text. -/
def Part.match? : Part → Option Match
  | .plain _ => none
  | .found m => some m

theorem findAll_eq_filterMap (pattern : Pattern) (text : List Char) :
    pattern.findAll text = (pattern.divide text).filterMap Part.match? := by
  rw [findAll]
  congr 1

/-! ## The way through a text -/

/-- What the matches in a text show, from left to right, where the pattern reads one stretch at most from every place. -/
inductive Shows (pattern : Pattern) (view : Match → α) : (before : Option Char) → (text : List Char) → List α → Prop where
  | nil {before : Option Char} : Shows pattern view before [] []
  | pass {before : Option Char} {c : Char} {rest : List Char} {values : List α}
      (hnothing : pattern.ReadsNothing before (c :: rest)) (h : Shows pattern view (some c) rest values) :
      Shows pattern view before (c :: rest) values
  | take {before : Option Char} {stretch rest : List Char} {value : α} {values : List α} (hstretch : stretch ≠ [])
      (hreads : ∃ found, pattern.Reads before stretch rest found)
      (honly : ∀ other later found, stretch ++ rest = other ++ later → pattern.Reads before other later found →
        other = stretch ∧ ∀ m, Tells m other found → view m = value)
      (h : Shows pattern view (beforeAfter before stretch) rest values) :
      Shows pattern view before (stretch ++ rest) (value :: values)

theorem Shows.map_divideFrom (h : Shows pattern view before text values) (offset : Nat) :
    ((pattern.divideFrom before offset 0 text).filterMap Part.match?).map view = values := by
  induction h generalizing offset with
  | nil => rfl
  | @pass before c rest values hnothing _ ih =>
    rw [divideFrom, matchAt_eq_none.mpr hnothing]
    exact ih (offset + 1)
  | @take before stretch rest value values hstretch hreads honly _ ih =>
    obtain ⟨found, hreads⟩ := hreads
    obtain ⟨m, hmatch⟩ := exists_matchAt hreads offset
    obtain ⟨other, later, captured, hsplit, hother, htells⟩ := reads_of_matchAt hmatch
    obtain ⟨rfl, hvalue⟩ := honly other later captured hsplit hother
    obtain ⟨c, others, rfl⟩ := List.exists_cons_of_ne_nil hstretch
    have hlength : m.span.length = others.length + 1 := htells.length
    rw [List.cons_append] at hmatch ⊢
    rw [divideFrom, hmatch]
    simp only [hlength, Nat.add_one_ne_zero, if_false, Nat.add_sub_cancel]
    rw [divideFrom_passed, ← beforeAfter_cons before, List.filterMap_cons, Part.match?, List.map_cons, hvalue m htells, ih]

/-- What all matches in a text show. -/
theorem Shows.map_findAll (h : Shows pattern view none text values) : (pattern.findAll text).map view = values := by
  rw [findAll_eq_filterMap]
  exact h.map_divideFrom 0

/-- A stretch from whose places nothing is read is passed over. -/
theorem Shows.passAll {passed : List Char} (hpassed : Passes pattern before passed rest)
    (h : Shows pattern view (beforeAfter before passed) rest values) : Shows pattern view before (passed ++ rest) values := by
  induction passed generalizing before with
  | nil => exact h
  | cons c passed ih =>
    rw [beforeAfter_cons] at h
    refine .pass (hpassed [] (c :: passed) rfl (List.cons_ne_nil c passed)) (ih ?_ h)
    intro earlier later hsplit hlater
    rw [← beforeAfter_cons before]
    exact hpassed (c :: earlier) later (by rw [hsplit, List.cons_append]) hlater

/-! ## Every match -/

/-- Every match in a text is a stretch of it that the pattern reads. -/
theorem exists_reads_of_mem_divideFrom {offset taken : Nat} {m : Match}
    (h : .found m ∈ pattern.divideFrom before offset taken text) :
    ∃ passed stretch rest found, text = passed ++ (stretch ++ rest) ∧
      pattern.Reads (beforeAfter before passed) stretch rest found ∧ Tells m stretch found := by
  induction text generalizing before offset taken with
  | nil => cases taken <;> cases h
  | cons c text ih =>
    -- a match from behind the first character on
    have hlater : ∀ {offset taken : Nat}, .found m ∈ pattern.divideFrom (some c) offset taken text →
        ∃ passed stretch rest found, c :: text = passed ++ (stretch ++ rest) ∧
          pattern.Reads (beforeAfter before passed) stretch rest found ∧ Tells m stretch found := by
      intro offset taken hmem
      obtain ⟨passed, stretch, rest, found, rfl, hreads, htells⟩ := ih hmem
      exact ⟨c :: passed, stretch, rest, found, rfl, by rwa [beforeAfter_cons], htells⟩
    cases taken with
    | succ taken => exact hlater h
    | zero =>
      rw [divideFrom] at h
      split at h
      · rename_i other hmatch
        split at h
        · exact hlater ((List.mem_cons.mp h).resolve_left (by simp))
        · rcases List.mem_cons.mp h with hsame | hmem
          · obtain rfl : m = other := by injection hsame
            obtain ⟨stretch, rest, found, hsplit, hreads, htells⟩ := reads_of_matchAt hmatch
            exact ⟨[], stretch, rest, found, hsplit, hreads, htells⟩
          · exact hlater hmem
      · exact hlater ((List.mem_cons.mp h).resolve_left (by simp))

theorem exists_reads_of_mem_findAll {m : Match} (h : m ∈ pattern.findAll text) :
    ∃ passed stretch rest found, text = passed ++ (stretch ++ rest) ∧
      pattern.Reads (beforeAfter none passed) stretch rest found ∧ Tells m stretch found := by
  rw [findAll_eq_filterMap] at h
  obtain ⟨part, hpart, hmatch⟩ := List.mem_filterMap.mp h
  cases part with
  | plain c => cases hmatch
  | found other =>
    obtain rfl : other = m := Option.some.inj hmatch
    exact exists_reads_of_mem_divideFrom hpart

/-- Where a pattern does not occur it has no matches. -/
theorem findAll_eq_nil (h : ¬pattern.Occurs text) : pattern.findAll text = [] := by
  rw [List.eq_nil_iff_forall_not_mem]
  intro m hm
  obtain ⟨passed, stretch, rest, found, hsplit, hreads, -⟩ := exists_reads_of_mem_findAll hm
  exact h ⟨passed, stretch, rest, found, hsplit, hreads⟩

/-! ## Captures of a match -/

/-- What is captured is a part of the stretch that is read. -/
theorem Reads.infix_of_mem {stretch : List Char} {found : List (Nat × List Char)} (h : pattern.Reads before stretch rest found)
    {entry : Nat × List Char} (hentry : entry ∈ found) : entry.2 <:+: stretch := by
  induction pattern generalizing before stretch rest found with
  | nothing =>
    obtain ⟨-, rfl⟩ := h
    cases hentry
  | one test =>
    obtain ⟨_, -, -, rfl⟩ := h
    cases hentry
  | many test least | few test least =>
    obtain ⟨-, -, rfl⟩ := h
    cases hentry
  | seq first second ihfirst ihsecond =>
    obtain ⟨head, tail, earlier, later, rfl, hfirst, hsecond, rfl⟩ := h
    rcases List.mem_append.mp hentry with hlater | hearlier
    · exact (ihsecond hsecond hlater).trans (List.suffix_append head tail).isInfix
    · exact (ihfirst hfirst hearlier).trans (List.prefix_append head tail).isInfix
  | either first second ihfirst ihsecond => exact h.elim (ihfirst · hentry) (ihsecond · hentry)
  | capture number inner ih =>
    obtain ⟨inside, hinside, rfl⟩ := h
    rcases List.mem_cons.mp hentry with rfl | hearlier
    · exact List.infix_refl stretch
    · exact ih hinside hearlier
  | wordEdge | lineStart | lineEnd | textStart | textEnd | ahead | notBefore | notAfter =>
    obtain ⟨-, -, rfl⟩ := h
    cases hentry

/-- What a search captures is a part of the text. -/
theorem captured_infix_of_find? {m : Match} (h : pattern.find? text = some m) (number : Nat) : m.captured number <:+: text := by
  obtain ⟨passed, stretch, rest, found, rfl, hfinds⟩ := exists_finds_of_findFrom h
  have hstretch : stretch <:+: passed ++ (stretch ++ rest) := ⟨passed, rest, by rw [List.append_assoc]⟩
  rw [Match.captured, hfinds.tells.captured?]
  cases hlookup : found.lookup number with
  | none => exact List.nil_infix
  | some captured =>
    obtain ⟨earlier, later, rfl, -⟩ := List.lookup_eq_some_iff.mp hlookup
    exact (hfinds.reads.infix_of_mem (List.mem_append_right earlier List.mem_cons_self)).trans hstretch

end Showcase.Pattern
