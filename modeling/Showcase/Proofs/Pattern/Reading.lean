import Showcase.Pattern.Basic

/-!
# What a pattern reads

Matching tries choices in a fixed order and goes back on them. What it can find at all needs no order: a pattern reads a
stretch of text between what stands before it and what follows it, and notes what it captures. `exists_reads_of_run` says
that nothing else is found, `isSome_run_of_reads` that something is found where the pattern reads a stretch. Where it can
read one stretch only, or where it does not matter which, the order need not be looked at.
-/

namespace Showcase

/-- The texts of captured stretches, under their numbers. -/
def Span.texts (captures : List (Nat × Span)) : List (Nat × List Char) :=
  captures.map fun entry => (entry.1, entry.2.text)

namespace Pattern

/-- The character before a place that is reached over a stretch. -/
def beforeAfter (before : Option Char) (stretch : List Char) : Option Char := stretch.getLast?.or before

@[simp] theorem beforeAfter_nil (before : Option Char) : beforeAfter before [] = before := rfl

@[simp] theorem beforeAfter_cons (before : Option Char) (c : Char) (stretch : List Char) :
    beforeAfter before (c :: stretch) = beforeAfter (some c) stretch := by
  cases stretch with
  | nil => rfl
  | cons d stretch => simp [beforeAfter, List.getLast?_cons]

theorem beforeAfter_append (before : Option Char) (first second : List Char) :
    beforeAfter before (first ++ second) = beforeAfter (beforeAfter before first) second := by
  simp [beforeAfter, List.getLast?_append, Option.or_assoc]

/-- A pattern reads a stretch that stands after the character `before` and is followed by `rest`; what it captures is
`found`, latest first. -/
def Reads : Pattern → (before : Option Char) → (stretch rest : List Char) → (found : List (Nat × List Char)) → Prop
  | nothing, _, stretch, _, found => stretch = [] ∧ found = []
  | one test, _, stretch, _, found => ∃ c, test c = true ∧ stretch = [c] ∧ found = []
  | many test least, _, stretch, _, found
  | few test least, _, stretch, _, found =>
    (∀ c ∈ stretch, test c = true) ∧ least ≤ stretch.length ∧ found = []
  | seq first second, before, stretch, rest, found =>
    ∃ head tail earlier later, stretch = head ++ tail ∧ first.Reads before head (tail ++ rest) earlier ∧
      second.Reads (beforeAfter before head) tail rest later ∧ found = later ++ earlier
  | either first second, before, stretch, rest, found =>
    first.Reads before stretch rest found ∨ second.Reads before stretch rest found
  | capture number inner, before, stretch, rest, found =>
    ∃ inside, inner.Reads before stretch rest inside ∧ found = (number, stretch) :: inside
  | wordEdge, before, stretch, rest, found =>
    Text.isWordEdge before rest.head? = true ∧ stretch = [] ∧ found = []
  | lineStart, before, stretch, _, found => before.all (· == '\n') = true ∧ stretch = [] ∧ found = []
  | lineEnd, _, stretch, rest, found => rest.head?.all (· == '\n') = true ∧ stretch = [] ∧ found = []
  | textStart, before, stretch, _, found => before = none ∧ stretch = [] ∧ found = []
  | textEnd, _, stretch, rest, found => (rest = [] ∨ rest = ['\n']) ∧ stretch = [] ∧ found = []
  | ahead inner, before, stretch, rest, found =>
    (∃ head tail inside, rest = head ++ tail ∧ inner.Reads before head tail inside) ∧ stretch = [] ∧ found = []
  | notBefore test, _, stretch, rest, found => rest.head?.any test = false ∧ stretch = [] ∧ found = []
  | notAfter test, before, stretch, _, found => before.any test = false ∧ stretch = [] ∧ found = []

/-- A pattern reads nothing from a place on. -/
def ReadsNothing (pattern : Pattern) (before : Option Char) (text : List Char) : Prop :=
  ∀ stretch rest found, text = stretch ++ rest → ¬pattern.Reads before stretch rest found

/-! ## Places -/

/-- A place is reached from another over a stretch, with these captures on the way. -/
structure Advances (place : Cursor) (stretch rest : List Char) (found : List (Nat × List Char)) (stop : Cursor) :
    Prop where
  text : place.rest = stretch ++ rest
  before : stop.before = beforeAfter place.before stretch
  offset : stop.offset = place.offset + stretch.length
  rest : stop.rest = rest
  captures : Span.texts stop.captures = found ++ Span.texts place.captures

namespace Advances

variable {place mid stop : Cursor} {first second rest : List Char} {earlier later : List (Nat × List Char)}

theorem refl (place : Cursor) : Advances place [] place.rest [] place := ⟨rfl, rfl, rfl, rfl, rfl⟩

theorem past {c : Char} (h : place.rest = c :: rest) : Advances place [c] rest [] (place.past c rest) :=
  ⟨h, rfl, rfl, rfl, rfl⟩

theorem trans (hfirst : Advances place first (second ++ rest) earlier mid)
    (hsecond : Advances mid second rest later stop) :
    Advances place (first ++ second) rest (later ++ earlier) stop where
  text := by rw [hfirst.text, List.append_assoc]
  before := by rw [hsecond.before, hfirst.before, beforeAfter_append]
  offset := by rw [hsecond.offset, hfirst.offset, List.length_append, Nat.add_assoc]
  rest := hsecond.rest
  captures := by rw [hsecond.captures, hfirst.captures, List.append_assoc]

/-- What is captured since a place is the stretch from there on. -/
theorem captureSince (h : Advances place first rest earlier stop) (number : Nat) :
    Advances place first rest ((number, first) :: earlier) (stop.captureSince number place) where
  text := h.text
  before := h.before
  offset := h.offset
  rest := h.rest
  captures := by
    have hspan : Span.text ⟨place.rest, stop.offset - place.offset⟩ = first := by
      rw [Span.text, h.text, h.offset, Nat.add_sub_cancel_left, List.take_left]
    change (number, Span.text ⟨place.rest, stop.offset - place.offset⟩) :: Span.texts stop.captures = _
    rw [hspan, h.captures, List.cons_append]

end Advances

/-! ## Runs of characters -/

variable {test : Char → Bool} {go : Cursor → Option Cursor} {least : Nat} {place stop : Cursor}

/-- A run whose first character is known to belong to it. -/
theorem advances_cons {c : Char} {text stretch rest : List Char} (htext : place.rest = c :: text)
    (h : Advances (place.past c text) stretch rest [] stop) : Advances place (c :: stretch) rest [] stop := by
  obtain rfl : text = stretch ++ rest := h.text
  exact (Advances.past htext).trans h

/-- A run that ends where it begins. -/
private theorem exists_of_ended (h : (if least = 0 then go place else none) = some stop) :
    ∃ stretch rest mid, (∀ c ∈ stretch, test c = true) ∧ least ≤ stretch.length ∧
      Advances place stretch rest [] mid ∧ go mid = some stop := by
  obtain ⟨rfl, hgo⟩ := Option.ite_none_right_eq_some.mp h
  exact ⟨[], place.rest, place, by simp, Nat.le_refl 0, .refl place, hgo⟩

theorem exists_of_runMany {text : List Char} (htext : place.rest = text)
    (h : runMany test go text least place = some stop) :
    ∃ stretch rest mid, (∀ c ∈ stretch, test c = true) ∧ least ≤ stretch.length ∧
      Advances place stretch rest [] mid ∧ go mid = some stop := by
  induction text generalizing least place with
  | nil => exact exists_of_ended h
  | cons c text ih =>
    rw [runMany] at h
    split at h
    · rename_i hc
      split at h
      · rename_i found hfound
        obtain ⟨stretch, rest, mid, hall, hlength, hmid, hgo⟩ := ih rfl (hfound.trans h)
        refine ⟨c :: stretch, rest, mid, List.forall_mem_cons.mpr ⟨hc, hall⟩, ?_, advances_cons htext hmid, hgo⟩
        rw [List.length_cons]
        omega
      · exact exists_of_ended h
    · exact exists_of_ended h

theorem isSome_runMany {text stretch rest : List Char} (htext : place.rest = text) (hsplit : text = stretch ++ rest)
    (hall : ∀ c ∈ stretch, test c = true) (hlength : least ≤ stretch.length)
    (hgo : ∀ mid, Advances place stretch rest [] mid → (go mid).isSome = true) :
    (runMany test go text least place).isSome = true := by
  induction stretch generalizing text least place with
  | nil =>
    -- the run may take more than the stretch, and comes back to it if it cannot go on from there
    have hhere : (go place).isSome = true := by
      rw [List.nil_append] at hsplit
      exact hgo place (hsplit ▸ htext ▸ .refl place)
    obtain rfl : least = 0 := Nat.le_zero.mp hlength
    cases text with
    | nil => exact hhere
    | cons c text =>
      rw [runMany]
      split
      · split
        · rfl
        · exact hhere
      · exact hhere
  | cons c stretch ih =>
    obtain ⟨hc, hall⟩ := List.forall_mem_cons.mp hall
    subst hsplit
    have hplace : (place.past c (stretch ++ rest)).rest = stretch ++ rest := rfl
    have hlater : (runMany test go (stretch ++ rest) (least - 1) (place.past c (stretch ++ rest))).isSome = true := by
      apply ih hplace rfl hall
      · rw [List.length_cons] at hlength
        omega
      · intro mid hmid
        exact hgo mid (advances_cons htext hmid)
    obtain ⟨found, hfound⟩ := Option.isSome_iff_exists.mp hlater
    rw [List.cons_append, runMany, if_pos hc, hfound]
    rfl

theorem exists_of_runFew {text : List Char} (htext : place.rest = text)
    (h : runFew test go text least place = some stop) :
    ∃ stretch rest mid, (∀ c ∈ stretch, test c = true) ∧ least ≤ stretch.length ∧
      Advances place stretch rest [] mid ∧ go mid = some stop := by
  induction text generalizing least place with
  | nil => exact exists_of_ended h
  | cons c text ih =>
    rw [runFew] at h
    split at h
    · rename_i found hfound
      exact exists_of_ended (hfound.trans h)
    · split at h
      · rename_i hc
        obtain ⟨stretch, rest, mid, hall, hlength, hmid, hgo⟩ := ih rfl h
        refine ⟨c :: stretch, rest, mid, List.forall_mem_cons.mpr ⟨hc, hall⟩, ?_, advances_cons htext hmid, hgo⟩
        rw [List.length_cons]
        omega
      · cases h

/-- A way to go on from a place over a stretch, and none from any place before its end. -/
def GoesShortest (go : Cursor → Option Cursor) (place : Cursor) (stretch rest : List Char) (stop : Cursor) : Prop :=
  (∃ mid, Advances place stretch rest [] mid ∧ go mid = some stop) ∧
    ∀ earlier later, stretch = earlier ++ later → later ≠ [] →
      ∃ short, Advances place earlier (later ++ rest) [] short ∧ go short = none

private theorem goesShortest_here (h : go place = some stop) : GoesShortest go place [] place.rest stop := by
  refine ⟨⟨place, .refl place, h⟩, ?_⟩
  intro earlier later hsplit hlater
  exact absurd (List.append_eq_nil_iff.mp hsplit.symm).2 hlater

/-- A run that takes no more than it must ends at the first place from which there is a way to go on. -/
theorem exists_shortest_of_runFew {text : List Char} (htext : place.rest = text)
    (h : runFew test go text 0 place = some stop) : ∃ stretch rest, GoesShortest go place stretch rest stop := by
  induction text generalizing place with
  | nil => exact ⟨[], place.rest, goesShortest_here h⟩
  | cons c text ih =>
    rw [runFew, if_pos rfl] at h
    split at h
    · rename_i found hfound
      exact ⟨[], place.rest, goesShortest_here (hfound.trans h)⟩
    · rename_i hnone
      obtain ⟨-, h⟩ := Option.ite_none_right_eq_some.mp h
      obtain ⟨stretch, rest, ⟨mid, hmid, hgo⟩, hshorter⟩ := ih rfl h
      refine ⟨c :: stretch, rest, ⟨mid, advances_cons htext hmid, hgo⟩, ?_⟩
      -- there was no way to go on from here, and by induction none from any place up to the end
      intro earlier later hsplit hlater
      cases earlier with
      | nil =>
        obtain rfl : c :: stretch = later := hsplit
        have hrest : place.rest = c :: stretch ++ rest := (advances_cons htext hmid).text
        exact ⟨place, hrest ▸ .refl place, hnone⟩
      | cons d earlier =>
        obtain ⟨rfl, htail⟩ := List.cons.inj hsplit
        obtain ⟨short, hshort, hgo⟩ := hshorter earlier later htail hlater
        exact ⟨short, advances_cons htext hshort, hgo⟩

theorem isSome_runFew {text stretch rest : List Char} (htext : place.rest = text) (hsplit : text = stretch ++ rest)
    (hall : ∀ c ∈ stretch, test c = true) (hlength : least ≤ stretch.length)
    (hgo : ∀ mid, Advances place stretch rest [] mid → (go mid).isSome = true) :
    (runFew test go text least place).isSome = true := by
  induction stretch generalizing text least place with
  | nil =>
    obtain ⟨found, hfound⟩ : ∃ found, go place = some found := by
      rw [List.nil_append] at hsplit
      exact Option.isSome_iff_exists.mp (hgo place (hsplit ▸ htext ▸ .refl place))
    obtain rfl : least = 0 := Nat.le_zero.mp hlength
    cases text with
    | nil => simp [runFew, hfound]
    | cons c text => simp [runFew, hfound]
  | cons c stretch ih =>
    obtain ⟨hc, hall⟩ := List.forall_mem_cons.mp hall
    subst hsplit
    rw [List.cons_append, runFew]
    split
    · rfl
    · have hplace : (place.past c (stretch ++ rest)).rest = stretch ++ rest := rfl
      rw [if_pos hc]
      apply ih hplace rfl hall
      · rw [List.length_cons] at hlength
        omega
      · intro mid hmid
        exact hgo mid (advances_cons htext hmid)

/-! ## Matching -/

/-- A run that goes on from a place it stays at. -/
private theorem reads_here {pattern : Pattern} (h : pattern.Reads place.before [] place.rest []) (hgo : go place = some stop) :
    ∃ stretch rest found mid, pattern.Reads place.before stretch rest found ∧
      Advances place stretch rest found mid ∧ go mid = some stop :=
  ⟨[], place.rest, [], place, h, .refl place, hgo⟩

/-- What is found by matching is a stretch that the pattern reads, and a way to go on from its end. -/
theorem exists_reads_of_run {pattern : Pattern} (h : pattern.run go place = some stop) :
    ∃ stretch rest found mid, pattern.Reads place.before stretch rest found ∧
      Advances place stretch rest found mid ∧ go mid = some stop := by
  -- the induction is over all ways to go on: a part of the pattern goes on with the parts behind it
  induction pattern generalizing go place stop with
  | nothing => exact reads_here ⟨rfl, rfl⟩ h
  | one test =>
    rw [run] at h
    split at h
    · rename_i c rest hrest
      split at h
      · rename_i hc
        exact ⟨[c], rest, [], place.past c rest, ⟨c, hc, rfl, rfl⟩, .past hrest, h⟩
      · cases h
    · cases h
  | many test least =>
    obtain ⟨stretch, rest, mid, hall, hlength, hmid, hgo⟩ := exists_of_runMany rfl h
    exact ⟨stretch, rest, [], mid, ⟨hall, hlength, rfl⟩, hmid, hgo⟩
  | few test least =>
    obtain ⟨stretch, rest, mid, hall, hlength, hmid, hgo⟩ := exists_of_runFew rfl h
    exact ⟨stretch, rest, [], mid, ⟨hall, hlength, rfl⟩, hmid, hgo⟩
  | seq first second ihfirst ihsecond =>
    obtain ⟨head, between, earlier, mid, hfirst, hmid, hgo⟩ := ihfirst h
    obtain ⟨tail, rest, later, last, hsecond, hlast, hgo⟩ := ihsecond hgo
    obtain rfl : between = tail ++ rest := hmid.rest.symm.trans hlast.text
    rw [hmid.before] at hsecond
    exact ⟨head ++ tail, rest, later ++ earlier, last, ⟨head, tail, earlier, later, rfl, hfirst, hsecond, rfl⟩,
      hmid.trans hlast, hgo⟩
  | either first second ihfirst ihsecond =>
    rw [run] at h
    split at h
    · rename_i found hfound
      obtain ⟨stretch, rest, found, mid, hreads, hrest⟩ := ihfirst (hfound.trans h)
      exact ⟨stretch, rest, found, mid, .inl hreads, hrest⟩
    · obtain ⟨stretch, rest, found, mid, hreads, hrest⟩ := ihsecond h
      exact ⟨stretch, rest, found, mid, .inr hreads, hrest⟩
  | capture number inner ih =>
    obtain ⟨stretch, rest, inside, mid, hreads, hmid, hgo⟩ := ih h
    exact ⟨stretch, rest, (number, stretch) :: inside, mid.captureSince number place, ⟨inside, hreads, rfl⟩,
      hmid.captureSince number, hgo⟩
  | wordEdge =>
    obtain ⟨hedge, hgo⟩ := Option.ite_none_right_eq_some.mp h
    exact reads_here ⟨hedge, rfl, rfl⟩ hgo
  | lineStart =>
    obtain ⟨hstart, hgo⟩ := Option.ite_none_right_eq_some.mp h
    exact reads_here ⟨hstart, rfl, rfl⟩ hgo
  | lineEnd =>
    obtain ⟨hend, hgo⟩ := Option.ite_none_right_eq_some.mp h
    exact reads_here ⟨hend, rfl, rfl⟩ hgo
  | textStart =>
    obtain ⟨hstart, hgo⟩ := Option.ite_none_right_eq_some.mp h
    exact reads_here ⟨Option.isNone_iff_eq_none.mp hstart, rfl, rfl⟩ hgo
  | textEnd =>
    obtain ⟨hend, hgo⟩ := Option.ite_none_right_eq_some.mp h
    exact reads_here ⟨by simpa using hend, rfl, rfl⟩ hgo
  | ahead inner ih =>
    obtain ⟨hahead, hgo⟩ := Option.ite_none_right_eq_some.mp h
    obtain ⟨found, hfound⟩ := Option.isSome_iff_exists.mp hahead
    obtain ⟨head, tail, inside, mid, hreads, hmid, -⟩ := ih hfound
    exact reads_here ⟨⟨head, tail, inside, hmid.text, hreads⟩, rfl, rfl⟩ hgo
  | notBefore test =>
    obtain ⟨hbefore, hgo⟩ := Option.ite_none_left_eq_some.mp h
    exact reads_here ⟨Bool.not_eq_true _ ▸ hbefore, rfl, rfl⟩ hgo
  | notAfter test =>
    obtain ⟨hafter, hgo⟩ := Option.ite_none_left_eq_some.mp h
    exact reads_here ⟨Bool.not_eq_true _ ▸ hafter, rfl, rfl⟩ hgo

/-- A run that can go on from the place it stays at. -/
private theorem isSome_here {rest : List Char} (htext : place.rest = [] ++ rest)
    (hgo : ∀ mid, Advances place [] rest [] mid → (go mid).isSome = true) : (go place).isSome = true := by
  rw [List.nil_append] at htext
  exact hgo place (htext ▸ .refl place)

/-- Where a pattern reads a stretch from whose end matching can go on, matching finds something. -/
theorem isSome_run_of_reads {pattern : Pattern} {stretch rest : List Char} {found : List (Nat × List Char)}
    (htext : place.rest = stretch ++ rest) (h : pattern.Reads place.before stretch rest found)
    (hgo : ∀ mid, Advances place stretch rest found mid → (go mid).isSome = true) :
    (pattern.run go place).isSome = true := by
  induction pattern generalizing go place stretch rest found with
  | nothing =>
    obtain ⟨rfl, rfl⟩ := h
    exact isSome_here htext hgo
  | one test =>
    obtain ⟨c, hc, rfl, rfl⟩ := h
    rw [List.singleton_append] at htext
    simp only [run, htext, hc, if_true]
    exact hgo _ (.past htext)
  | many test least =>
    obtain ⟨hall, hlength, rfl⟩ := h
    exact isSome_runMany rfl htext hall hlength hgo
  | few test least =>
    obtain ⟨hall, hlength, rfl⟩ := h
    exact isSome_runFew rfl htext hall hlength hgo
  | seq first second ihfirst ihsecond =>
    obtain ⟨head, tail, earlier, later, rfl, hfirst, hsecond, rfl⟩ := h
    rw [List.append_assoc] at htext
    apply ihfirst htext hfirst
    intro mid hmid
    apply ihsecond hmid.rest (hmid.before ▸ hsecond)
    intro last hlast
    exact hgo last (hmid.trans hlast)
  | either first second ihfirst ihsecond =>
    rw [run]
    split
    · rfl
    · rename_i hnone
      rcases h with h | h
      · -- the first way would have found something
        have hsome := ihfirst htext h hgo
        rw [hnone] at hsome
        cases hsome
      · exact ihsecond htext h hgo
  | capture number inner ih =>
    obtain ⟨inside, hinside, rfl⟩ := h
    apply ih htext hinside
    intro mid hmid
    exact hgo _ (hmid.captureSince number)
  | wordEdge =>
    obtain ⟨hedge, rfl, rfl⟩ := h
    rw [← List.nil_append rest, ← htext] at hedge
    rw [run, if_pos hedge]
    exact isSome_here htext hgo
  | lineStart =>
    obtain ⟨hstart, rfl, rfl⟩ := h
    rw [run, if_pos hstart]
    exact isSome_here htext hgo
  | lineEnd =>
    obtain ⟨hend, rfl, rfl⟩ := h
    rw [← List.nil_append rest, ← htext] at hend
    rw [run, if_pos hend]
    exact isSome_here htext hgo
  | textStart =>
    obtain ⟨hstart, rfl, rfl⟩ := h
    rw [run, if_pos (Option.isNone_iff_eq_none.mpr hstart)]
    exact isSome_here htext hgo
  | textEnd =>
    obtain ⟨hend, rfl, rfl⟩ := h
    rw [← List.nil_append rest, ← htext] at hend
    rw [run, if_pos (by simpa using hend)]
    exact isSome_here htext hgo
  | ahead inner ih =>
    obtain ⟨⟨head, tail, inside, hsplit, hinner⟩, rfl, rfl⟩ := h
    have hahead : (inner.run some place).isSome = true := ih (htext.trans hsplit) hinner fun _ _ => rfl
    rw [run, if_pos hahead]
    exact isSome_here htext hgo
  | notBefore test =>
    obtain ⟨hbefore, rfl, rfl⟩ := h
    rw [← List.nil_append rest, ← htext] at hbefore
    rw [run, hbefore]
    exact isSome_here htext hgo
  | notAfter test =>
    obtain ⟨hafter, rfl, rfl⟩ := h
    rw [run, hafter]
    exact isSome_here htext hgo

/-- What is captured by a run that takes no more than it must goes to the first place from which the rest of the pattern
reads something. -/
theorem exists_shortest_of_run_sequence {number : Nat} {others : List Pattern}
    (h : (sequence (capture number (few test 0) :: others)).run some place = some stop) :
    ∃ stretch rest mid, Advances place stretch rest [(number, stretch)] mid ∧
      (sequence others).run some mid = some stop ∧
      ∀ earlier later, stretch = earlier ++ later → later ≠ [] →
        (sequence others).ReadsNothing (beforeAfter place.before earlier) (later ++ rest) := by
  obtain ⟨stretch, rest, ⟨mid, hmid, hgo⟩, hshorter⟩ := exists_shortest_of_runFew rfl h
  refine ⟨stretch, rest, mid.captureSince number place, hmid.captureSince number, hgo, ?_⟩
  intro earlier later hsplit hlater other after found htext hreads
  obtain ⟨short, hshort, hnone⟩ := hshorter earlier later hsplit hlater
  have hrest : (short.captureSince number place).rest = other ++ after := hshort.rest.trans htext
  have hbefore : (short.captureSince number place).before = beforeAfter place.before earlier := hshort.before
  have hsome : ((sequence others).run some (short.captureSince number place)).isSome = true := by
    apply isSome_run_of_reads hrest (hbefore ▸ hreads)
    intro last _
    rfl
  rw [show (sequence others).run some (short.captureSince number place) = none from hnone] at hsome
  cases hsome

/-! ## Parts of patterns -/

section

variable {before : Option Char} {stretch rest : List Char} {found : List (Nat × List Char)}

@[simp] theorem reads_one_iff : (one test).Reads before stretch rest found ↔
    ∃ c, test c = true ∧ stretch = [c] ∧ found = [] := Iff.rfl

@[simp] theorem reads_char_iff {c : Char} : (char c).Reads before stretch rest found ↔ stretch = [c] ∧ found = [] := by
  simp [char]

/-- A character of one kind, and then any number of characters of another. -/
theorem reads_one_many_iff {begins goesOn : Char → Bool} :
    (seq (one begins) (many goesOn 0)).Reads before stretch rest found ↔
      ∃ first others, stretch = first :: others ∧ begins first = true ∧ (∀ c ∈ others, goesOn c = true) ∧ found = [] := by
  constructor
  · rintro ⟨_, others, _, _, rfl, ⟨first, hfirst, rfl, rfl⟩, ⟨hothers, -, rfl⟩, rfl⟩
    exact ⟨first, others, rfl, hfirst, hothers, rfl⟩
  · rintro ⟨first, others, rfl, hfirst, hothers, rfl⟩
    exact ⟨[first], others, [], [], rfl, ⟨first, hfirst, rfl, rfl⟩, ⟨hothers, Nat.zero_le _, rfl⟩, rfl⟩

theorem reads_sequence_iff {first : Pattern} {others : List Pattern} :
    (sequence (first :: others)).Reads before stretch rest found ↔
      ∃ head tail earlier later, stretch = head ++ tail ∧ first.Reads before head (tail ++ rest) earlier ∧
        (sequence others).Reads (beforeAfter before head) tail rest later ∧ found = later ++ earlier := Iff.rfl

@[simp] theorem reads_sequence_nil : (sequence []).Reads before stretch rest found ↔ stretch = [] ∧ found = [] := Iff.rfl

/-- A fixed text reads itself. -/
@[simp] theorem reads_literal_iff {s : String} :
    (literal s).Reads before stretch rest found ↔ stretch = s.toList ∧ found = [] := by
  rw [literal]
  generalize s.toList = chars
  induction chars generalizing before stretch found with
  | nil => exact reads_sequence_nil
  | cons c chars ih =>
    rw [List.map_cons, reads_sequence_iff]
    simp only [reads_char_iff, ih]
    constructor
    · rintro ⟨head, tail, earlier, later, rfl, ⟨rfl, rfl⟩, ⟨rfl, rfl⟩, rfl⟩
      exact ⟨rfl, rfl⟩
    · rintro ⟨rfl, rfl⟩
      exact ⟨[c], chars, [], [], rfl, ⟨rfl, rfl⟩, ⟨rfl, rfl⟩, rfl⟩

/-! A pattern at the head of a sequence that captures nothing leaves the captures to the others. -/

variable {others : List Pattern}

theorem reads_cons_of_silent {first : Pattern} {takes : List Char → Prop}
    (hfirst : ∀ head tail earlier, first.Reads before head tail earlier ↔ takes head ∧ earlier = []) :
    (sequence (first :: others)).Reads before stretch rest found ↔
      ∃ head tail, stretch = head ++ tail ∧ takes head ∧ (sequence others).Reads (beforeAfter before head) tail rest found := by
  rw [reads_sequence_iff]
  constructor
  · rintro ⟨head, tail, earlier, later, rfl, hhead, htail, rfl⟩
    obtain ⟨htakes, rfl⟩ := (hfirst head _ earlier).mp hhead
    rw [List.append_nil]
    exact ⟨head, tail, rfl, htakes, htail⟩
  · rintro ⟨head, tail, rfl, htakes, htail⟩
    exact ⟨head, tail, [], found, rfl, (hfirst head _ []).mpr ⟨htakes, rfl⟩, htail, (List.append_nil _).symm⟩

theorem reads_char_cons {c : Char} : (sequence (char c :: others)).Reads before stretch rest found ↔
    ∃ tail, stretch = c :: tail ∧ (sequence others).Reads (some c) tail rest found := by
  rw [reads_cons_of_silent fun _ _ _ => reads_char_iff]
  constructor
  · rintro ⟨head, tail, rfl, rfl, htail⟩
    exact ⟨tail, rfl, htail⟩
  · rintro ⟨tail, rfl, htail⟩
    exact ⟨[c], tail, rfl, rfl, htail⟩

/-- A character that may be missing. -/
theorem reads_optional_char_cons {c : Char} :
    (sequence (optional (char c) :: others)).Reads before stretch rest found ↔
      (∃ tail, stretch = c :: tail ∧ (sequence others).Reads (some c) tail rest found) ∨
        (sequence others).Reads before stretch rest found := by
  rw [reads_sequence_iff]
  constructor
  · rintro ⟨head, tail, earlier, later, rfl, hchar | ⟨rfl, rfl⟩, htail, rfl⟩
    · obtain ⟨rfl, rfl⟩ := reads_char_iff.mp hchar
      rw [List.append_nil]
      exact .inl ⟨tail, rfl, htail⟩
    · rw [List.append_nil]
      exact .inr htail
  · rintro (⟨tail, rfl, htail⟩ | htail)
    · exact ⟨[c], tail, [], found, rfl, .inl (reads_char_iff.mpr ⟨rfl, rfl⟩), htail, (List.append_nil _).symm⟩
    · exact ⟨[], stretch, [], found, rfl, .inr ⟨rfl, rfl⟩, htail, (List.append_nil _).symm⟩

theorem reads_one_cons : (sequence (one test :: others)).Reads before stretch rest found ↔
    ∃ c tail, stretch = c :: tail ∧ test c = true ∧ (sequence others).Reads (some c) tail rest found := by
  have hone : ∀ head tail earlier, (one test).Reads before head tail earlier ↔
      (∃ c, test c = true ∧ head = [c]) ∧ earlier = [] := by
    intro head tail earlier
    simp only [reads_one_iff, ← and_assoc, exists_and_right]
  rw [reads_cons_of_silent hone]
  constructor
  · rintro ⟨head, tail, rfl, ⟨c, hc, rfl⟩, htail⟩
    exact ⟨c, tail, rfl, hc, htail⟩
  · rintro ⟨c, tail, rfl, hc, htail⟩
    exact ⟨[c], tail, rfl, ⟨c, hc, rfl⟩, htail⟩

theorem reads_literal_cons {s : String} : (sequence (literal s :: others)).Reads before stretch rest found ↔
    ∃ tail, stretch = s.toList ++ tail ∧ (sequence others).Reads (beforeAfter before s.toList) tail rest found := by
  rw [reads_cons_of_silent fun _ _ _ => reads_literal_iff]
  constructor
  · rintro ⟨head, tail, rfl, rfl, htail⟩
    exact ⟨tail, rfl, htail⟩
  · rintro ⟨tail, rfl, htail⟩
    exact ⟨s.toList, tail, rfl, rfl, htail⟩

theorem reads_many_cons : (sequence (many test least :: others)).Reads before stretch rest found ↔
    ∃ head tail, stretch = head ++ tail ∧ ((∀ c ∈ head, test c = true) ∧ least ≤ head.length) ∧
      (sequence others).Reads (beforeAfter before head) tail rest found :=
  reads_cons_of_silent fun _ _ _ => and_assoc.symm

theorem reads_blanks_cons : (sequence (blanks :: others)).Reads before stretch rest found ↔
    ∃ gap tail, stretch = gap ++ tail ∧ (∀ c ∈ gap, Text.isBlank c = true) ∧
      (sequence others).Reads (beforeAfter before gap) tail rest found := by
  rw [blanks, reads_many_cons]
  simp only [Nat.zero_le, and_true]

theorem reads_capture_cons {number : Nat} {inner : Pattern} :
    (sequence (capture number inner :: others)).Reads before stretch rest found ↔
      ∃ head tail inside later, stretch = head ++ tail ∧ inner.Reads before head (tail ++ rest) inside ∧
        (sequence others).Reads (beforeAfter before head) tail rest later ∧ found = later ++ (number, head) :: inside := by
  rw [reads_sequence_iff]
  constructor
  · rintro ⟨head, tail, _, later, rfl, ⟨inside, hinside, rfl⟩, htail, rfl⟩
    exact ⟨head, tail, inside, later, rfl, hinside, htail, rfl⟩
  · rintro ⟨head, tail, inside, later, rfl, hinside, htail, rfl⟩
    exact ⟨head, tail, (number, head) :: inside, later, rfl, ⟨inside, hinside, rfl⟩, htail, rfl⟩

end

end Pattern

end Showcase
