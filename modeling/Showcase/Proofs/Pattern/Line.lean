import Mathlib.Data.List.Forall2
import Showcase.Proofs.Pattern.Replacement
import Showcase.Proofs.Text.Stretch

/-!
# Replacement line by line

A pattern that begins at the start of a line is tried once in each line of a text. If it takes nothing that goes on
behind a line, then the lines are replaced one by one, and what becomes of a line does not depend on the others. The
parts of patterns that look at a line, and those that take characters of one kind only, are read here too.
-/

namespace Showcase.Pattern

variable {pattern : Pattern} {before : Option Char} {stretch rest : List Char} {found : List (Nat × List Char)}

/-! ## Lines -/

/-- A place at the start of a line: nothing stands before it, or a newline does. -/
def StartsLine (before : Option Char) : Prop := before.all (· == '\n') = true

/-- What may follow a line: nothing, or a newline and more. -/
def EndsLine (rest : List Char) : Prop := rest.head?.all (· == '\n') = true

theorem startsLine_none : StartsLine none := rfl

theorem startsLine_newline : StartsLine (some '\n') := rfl

theorem endsLine_nil : EndsLine [] := rfl

theorem endsLine_newline (rest : List Char) : EndsLine ('\n' :: rest) := rfl

/-- Behind a character of a line no line starts. -/
theorem not_startsLine_beforeAfter {line : List Char} (hne : line ≠ []) (hline : '\n' ∉ line) (before : Option Char) :
    ¬StartsLine (beforeAfter before line) := by
  obtain ⟨others, c, rfl⟩ := (List.eq_nil_or_concat' line).resolve_left hne
  have hc : c ≠ '\n' := by
    rintro rfl
    exact hline (by simp)
  simpa [StartsLine, beforeAfter] using hc

/-- What begins with no newline ends no line. -/
theorem EndsLine.head {c : Char} (h : EndsLine (c :: rest)) : c = '\n' := by
  simpa [EndsLine] using h

/-- There is one way to split a text into the rest of a line and what follows the line. -/
theorem EndsLine.unique {tail other later : List Char} (htail : '\n' ∉ tail) (hother : '\n' ∉ other)
    (hrest : EndsLine rest) (hlater : EndsLine later) (h : tail ++ rest = other ++ later) : tail = other := by
  have hne : ∀ {s : List Char}, '\n' ∉ s → ∀ c ∈ s, (c != '\n') = true := by
    intro s hs c hc
    simpa using fun hnewline : c = '\n' => hs (hnewline ▸ hc)
  have hstops : ∀ {s : List Char}, EndsLine s → ∀ c, s.head? = some c → (c != '\n') = false := by
    intro s hs c hc
    rw [EndsLine, hc] at hs
    simpa using hs
  exact (Text.stretch_unique (hne htail) (hne hother) (hstops hrest) (hstops hlater) h).1

/-! ## Parts of patterns -/

variable {others : List Pattern}

/-- Patterns one after the other are read one after the other. -/
theorem reads_sequence_append {first second : List Pattern} :
    (sequence (first ++ second)).Reads before stretch rest found ↔
      ∃ head tail earlier later, stretch = head ++ tail ∧ (sequence first).Reads before head (tail ++ rest) earlier ∧
        (sequence second).Reads (beforeAfter before head) tail rest later ∧ found = later ++ earlier := by
  induction first generalizing before stretch found with
  | nil =>
    constructor
    · intro h
      exact ⟨[], stretch, [], found, rfl, ⟨rfl, rfl⟩, h, (List.append_nil found).symm⟩
    · rintro ⟨_, tail, _, later, rfl, ⟨rfl, rfl⟩, h, rfl⟩
      simpa using h
  | cons pattern first ih =>
    rw [List.cons_append, reads_sequence_iff]
    simp only [ih]
    constructor
    · rintro ⟨start, _, earliest, _, rfl, hstart, ⟨head, tail, earlier, later, rfl, hhead, htail, rfl⟩, rfl⟩
      refine ⟨start ++ head, tail, earlier ++ earliest, later, (List.append_assoc ..).symm, ?_, ?_, List.append_assoc ..⟩
      · refine reads_sequence_iff.mpr ⟨start, head, earliest, earlier, rfl, ?_, hhead, rfl⟩
        rwa [← List.append_assoc]
      · rwa [beforeAfter_append]
    · rintro ⟨_, tail, _, later, rfl, hfirst, htail, rfl⟩
      obtain ⟨start, head, earliest, earlier, rfl, hstart, hhead, rfl⟩ := reads_sequence_iff.mp hfirst
      refine ⟨start, head ++ tail, earliest, later ++ earlier, List.append_assoc .., ?_, ?_, (List.append_assoc ..).symm⟩
      · rwa [List.append_assoc]
      · rw [beforeAfter_append] at htail
        exact ⟨head, tail, earlier, later, rfl, hhead, htail, rfl⟩

/-- A test of the place at the head of a sequence takes no text. -/
private theorem reads_cons_of_empty {first : Pattern} {holds : List Char → Prop}
    (hfirst : ∀ head rest earlier, first.Reads before head rest earlier ↔ holds rest ∧ head = [] ∧ earlier = []) :
    (sequence (first :: others)).Reads before stretch rest found ↔
      holds (stretch ++ rest) ∧ (sequence others).Reads before stretch rest found := by
  rw [reads_sequence_iff]
  constructor
  · rintro ⟨head, tail, earlier, later, rfl, hhead, htail, rfl⟩
    obtain ⟨hholds, rfl, rfl⟩ := (hfirst head _ earlier).mp hhead
    rw [List.append_nil]
    exact ⟨hholds, htail⟩
  · rintro ⟨hholds, htail⟩
    exact ⟨[], stretch, [], found, rfl, (hfirst [] _ []).mpr ⟨hholds, rfl, rfl⟩, htail, (List.append_nil _).symm⟩

theorem reads_lineStart_cons : (sequence (lineStart :: others)).Reads before stretch rest found ↔
    StartsLine before ∧ (sequence others).Reads before stretch rest found :=
  @reads_cons_of_empty _ _ _ _ _ _ (fun _ => StartsLine before) fun _ _ _ => Iff.rfl

theorem reads_lineEnd_cons : (sequence (lineEnd :: others)).Reads before stretch rest found ↔
    EndsLine (stretch ++ rest) ∧ (sequence others).Reads before stretch rest found :=
  @reads_cons_of_empty _ _ _ _ _ _ EndsLine fun _ _ _ => Iff.rfl

theorem reads_wordEdge_cons : (sequence (wordEdge :: others)).Reads before stretch rest found ↔
    Text.isWordEdge before (stretch ++ rest).head? = true ∧ (sequence others).Reads before stretch rest found :=
  @reads_cons_of_empty _ _ _ _ _ _ (fun text => Text.isWordEdge before text.head? = true) fun _ _ _ => Iff.rfl

theorem reads_few_cons {test : Char → Bool} {least : Nat} :
    (sequence (few test least :: others)).Reads before stretch rest found ↔
      (sequence (many test least :: others)).Reads before stretch rest found := Iff.rfl

theorem reads_someBlanks_cons : (sequence (someBlanks :: others)).Reads before stretch rest found ↔
    ∃ gap tail, stretch = gap ++ tail ∧ ((∀ c ∈ gap, Text.isBlank c = true) ∧ gap ≠ []) ∧
      (sequence others).Reads (beforeAfter before gap) tail rest found := by
  rw [someBlanks, reads_many_cons]
  simp only [Nat.one_le_iff_ne_zero, ne_eq, List.length_eq_zero_iff]

/-- A pattern that may be missing. -/
theorem reads_optional_cons {inner : Pattern} :
    (sequence (optional inner :: others)).Reads before stretch rest found ↔
      (∃ head tail earlier later, stretch = head ++ tail ∧ inner.Reads before head (tail ++ rest) earlier ∧
        (sequence others).Reads (beforeAfter before head) tail rest later ∧ found = later ++ earlier) ∨
      (sequence others).Reads before stretch rest found := by
  rw [reads_sequence_iff]
  constructor
  · rintro ⟨head, tail, earlier, later, rfl, hinner | ⟨rfl, rfl⟩, htail, rfl⟩
    · exact .inl ⟨head, tail, earlier, later, rfl, hinner, htail, rfl⟩
    · rw [List.append_nil]
      exact .inr htail
  · rintro (⟨head, tail, earlier, later, rfl, hinner, htail, rfl⟩ | htail)
    · exact ⟨head, tail, earlier, later, rfl, .inl hinner, htail, rfl⟩
    · exact ⟨[], stretch, [], found, rfl, .inr ⟨rfl, rfl⟩, htail, (List.append_nil _).symm⟩

/-- A fixed text and then blanks. -/
theorem reads_literal_someBlanks_iff {s : String} :
    (seq (literal s) someBlanks).Reads before stretch rest found ↔
      ∃ gap, stretch = s.toList ++ gap ∧ ((∀ c ∈ gap, Text.isBlank c = true) ∧ gap ≠ []) ∧ found = [] := by
  constructor
  · rintro ⟨_, gap, _, _, rfl, hliteral, ⟨hgap, hlength, rfl⟩, rfl⟩
    obtain ⟨rfl, rfl⟩ := reads_literal_iff.mp hliteral
    exact ⟨gap, rfl, ⟨hgap, List.ne_nil_of_length_pos hlength⟩, rfl⟩
  · rintro ⟨gap, rfl, ⟨hgap, hne⟩, rfl⟩
    exact ⟨s.toList, gap, [], [], rfl, reads_literal_iff.mpr ⟨rfl, rfl⟩, ⟨hgap, List.length_pos_iff.mpr hne, rfl⟩, rfl⟩

/-! ## Characters of one kind -/

/-- A pattern takes characters of one kind only. -/
def Takes (kind : Char → Bool) : Pattern → Prop
  | one test | many test _ | few test _ => ∀ c, test c = true → kind c = true
  | seq first second | either first second => Takes kind first ∧ Takes kind second
  | capture _ inner => Takes kind inner
  | _ => True

theorem Takes.forall_mem {kind : Char → Bool} (h : pattern.Takes kind) (hreads : pattern.Reads before stretch rest found) :
    ∀ c ∈ stretch, kind c = true := by
  induction pattern generalizing before stretch rest found with
  | one test =>
    obtain ⟨c, hc, rfl, -⟩ := hreads
    simpa using h c hc
  | many test least | few test least => exact fun c hc => h c (hreads.1 c hc)
  | seq first second ihfirst ihsecond =>
    obtain ⟨head, tail, _, _, rfl, hhead, htail, -⟩ := hreads
    intro c hc
    rcases List.mem_append.mp hc with hc | hc
    · exact ihfirst h.1 hhead c hc
    · exact ihsecond h.2 htail c hc
  | either first second ihfirst ihsecond =>
    rcases hreads with hfirst | hsecond
    · exact ihfirst h.1 hfirst
    · exact ihsecond h.2 hsecond
  | capture number inner ih =>
    obtain ⟨_, hinner, -⟩ := hreads
    exact ih h hinner
  | nothing =>
    rw [hreads.1]
    exact nofun
  | wordEdge | lineStart | lineEnd | textStart | textEnd | ahead | notBefore | notAfter =>
    rw [hreads.2.1]
    exact nofun

theorem takes_literal {kind : Char → Bool} {s : String} (h : s.toList.all kind = true) : (literal s).Takes kind := by
  rw [literal]
  generalize s.toList = chars at h
  induction chars with
  | nil => exact trivial
  | cons c chars ih =>
    rw [List.all_cons, Bool.and_eq_true] at h
    refine ⟨?_, ih h.2⟩
    intro d hd
    obtain rfl := beq_iff_eq.mp hd
    exact h.1

/-! ## What becomes of lines -/

/-- What a pattern makes of a line, whatever follows it. Either nothing is read at its start and the line stays, or one
stretch of the line is read there and gives way to its replacement. -/
inductive Turns (pattern : Pattern) (replacement : Match → List Char) (line : List Char) : List Char → Prop where
  | kept (hnothing : ∀ before rest, StartsLine before → EndsLine rest → pattern.ReadsNothing before (line ++ rest)) :
      Turns pattern replacement line line
  | taken {stretch behind new : List Char} (hline : line = stretch ++ behind) (hstretch : stretch ≠ [])
      (hreads : ∀ before rest, StartsLine before → EndsLine rest →
        ∃ found, pattern.Reads before stretch (behind ++ rest) found)
      (honly : ∀ before rest other later found, EndsLine rest → line ++ rest = other ++ later →
        pattern.Reads before other later found → other = stretch ∧ ∀ m, Tells m other found → replacement m = new) :
      Turns pattern replacement line (new ++ behind)

variable {replacement : Match → List Char}

/-- A pattern reads only from the start of a line on. -/
def ReadsFromStart (pattern : Pattern) : Prop :=
  ∀ before stretch rest found, pattern.Reads before stretch rest found → StartsLine before

/-- Inside a line nothing is read. -/
theorem ReadsFromStart.readsNothing_inside (h : pattern.ReadsFromStart) {line : List Char} (hne : line ≠ [])
    (hline : '\n' ∉ line) (before : Option Char) (text : List Char) :
    pattern.ReadsNothing (beforeAfter before line) text := by
  intro stretch rest found _ hreads
  exact not_startsLine_beforeAfter hne hline before (h _ _ _ _ hreads)

/-- A line is rewritten, and what follows it on its own. -/
theorem ReadsFromStart.rewrites_line (h : pattern.ReadsFromStart) {line new later : List Char} (hline : '\n' ∉ line)
    (hturns : Turns pattern replacement line new) (hbefore : StartsLine before) (hrest : EndsLine rest)
    (hlater : Rewrites pattern replacement (beforeAfter before line) rest later) :
    Rewrites pattern replacement before (line ++ rest) (new ++ later) := by
  cases hturns with
  | kept hnothing =>
    -- nothing is read from the start of the line, and nowhere else does the pattern read
    apply Rewrites.keepAll _ hlater
    intro earlier inside hsplit hinside
    cases earlier with
    | nil =>
      obtain rfl : line = inside := hsplit
      exact hnothing before rest hbefore hrest
    | cons c earlier =>
      refine h.readsNothing_inside (List.cons_ne_nil c earlier) ?_ before _
      exact fun hin => hline (hsplit ▸ List.mem_append_left inside hin)
  | @taken stretch behind replaced hsame hstretch hreads honly =>
    have hnewline : '\n' ∉ stretch := fun hin => hline (hsame ▸ List.mem_append_left behind hin)
    have hbehind : Rewrites pattern replacement (beforeAfter before stretch) (behind ++ rest) (behind ++ later) := by
      apply Rewrites.keepAll
      · intro earlier inside hsplit hinside
        rw [← beforeAfter_append]
        refine h.readsNothing_inside (by simp [hstretch]) ?_ before _
        intro hin
        rcases List.mem_append.mp hin with hin | hin
        · exact hnewline hin
        · exact hline (hsame ▸ List.mem_append_right stretch (hsplit ▸ List.mem_append_left inside hin))
      · rwa [← beforeAfter_append, ← hsame]
    rw [hsame, List.append_assoc, List.append_assoc]
    apply Rewrites.swap hstretch (hreads before rest hbefore hrest) _ hbehind
    intro other after found hsplit hother
    exact honly before rest other after found hrest (by rw [hsame, List.append_assoc, hsplit]) hother

/-- Before the newline at the end of a line nothing is read. -/
theorem ReadsFromStart.readsNothing_newline (h : pattern.ReadsFromStart) {line new : List Char} (hline : '\n' ∉ line)
    (hturns : Turns pattern replacement line new) (hbefore : StartsLine before) (rest : List Char) :
    pattern.ReadsNothing (beforeAfter before line) ('\n' :: rest) := by
  by_cases hempty : line = []
  · -- the newline stands at the start of its line, and nothing is read there
    subst hempty
    cases hturns with
    | kept hnothing => exact hnothing before ('\n' :: rest) hbefore (endsLine_newline rest)
    | taken hsame hstretch => exact absurd (List.append_eq_nil_iff.mp hsame.symm).1 hstretch
  · exact h.readsNothing_inside hempty hline before _

theorem ReadsFromStart.rewrites_lines (h : pattern.ReadsFromStart) {lines results : List (List Char)}
    (hlines : ∀ line ∈ lines, '\n' ∉ line) (hturns : List.Forall₂ (Turns pattern replacement) lines results)
    (hbefore : StartsLine before) :
    Rewrites pattern replacement before (List.intercalate ['\n'] lines) (List.intercalate ['\n'] results) := by
  induction hturns generalizing before with
  | nil => exact .nil
  | @cons line new lines results hline hrest ih =>
    have hnewline := hlines line List.mem_cons_self
    cases hrest with
    | nil =>
      have hlast := @rewrites_line _ _ [] _ h _ _ [] hnewline hline hbefore endsLine_nil .nil
      rw [List.append_nil, List.append_nil] at hlast
      rwa [List.intercalate_singleton, List.intercalate_singleton]
    | @cons next newNext others newOthers hnext hothers =>
      rw [Text.intercalate_cons_of_ne_nil (List.cons_ne_nil next others),
        Text.intercalate_cons_of_ne_nil (List.cons_ne_nil newNext newOthers)]
      apply h.rewrites_line hnewline hline hbefore (endsLine_newline _)
      apply Rewrites.keep (h.readsNothing_newline hnewline hline hbefore _)
      exact ih (fun other hother => hlines other (List.mem_cons_of_mem line hother)) startsLine_newline

/-- The lines of a text are replaced one by one. -/
theorem ReadsFromStart.replaceAll_lines (h : pattern.ReadsFromStart) {lines results : List (List Char)}
    (hlines : ∀ line ∈ lines, '\n' ∉ line) (hturns : List.Forall₂ (Turns pattern replacement) lines results) :
    pattern.replaceAll replacement (List.intercalate ['\n'] lines) = List.intercalate ['\n'] results :=
  (h.rewrites_lines hlines hturns startsLine_none).replaceAll_eq

end Showcase.Pattern
