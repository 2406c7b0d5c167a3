import Showcase.Jsx.Convert
import Showcase.Proofs.Pattern.Replacement
import Showcase.Proofs.Text.Stretch

/-!
# The first return statement

A return statement is taken to end at the first closing parenthesis that a closing brace follows, with a semicolon and
blanks between them at most. What is nested in the markup is not counted: markup comes back whole exactly if no
parenthesis of its own is followed by a brace in that way, and otherwise what stands before the first such parenthesis.
-/

namespace Showcase.Jsx

open Pattern

/-! ## Where a return statement ends -/

/-- A text begins with a closing brace, but for blanks. -/
def beginsWithBrace (text : List Char) : Bool := (text.dropWhile Text.isBlank).head? == some '\x7d'

/-- Behind a closing parenthesis comes a closing brace, but for a semicolon and blanks. -/
def closesFunction : (behind : List Char) → Bool
  | ';' :: rest => beginsWithBrace rest
  | rest => beginsWithBrace rest

/-- A text up to the first closing parenthesis that ends a return statement, or all of it. -/
def upToEnd : List Char → List Char
  | [] => []
  | c :: rest => if c = ')' ∧ closesFunction rest = true then [] else c :: upToEnd rest

/-- No parenthesis of a text ends a return statement. -/
def EndsNowhere (text : List Char) : Prop :=
  ∀ earlier later, text = earlier ++ ')' :: later → closesFunction later = false

theorem beginsWithBrace_iff {text : List Char} : beginsWithBrace text = true ↔
    ∃ gap rest, (∀ c ∈ gap, Text.isBlank c = true) ∧ text = gap ++ '\x7d' :: rest := by
  rw [beginsWithBrace, beq_iff_eq]
  constructor
  · intro h
    obtain ⟨rest, hrest⟩ : ∃ rest, text.dropWhile Text.isBlank = '\x7d' :: rest := List.head?_eq_some_iff.mp h
    refine ⟨text.takeWhile Text.isBlank, rest, fun c hc => List.mem_takeWhile_imp hc, ?_⟩
    rw [← hrest, List.takeWhile_append_dropWhile]
  · rintro ⟨gap, rest, hgap, rfl⟩
    rw [List.dropWhile_append_of_pos hgap]
    rfl

theorem closesFunction_of_begins {behind : List Char} (h : beginsWithBrace behind = true) :
    closesFunction behind = true := by
  obtain ⟨gap, rest, hgap, rfl⟩ := beginsWithBrace_iff.mp h
  rw [closesFunction]
  · exact h
  · rintro later hlater
    cases gap with
    | nil => exact absurd (List.cons.inj hlater).1 (by decide)
    | cons c gap =>
      obtain rfl : c = ';' := (List.cons.inj hlater).1
      exact absurd (hgap ';' List.mem_cons_self) (by decide)

theorem closesFunction_iff {behind : List Char} : closesFunction behind = true ↔
    beginsWithBrace behind = true ∨ ∃ rest, behind = ';' :: rest ∧ beginsWithBrace rest = true := by
  constructor
  · intro h
    unfold closesFunction at h
    split at h
    · rename_i rest
      exact .inr ⟨rest, rfl, h⟩
    · exact .inl h
  · rintro (h | ⟨rest, rfl, h⟩)
    · exact closesFunction_of_begins h
    · exact h

/-- A text is cut at the first of its parentheses that ends a return statement. -/
theorem upToEnd_append {head behind : List Char}
    (hhead : ∀ earlier later, head = earlier ++ ')' :: later → closesFunction (later ++ ')' :: behind) = false)
    (hbehind : closesFunction behind = true) : upToEnd (head ++ ')' :: behind) = head := by
  induction head with
  | nil => simp [upToEnd, hbehind]
  | cons c head ih =>
    have hlater : upToEnd (head ++ ')' :: behind) = head := by
      apply ih
      intro earlier later hsplit
      exact hhead (c :: earlier) later (by rw [hsplit, List.cons_append])
    rw [List.cons_append, upToEnd, hlater, if_neg]
    rintro ⟨rfl, hcloses⟩
    rw [hhead [] head rfl] at hcloses
    cases hcloses

theorem upToEnd_eq_self_iff {text : List Char} : upToEnd text = text ↔ EndsNowhere text := by
  induction text with
  | nil =>
    refine iff_of_true rfl ?_
    intro earlier later hsplit
    cases earlier <;> cases hsplit
  | cons c text ih =>
    rw [upToEnd]
    split
    · rename_i hcloses
      obtain ⟨rfl, hcloses⟩ := hcloses
      refine iff_of_false (List.cons_ne_nil _ _).symm ?_
      intro hnowhere
      rw [hnowhere [] text rfl] at hcloses
      cases hcloses
    · rename_i hopen
      -- where the text ends nowhere, neither its first character nor what is behind it is an end
      rw [List.cons.injEq, ih]
      constructor
      · rintro ⟨-, hnowhere⟩ earlier later hsplit
        cases earlier with
        | nil =>
          obtain ⟨rfl, rfl⟩ := List.cons.inj hsplit
          exact Bool.not_eq_true _ ▸ fun hcloses => hopen ⟨rfl, hcloses⟩
        | cons d earlier => exact hnowhere earlier later (List.cons.inj hsplit).2
      · intro hnowhere
        refine ⟨rfl, ?_⟩
        intro earlier later hsplit
        exact hnowhere (c :: earlier) later (by rw [hsplit, List.cons_append])

/-- What is left of a text is followed by a parenthesis that ends a return statement, unless the text is all left. -/
theorem exists_of_upToEnd_ne {text : List Char} (h : ¬EndsNowhere text) :
    ∃ behind, text = upToEnd text ++ ')' :: behind ∧ closesFunction behind = true := by
  induction text with
  | nil => exact absurd (upToEnd_eq_self_iff.mp rfl) h
  | cons c text ih =>
    rw [upToEnd]
    split
    · rename_i hcloses
      obtain ⟨rfl, hcloses⟩ := hcloses
      exact ⟨text, rfl, hcloses⟩
    · rename_i hopen
      have hlater : ¬EndsNowhere text := by
        rw [← upToEnd_eq_self_iff] at h ⊢
        rwa [upToEnd, if_neg hopen, List.cons.injEq, eq_self, true_and] at h
      obtain ⟨behind, hsplit, hcloses⟩ := ih hlater
      exact ⟨behind, by rw [List.cons_append, ← hsplit], hcloses⟩

/-! ## What the pattern reads -/

/-- The part of the pattern behind the markup. -/
def ending : List Pattern := [blanks, char ')', optional (char ';'), blanks, char '\x7d']

/-- A text begins with the end of a return statement. -/
def Ends (text : List Char) : Prop :=
  ∃ lead behind, (∀ c ∈ lead, Text.isBlank c = true) ∧ text = lead ++ ')' :: behind ∧ closesFunction behind = true

section

variable {before : Option Char} {stretch rest : List Char} {found : List (Nat × List Char)}

theorem reads_brace_iff : (sequence [blanks, char '\x7d']).Reads before stretch rest found ↔
    ∃ gap, (∀ c ∈ gap, Text.isBlank c = true) ∧ stretch = gap ++ ['\x7d'] ∧ found = [] := by
  simp only [reads_blanks_cons, reads_char_cons, reads_sequence_nil]
  constructor
  · rintro ⟨gap, _, rfl, hgap, _, rfl, rfl, rfl⟩
    exact ⟨gap, hgap, rfl, rfl⟩
  · rintro ⟨gap, hgap, rfl, rfl⟩
    exact ⟨gap, ['\x7d'], rfl, hgap, [], rfl, rfl, rfl⟩

theorem ends_of_reads (h : (sequence ending).Reads before stretch rest found) : Ends (stretch ++ rest) ∧ found = [] := by
  obtain ⟨lead, _, rfl, hlead, hclosing⟩ := reads_blanks_cons.mp h
  obtain ⟨tail, rfl, hbehind⟩ := reads_char_cons.mp hclosing
  rcases reads_optional_char_cons.mp hbehind with ⟨later, rfl, hbrace⟩ | hbrace
  · obtain ⟨gap, hgap, rfl, rfl⟩ := reads_brace_iff.mp hbrace
    have hbrace : beginsWithBrace (gap ++ ['\x7d'] ++ rest) = true :=
      beginsWithBrace_iff.mpr ⟨gap, rest, hgap, by simp⟩
    exact ⟨⟨lead, ';' :: (gap ++ ['\x7d'] ++ rest), hlead, by simp, hbrace⟩, rfl⟩
  · obtain ⟨gap, hgap, rfl, rfl⟩ := reads_brace_iff.mp hbrace
    have hbrace : beginsWithBrace (gap ++ ['\x7d'] ++ rest) = true :=
      beginsWithBrace_iff.mpr ⟨gap, rest, hgap, by simp⟩
    exact ⟨⟨lead, gap ++ ['\x7d'] ++ rest, hlead, by simp, closesFunction_of_begins hbrace⟩, rfl⟩

theorem exists_reads_of_ends {text : List Char} (h : Ends text) (before : Option Char) :
    ∃ stretch rest, text = stretch ++ rest ∧ (sequence ending).Reads before stretch rest [] := by
  obtain ⟨lead, behind, hlead, rfl, hcloses⟩ := h
  rcases closesFunction_iff.mp hcloses with hbrace | ⟨later, rfl, hbrace⟩
  · obtain ⟨gap, rest, hgap, rfl⟩ := beginsWithBrace_iff.mp hbrace
    refine ⟨lead ++ ')' :: (gap ++ ['\x7d']), rest, by simp, ?_⟩
    rw [ending, reads_blanks_cons]
    refine ⟨lead, _, rfl, hlead, reads_char_cons.mpr ⟨_, rfl, reads_optional_char_cons.mpr (.inr ?_)⟩⟩
    exact reads_brace_iff.mpr ⟨gap, hgap, rfl, rfl⟩
  · obtain ⟨gap, rest, hgap, rfl⟩ := beginsWithBrace_iff.mp hbrace
    refine ⟨lead ++ ')' :: ';' :: (gap ++ ['\x7d']), rest, by simp, ?_⟩
    rw [ending, reads_blanks_cons]
    refine ⟨lead, _, rfl, hlead, reads_char_cons.mpr ⟨_, rfl, reads_optional_char_cons.mpr (.inl ⟨_, rfl, ?_⟩)⟩⟩
    exact reads_brace_iff.mpr ⟨gap, hgap, rfl, rfl⟩

end

/-- A match of the pattern: the markup goes from behind the opening parenthesis and its blanks to the first place from
which a return statement ends. -/
theorem exists_of_matchAt {before : Option Char} {offset : Nat} {text : List Char} {m : Match}
    (h : returnStatement.matchAt before offset text = some m) :
    ∃ gap lead block rest, text = "return".toList ++ (gap ++ '(' :: (lead ++ (block ++ rest))) ∧
      (∀ c ∈ gap, Text.isBlank c = true) ∧ (∀ c ∈ lead, Text.isBlank c = true) ∧ m.captured 1 = block ∧ Ends rest ∧
        ∀ earlier later, block = earlier ++ later → later ≠ [] → ¬Ends (later ++ rest) := by
  have hmatch : (sequence ([literal "return", blanks, char '(', blanks] ++ capture 1 (few (fun _ => true) 0) :: ending)).matchAt
      before offset text = some m := h
  obtain ⟨head, block, tail, rest, _, _, rfl, hopening, hending, htells, hshorter⟩ := exists_shortest_of_matchAt hmatch
  simp only [reads_literal_cons, reads_blanks_cons, reads_char_cons, reads_sequence_nil] at hopening
  obtain ⟨_, rfl, gap, _, rfl, hgap, _, rfl, lead, _, rfl, hlead, rfl, rfl⟩ := hopening
  obtain ⟨hends, rfl⟩ := ends_of_reads hending
  refine ⟨gap, lead, block, tail ++ rest, by simp, hgap, hlead, ?_, hends, ?_⟩
  · rw [Match.captured, htells.captured?]
    rfl
  · intro earlier later hsplit hlater hearlier
    obtain ⟨other, after, htext, hother⟩ := exists_reads_of_ends hearlier _
    exact hshorter earlier later hsplit hlater other after [] htext hother

/-! ## The markup of a source -/

theorem not_mem_of_isBlank {gap : List Char} (hgap : ∀ c ∈ gap, Text.isBlank c = true) : ')' ∉ gap :=
  Text.not_mem_of_kind (by decide) hgap

/-- The markup of a match is, but for outer blanks, what stands behind the opening parenthesis up to the first parenthesis
that ends a return statement. -/
theorem trim_captured {before : Option Char} {offset : Nat} {gap body : List Char} {m : Match}
    (hgap : ∀ c ∈ gap, Text.isBlank c = true)
    (h : returnStatement.matchAt before offset ("return".toList ++ (gap ++ '(' :: body)) = some m) :
    Text.trim (m.captured 1) = Text.trim (upToEnd body) := by
  obtain ⟨gap', lead, block, rest, hsplit, hgap', hlead, hblock, ⟨trail, behind, htrail, rfl, hcloses⟩, hshorter⟩ :=
    exists_of_matchAt h
  have hbody : body = lead ++ (block ++ (trail ++ ')' :: behind)) := by
    have hopening : ∀ (tail : List Char), ∀ c, ('(' :: tail).head? = some c → Text.isBlank c = false :=
      Text.of_head_cons (by decide)
    obtain ⟨-, hparen⟩ := Text.stretch_unique hgap hgap' (hopening _) (hopening _) (List.append_cancel_left hsplit)
    exact (List.cons.inj hparen).2
  have hcut : upToEnd body = lead ++ (block ++ trail) := by
    rw [hbody, ← List.append_assoc block, ← List.append_assoc lead]
    apply upToEnd_append _ hcloses
    intro earlier later hparen
    -- a parenthesis before the end stands in the block, where no return statement ends
    obtain ⟨inside, -, hinside⟩ := Text.exists_of_not_mem (not_mem_of_isBlank hlead) hparen
    obtain ⟨later, hblock, rfl⟩ := Text.exists_of_not_mem_right (not_mem_of_isBlank htrail) hinside
    rw [← Bool.not_eq_true, List.append_assoc]
    intro hends
    exact hshorter inside (')' :: later) hblock (List.cons_ne_nil _ _) ⟨[], _, nofun, rfl, hends⟩
  rw [hcut, hblock, Text.trim, Text.trim, Text.stripWhile_append_left hlead, Text.stripWhile_append_right htrail]

/-- No two occurrences of the keyword overlap. -/
theorem not_prefix_of_not_infix {later : List Char} (hlater : later ≠ []) (habsent : ¬"return".toList <:+: later)
    (rest : List Char) : ¬"return".toList <+: later ++ ("return".toList ++ rest) := by
  rcases later with _ | ⟨a, _ | ⟨b, _ | ⟨c, _ | ⟨d, _ | ⟨e, _ | ⟨f, later⟩⟩⟩⟩⟩⟩
  · exact absurd rfl hlater
  · simp
  · simp
  · simp
  · simp
  · simp
  · intro hprefix
    refine habsent (List.IsPrefix.isInfix (List.prefix_of_prefix_length_le hprefix (List.prefix_append _ _) ?_))
    simp

/-- Before the first occurrence of the keyword there is no match. -/
theorem find?_returnStatement {ahead : List Char} (hahead : ¬"return".toList <:+: ahead) (rest : List Char) :
    returnStatement.find? (ahead ++ ("return".toList ++ rest)) =
      returnStatement.findFrom (beforeAfter none ahead) (0 + ahead.length) ("return".toList ++ rest) := by
  apply findFrom_skip
  intro earlier later hsplit hlater stretch behind found htext hreads
  obtain ⟨tail, rfl, -⟩ := reads_literal_cons.mp hreads
  have habsent : ¬"return".toList <:+: later := by
    intro hin
    exact hahead (hin.trans (hsplit ▸ (List.suffix_append earlier later).isInfix))
  refine not_prefix_of_not_infix hlater habsent rest ⟨tail ++ behind, ?_⟩
  rw [htext, List.append_assoc]

/-- Behind the keyword and an opening parenthesis there is a match if some parenthesis ends a return statement. -/
theorem exists_matchAt_returnStatement {gap body : List Char} (hgap : ∀ c ∈ gap, Text.isBlank c = true)
    (hbody : ¬EndsNowhere body) (before : Option Char) (offset : Nat) :
    ∃ m, returnStatement.matchAt before offset ("return".toList ++ (gap ++ '(' :: body)) = some m := by
  obtain ⟨behind, hsplit, hcloses⟩ := exists_of_upToEnd_ne hbody
  cases hmatch : returnStatement.matchAt before offset ("return".toList ++ (gap ++ '(' :: body)) with
  | some m => exact ⟨m, rfl⟩
  | none =>
    have hends : Ends (')' :: behind) := ⟨[], behind, nofun, rfl, hcloses⟩
    obtain ⟨stretch, rest, htext, hreads⟩ := exists_reads_of_ends hends (beforeAfter (some '(') (upToEnd body))
    refine absurd ?_ (matchAt_eq_none.mp hmatch ("return".toList ++ (gap ++ '(' :: (upToEnd body ++ stretch))) rest
      [(1, upToEnd body)] ?_)
    · refine reads_literal_cons.mpr ⟨_, rfl, reads_blanks_cons.mpr ⟨gap, _, rfl, hgap, reads_char_cons.mpr ⟨_, rfl, ?_⟩⟩⟩
      refine reads_blanks_cons.mpr ⟨[], _, rfl, nofun, reads_capture_cons.mpr ⟨upToEnd body, stretch, [], [], rfl, ?_⟩⟩
      exact ⟨⟨fun _ _ => rfl, Nat.zero_le _, rfl⟩, hreads, rfl⟩
    · rw [htext] at hsplit
      simpa using hsplit

theorem returnedMarkup?_eq {ahead gap body : List Char} (hahead : ¬"return".toList <:+: ahead)
    (hgap : ∀ c ∈ gap, Text.isBlank c = true) (hbody : ¬EndsNowhere body) :
    returnedMarkup? (String.ofList (ahead ++ ("return".toList ++ (gap ++ '(' :: body)))) =
      if (Text.trim (upToEnd body)).isEmpty then none else some (String.ofList (Text.trim (upToEnd body))) := by
  obtain ⟨m, hmatch⟩ := exists_matchAt_returnStatement hgap hbody (beforeAfter none ahead) (0 + ahead.length)
  simp only [returnedMarkup?, String.toList_ofList, find?_returnStatement hahead, findFrom_of_matchAt hmatch,
    trim_captured hgap hmatch]

/-! ## Nested markup -/

/-- The closing characters still to come behind a character, the next one first, if it may stand where these are still to
come. -/
def awaitedAfter (awaited : List Char) (c : Char) : Option (List Char) :=
  if c = '(' then some (')' :: awaited)
  else if c = '\x7b' then some ('\x7d' :: awaited)
  else if c = ')' ∨ c = '\x7d' then if awaited.head? = some c then some awaited.tail else none
  else some awaited

/-- Parentheses and braces of a text are properly nested, where these closing ones are still to come. -/
def isNested : (awaited : List Char) → List Char → Bool
  | awaited, [] => awaited.isEmpty
  | awaited, c :: rest =>
    match awaitedAfter awaited c with
    | some later => isNested later rest
    | none => false

/-- Markup that is not blank, without quotes, backticks and comments, with parentheses and braces properly nested. -/
structure IsMarkup (text : List Char) : Prop where
  filled : Text.trim text ≠ []
  unquoted : ∀ c ∈ text, c ≠ '\'' ∧ c ≠ '"' ∧ c ≠ '\x60'
  uncommented : ∀ mark ∈ ["//", "/*", "<!--"], ¬mark.toList <:+: text
  nested : isNested [] text = true

/-- A closing parenthesis is awaited behind an opening one, or was awaited before. -/
theorem mem_awaitedAfter {awaited later : List Char} {c : Char} (h : awaitedAfter awaited c = some later)
    (hlater : ')' ∈ later) : c = '(' ∨ ')' ∈ awaited := by
  unfold awaitedAfter at h
  split at h
  · rename_i hopening
    exact .inl hopening
  · right
    split at h
    · obtain rfl := Option.some.inj h
      exact (List.mem_cons.mp hlater).resolve_left (by decide)
    · split at h
      · obtain ⟨-, h⟩ := Option.ite_none_right_eq_some.mp h
        obtain rfl := Option.some.inj h
        exact List.mem_of_mem_tail hlater
      · obtain rfl := Option.some.inj h
        exact hlater

/-- A closing parenthesis closes one that stands before it. -/
theorem mem_of_isNested {awaited head tail : List Char} (h : isNested awaited (head ++ ')' :: tail) = true) :
    '(' ∈ head ∨ ')' ∈ awaited := by
  induction head generalizing awaited with
  | nil =>
    rw [List.nil_append, isNested] at h
    split at h
    · rename_i later hafter
      rw [awaitedAfter, if_neg (by decide), if_neg (by decide), if_pos (.inl rfl)] at hafter
      exact .inr (List.mem_of_mem_head? (Option.ite_none_right_eq_some.mp hafter).1)
    · cases h
  | cons c head ih =>
    rw [List.cons_append, isNested] at h
    split at h
    · rename_i later hafter
      rcases ih h with hhead | hlater
      · exact .inl (List.mem_cons_of_mem c hhead)
      · rcases mem_awaitedAfter hafter hlater with rfl | hawaited
        · exact .inl List.mem_cons_self
        · exact .inr hawaited
    · cases h

/-- What is left of markup is not blank: a parenthesis at which it is cut closes one that is left. -/
theorem IsMarkup.trim_upToEnd {text : List Char} (h : IsMarkup text) : Text.trim (upToEnd text) ≠ [] := by
  by_cases hnowhere : EndsNowhere text
  · rw [upToEnd_eq_self_iff.mpr hnowhere]
    exact h.filled
  · obtain ⟨behind, hsplit, -⟩ := exists_of_upToEnd_ne hnowhere
    have hopening : '(' ∈ upToEnd text := by
      have hnested := h.nested
      rw [hsplit] at hnested
      exact (mem_of_isNested hnested).resolve_right List.not_mem_nil
    obtain ⟨lead, trail, hstrip, hlead, htrail⟩ := Text.exists_stripWhile Text.isBlank (upToEnd text)
    intro hblank
    rw [show Text.stripWhile Text.isBlank (upToEnd text) = [] from hblank, List.append_nil] at hstrip
    rw [hstrip] at hopening
    rcases List.mem_append.mp hopening with hin | hin
    · exact absurd (hlead _ hin) (by decide)
    · exact absurd (htrail _ hin) (by decide)

/-! ## Markup in a source -/

theorem beginsWithBrace_append (text behind : List Char) :
    beginsWithBrace (text ++ ')' :: behind) = beginsWithBrace text := by
  rw [beginsWithBrace, beginsWithBrace, List.dropWhile_append]
  split
  · rename_i hnone
    rw [List.isEmpty_iff.mp hnone]
    rfl
  · rename_i hsome
    cases hdrop : text.dropWhile Text.isBlank with
    | nil => exact absurd (by rw [hdrop]; rfl) hsome
    | cons c rest => rfl

/-- Whether a parenthesis ends a return statement is told by what stands up to the next one. -/
theorem closesFunction_append (text behind : List Char) :
    closesFunction (text ++ ')' :: behind) = closesFunction text := by
  rw [Bool.eq_iff_iff, closesFunction_iff, closesFunction_iff, beginsWithBrace_append]
  constructor
  · rintro (hbrace | ⟨rest, hrest, hbrace⟩)
    · exact .inl hbrace
    · cases text with
      | nil => exact absurd (List.cons.inj hrest).1 (by decide)
      | cons c text =>
        obtain ⟨rfl, rfl⟩ := List.cons.inj hrest
        exact .inr ⟨text, rfl, beginsWithBrace_append text behind ▸ hbrace⟩
  · rintro (hbrace | ⟨rest, rfl, hbrace⟩)
    · exact .inl hbrace
    · exact .inr ⟨rest ++ ')' :: behind, rfl, beginsWithBrace_append rest behind ▸ hbrace⟩

/-- Markup is cut at a parenthesis of its own, or at the one that is put behind it. -/
theorem upToEnd_markup (markup : List Char) {behind : List Char} (hbehind : closesFunction behind = true) :
    upToEnd (markup ++ ')' :: behind) = upToEnd markup := by
  induction markup with
  | nil => simp [upToEnd, hbehind]
  | cons c markup ih => rw [List.cons_append, upToEnd, upToEnd, closesFunction_append, ih]

/-- A source with markup in its first return statement. -/
def sourceOf (ahead markup behind : String) : String := ahead ++ "return (" ++ markup ++ ");\n\x7d" ++ behind

theorem returnedMarkup?_sourceOf {ahead : String} (hahead : ¬"return".toList <:+: ahead.toList) (markup behind : String) :
    returnedMarkup? (sourceOf ahead markup behind) =
      if (Text.trim (upToEnd markup.toList)).isEmpty then none
      else some (String.ofList (Text.trim (upToEnd markup.toList))) := by
  have hcloses : closesFunction (";\n\x7d".toList ++ behind.toList) = true := by
    exact closesFunction_iff.mpr (.inr ⟨'\n' :: '\x7d' :: behind.toList, rfl,
      beginsWithBrace_iff.mpr ⟨['\n'], behind.toList, Text.forall_mem_of_all (by decide), rfl⟩⟩)
  have hbody : ¬EndsNowhere (markup.toList ++ ')' :: (";\n\x7d".toList ++ behind.toList)) := by
    intro hnowhere
    rw [hnowhere markup.toList _ rfl] at hcloses
    cases hcloses
  have hsource : sourceOf ahead markup behind = String.ofList (ahead.toList ++ ("return".toList ++ ([' '] ++
      '(' :: (markup.toList ++ ')' :: (";\n\x7d".toList ++ behind.toList))))) := by
    apply String.toList_injective
    simp [sourceOf]
  rw [hsource, returnedMarkup?_eq hahead (Text.forall_mem_of_all (by decide)) hbody, upToEnd_markup _ hcloses]

/-- Blanks aside, less is left of a text that is cut. -/
theorem trim_upToEnd_ne {text : List Char} (h : ¬EndsNowhere text) : Text.trim (upToEnd text) ≠ Text.trim text := by
  -- a parenthesis is lost, and stripping loses none
  have hcount : ∀ s : List Char, (Text.trim s).count ')' = s.count ')' := by
    intro s
    obtain ⟨lead, trail, hstrip, hlead, htrail⟩ := Text.exists_stripWhile Text.isBlank s
    conv_rhs => rw [hstrip]
    rw [List.count_append, List.count_append, List.count_eq_zero_of_not_mem (not_mem_of_isBlank hlead),
      List.count_eq_zero_of_not_mem (not_mem_of_isBlank htrail), Nat.zero_add, Nat.add_zero]
    rfl
  obtain ⟨behind, hsplit, -⟩ := exists_of_upToEnd_ne h
  intro hsame
  have hlost : text.count ')' = (upToEnd text).count ')' + (')' :: behind).count ')' := by
    rw [← List.count_append, ← hsplit]
  rw [← hcount, ← hcount (upToEnd text), hsame, List.count_cons_self] at hlost
  omega

/-- The markup of a first return statement comes back up to the first parenthesis of its own that is followed by a closing
brace, with a semicolon and blanks between them at most. It comes back whole exactly if it has no such parenthesis. -/
theorem first_return_whole_iff (ahead markup behind : String) (hahead : ¬"return".toList <:+: ahead.toList)
    (hmarkup : IsMarkup markup.toList) :
    returnedMarkup? (sourceOf ahead markup behind) = some (String.ofList (Text.trim (upToEnd markup.toList))) ∧
      (returnedMarkup? (sourceOf ahead markup behind) = some (trimmed markup) ↔ EndsNowhere markup.toList) := by
  have hreturned : returnedMarkup? (sourceOf ahead markup behind) =
      some (String.ofList (Text.trim (upToEnd markup.toList))) := by
    rw [returnedMarkup?_sourceOf hahead, if_neg (by simpa using hmarkup.trim_upToEnd)]
  refine ⟨hreturned, ?_⟩
  rw [hreturned, Option.some.injEq, trimmed]
  constructor
  · intro hwhole
    by_contra hcut
    exact trim_upToEnd_ne hcut (String.ofList_injective hwhole)
  · intro hnowhere
    rw [upToEnd_eq_self_iff.mpr hnowhere]

theorem first_return_whole_of_heading :
    ¬"return".toList <:+: "function Hero() \x7b ".toList ∧
      IsMarkup "\n<h1>\x7bfirst(title) + last\x7d</h1>\n".toList ∧
      returnedMarkup? (sourceOf "function Hero() \x7b " "\n<h1>\x7bfirst(title) + last\x7d</h1>\n" "\n") =
        some "<h1>\x7bfirst(title) + last\x7d</h1>" := by
  have habsent : ¬"return".toList <:+: "function Hero() \x7b ".toList := by decide +kernel
  have hmarkup : IsMarkup "\n<h1>\x7bfirst(title) + last\x7d</h1>\n".toList :=
    ⟨by decide +kernel, Text.forall_mem_of_all (by decide +kernel), by decide +kernel, by decide +kernel⟩
  have hreturned := (first_return_whole_iff "function Hero() \x7b " "\n<h1>\x7bfirst(title) + last\x7d</h1>\n" "\n"
    habsent hmarkup).1
  have hwhole : String.ofList (Text.trim (upToEnd "\n<h1>\x7bfirst(title) + last\x7d</h1>\n".toList)) =
      "<h1>\x7bfirst(title) + last\x7d</h1>" := by decide +kernel
  exact ⟨habsent, hmarkup, hwhole ▸ hreturned⟩

/-- Markup that lists items is cut behind the first of them: the parenthesis of the call is followed by the brace of the
expression. -/
theorem not_first_return_whole : ¬∀ ahead markup behind : String, ¬"return".toList <:+: ahead.toList →
    IsMarkup markup.toList → returnedMarkup? (sourceOf ahead markup behind) = some (trimmed markup) := by
  intro hall
  have hmarkup : IsMarkup "<ul>\x7bitems.map((item) => <li>\x7bitem\x7d</li>)\x7d</ul>".toList :=
    ⟨by decide +kernel, Text.forall_mem_of_all (by decide +kernel), by decide +kernel, by decide +kernel⟩
  have hwhole := hall "" "<ul>\x7bitems.map((item) => <li>\x7bitem\x7d</li>)\x7d</ul>" "" (by decide +kernel) hmarkup
  rw [returnedMarkup?_sourceOf (by decide +kernel)] at hwhole
  exact absurd hwhole (by decide +kernel)

end Showcase.Jsx
