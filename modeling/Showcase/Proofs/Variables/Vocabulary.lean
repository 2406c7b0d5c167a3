import Showcase.Proofs.Pattern.Line
import Showcase.Proofs.Pattern.Matches
import Showcase.Proofs.Template.Detection
import Showcase.Proofs.Text.SmallLetter
import Showcase.Proofs.Text.Words
import Showcase.Variables.Vocabulary

/-!
# Words of the vocabulary

The pattern for the vocabulary looks at the edges of words and at single letters. What it finds are those words of a source
that spell a word of the vocabulary, in any letter case, each of them once. Such a word has an entry exactly if it is spelt
without the dotted capital I, the dotless i and the long s; so the variables of a source are those that its words name, each
once in the order of first occurrence, unless a word of the vocabulary is spelt with one of these three letters.
-/

namespace Showcase

namespace Pattern

variable {before : Option Char} {stretch rest : List Char} {found : List (Nat × List Char)}

/-- One of several patterns is read. -/
theorem reads_choice_iff {patterns : List Pattern} :
    (choice patterns).Reads before stretch rest found ↔ ∃ pattern ∈ patterns, pattern.Reads before stretch rest found := by
  induction patterns with
  | nil => simp [choice]
  | cons first others ih =>
    cases others with
    | nil => simp [choice]
    | cons second others =>
      rw [List.exists_mem_cons_iff, ← ih]
      exact Iff.rfl

/-- A word in any letter case takes as many letters, each of which matches. -/
theorem reads_anyCase_iff {word : String} : (anyCase word).Reads before stretch rest found ↔
    stretch.map matchedLetter = word.toList.map Text.lowerChar ∧ found = [] := by
  rw [anyCase]
  generalize word.toList = letters
  induction letters generalizing before stretch with
  | nil => simp
  | cons c letters ih =>
    rw [List.map_cons, reads_one_cons]
    simp only [ih, beq_iff_eq]
    constructor
    · rintro ⟨d, tail, rfl, hd, htail, hfound⟩
      exact ⟨by rw [List.map_cons, List.map_cons, hd, htail], hfound⟩
    · rintro ⟨hletters, hfound⟩
      cases stretch with
      | nil => cases hletters
      | cons d tail =>
        obtain ⟨hd, htail⟩ := List.cons.inj hletters
        exact ⟨d, tail, rfl, hd, htail, hfound⟩

end Pattern

namespace Variables

open Pattern

/-! ## Spellings -/

/-- A word spells a name: as many letters, and each is matched as the letter of the name, whatever their case. -/
def Spells (name : String) (word : List Char) : Prop := word.map matchedLetter = name.toList.map Text.lowerChar

instance (name : String) (word : List Char) : Decidable (Spells name word) :=
  inferInstanceAs (Decidable (word.map matchedLetter = name.toList.map Text.lowerChar))

/-- The name of the vocabulary that a word spells. -/
def spelt? (word : List Char) : Option String := vocabulary.find? fun name => decide (Spells name word)

/-- The names of the vocabulary that the words of a source spell, one for each word that spells one. -/
def namesIn (source : List Char) : List String := (Text.wordsOf source).filterMap spelt?

/-- A word is spelt without the three letters that have no place in lower case. -/
def IsPlain (word : List Char) : Prop := ∀ c ∈ word, Text.isStray c = false

instance (word : List Char) : Decidable (IsPlain word) := List.decidableBAll (fun c => Text.isStray c = false) word

theorem lower_vocabulary : ∀ name ∈ vocabulary, name.toList ≠ [] ∧ Text.lower name.toList = name.toList.map Text.lowerChar ∧
    (name.toList.map Text.lowerChar).all Text.isSmall = true := by
  decide

/-- The names of the vocabulary differ in lower case. -/
theorem eq_of_map_lowerChar : ∀ first ∈ vocabulary, ∀ second ∈ vocabulary,
    first.toList.map Text.lowerChar = second.toList.map Text.lowerChar → first = second := by
  decide

variable {name : String} {word : List Char}

/-- The only name of the vocabulary that passes a test is found by it. -/
theorem find?_vocabulary {passes : String → Bool} (hname : name ∈ vocabulary) (hpasses : passes name = true)
    (honly : ∀ other ∈ vocabulary, passes other = true → other = name) : vocabulary.find? passes = some name := by
  cases hfound : vocabulary.find? passes with
  | none => exact absurd hpasses (List.find?_eq_none.mp hfound name hname)
  | some other => rw [honly other (List.mem_of_find?_eq_some hfound) (List.find?_some hfound)]

theorem spelt?_eq_some : spelt? word = some name ↔ name ∈ vocabulary ∧ Spells name word := by
  constructor
  · intro h
    rw [spelt?] at h
    exact ⟨List.mem_of_find?_eq_some h, by simpa using List.find?_some h⟩
  · rintro ⟨hname, hspells⟩
    refine find?_vocabulary hname (decide_eq_true hspells) fun other hother hpasses => ?_
    exact eq_of_map_lowerChar other hother name hname ((of_decide_eq_true hpasses).symm.trans hspells)

/-- The letters of a word that spells a name. -/
theorem Spells.isSmall (h : Spells name word) (hname : name ∈ vocabulary) : ∀ c ∈ word, Text.isSmall (matchedLetter c) = true := by
  intro c hc
  have hletters := List.all_eq_true.mp (lower_vocabulary name hname).2.2
  rw [← show word.map matchedLetter = name.toList.map Text.lowerChar from h] at hletters
  exact hletters _ (List.mem_map_of_mem hc)

theorem Spells.isWord (h : Spells name word) (hname : name ∈ vocabulary) : ∀ c ∈ word, Text.isWord c = true :=
  fun c hc => Text.isWord_of_isSmall_matchedLetter (h.isSmall hname c hc)

theorem Spells.ne_nil (h : Spells name word) (hname : name ∈ vocabulary) : word ≠ [] := by
  rintro rfl
  exact (lower_vocabulary name hname).1 (List.map_eq_nil_iff.mp h.symm)

/-! ## Looking a word up -/

/-- A word that is spelt plainly is found by its lower case. -/
theorem lower_of_spells (h : Spells name word) (hname : name ∈ vocabulary) (hplain : IsPlain word) :
    Text.lower word = Text.lower name.toList := by
  have hletters : word.map matchedLetter = word.map Text.lowerChar :=
    List.map_congr_left fun c hc => Text.matchedLetter_of_not_isStray (hplain c hc)
  have hcommon : ∀ c ∈ word, c.toNat ≠ 0x3A3 ∧ c.toNat ≠ 0x130 := by
    intro c hc
    constructor
    · intro hsigma
      have hsmall := h.isSmall hname c hc
      rw [Text.eq_ofNat hsigma] at hsmall
      revert hsmall
      decide
    · intro hdotted
      have hcommon := hplain c hc
      rw [Text.eq_ofNat hdotted] at hcommon
      revert hcommon
      decide
  rw [Text.lower_eq_map hcommon, ← hletters, (lower_vocabulary name hname).2.1]
  exact h

theorem canonical_of_isPlain (h : Spells name word) (hname : name ∈ vocabulary) (hplain : IsPlain word) :
    canonical word = .ok name := by
  have hlookup : vocabulary.find? (fun other => Text.lower other.toList == Text.lower word) = some name := by
    refine find?_vocabulary hname ?_ fun other hother hpasses => ?_
    · rw [lower_of_spells h hname hplain, beq_self_eq_true]
    · have hsame := beq_iff_eq.mp hpasses
      rw [lower_of_spells h hname hplain, (lower_vocabulary name hname).2.1, (lower_vocabulary other hother).2.1] at hsame
      exact eq_of_map_lowerChar other hother name hname hsame
  rw [canonical, hlookup]

/-- A word that is spelt with one of the three letters is not found, whatever it spells. -/
theorem canonical_of_not_isPlain (hstray : ¬IsPlain word) :
    canonical word = .error (.unknownKey (String.ofList (Text.lower word))) := by
  have hlookup : vocabulary.find? (fun other => Text.lower other.toList == Text.lower word) = none := by
    rw [List.find?_eq_none]
    intro name hname hsame
    obtain ⟨c, hc, hstray⟩ : ∃ c ∈ word, Text.isStray c = true := by simpa [IsPlain] using hstray
    obtain ⟨d, hd, hhigh⟩ := Text.exists_mem_lower_of_isStray hc hstray
    obtain ⟨-, hlower, hsmall⟩ := lower_vocabulary name hname
    rw [← beq_iff_eq.mp hsame, hlower] at hd
    have hbounds := Text.toNat_of_isSmall (List.all_eq_true.mp hsmall d hd)
    omega
  rw [canonical, hlookup]

/-! ## Words in a source -/

variable {before : Option Char} {stretch rest : List Char} {found : List (Nat × List Char)}

/-- What the pattern reads is a word of the vocabulary between the edges of a word. -/
theorem reads_vocabularyWord_iff : vocabularyWord.Reads before stretch rest found ↔
    (∃ name ∈ vocabulary, Spells name stretch) ∧ Text.isWordEdge before (stretch ++ rest).head? = true ∧
      Text.isWordEdge (beforeAfter before stretch) rest.head? = true ∧ found = [] := by
  rw [vocabularyWord, reads_wordEdge_cons, reads_sequence_iff]
  simp only [reads_choice_iff, List.mem_map, exists_exists_and_eq_and, reads_anyCase_iff, reads_wordEdge_cons,
    reads_sequence_nil]
  constructor
  · rintro ⟨hedge, head, tail, _, _, rfl, ⟨name, hname, hspells, rfl⟩, ⟨hbehind, rfl, rfl⟩, rfl⟩
    rw [List.append_nil] at hedge ⊢
    exact ⟨⟨name, hname, hspells⟩, hedge, hbehind, rfl⟩
  · rintro ⟨⟨name, hname, hspells⟩, hedge, hbehind, rfl⟩
    exact ⟨hedge, stretch, [], [], [], (List.append_nil _).symm, ⟨name, hname, hspells, rfl⟩, ⟨hbehind, rfl, rfl⟩, rfl⟩

/-- At a character of no word nothing is read. -/
theorem readsNothing_of_not_isWord {c : Char} (hc : Text.isWord c = false) (before : Option Char) (rest : List Char) :
    vocabularyWord.ReadsNothing before (c :: rest) := by
  intro stretch later found hsplit hreads
  obtain ⟨⟨name, hname, hspells⟩, -⟩ := reads_vocabularyWord_iff.mp hreads
  obtain ⟨d, others, rfl⟩ := List.exists_cons_of_ne_nil (hspells.ne_nil hname)
  obtain ⟨rfl, -⟩ := List.cons.inj hsplit
  rw [hspells.isWord hname c List.mem_cons_self] at hc
  cases hc

/-- Inside of a run of word characters nothing is read. -/
theorem readsNothing_inside {c d : Char} (hc : Text.isWord c = true) (hd : Text.isWord d = true) (rest : List Char) :
    vocabularyWord.ReadsNothing (some c) (d :: rest) := by
  intro stretch later found hsplit hreads
  obtain ⟨-, hedge, -⟩ := reads_vocabularyWord_iff.mp hreads
  rw [← hsplit] at hedge
  simp [Text.isWordEdge, hc, hd] at hedge

theorem beforeAfter_isWord {run : List Char} (hne : run ≠ []) (hrun : ∀ c ∈ run, Text.isWord c = true)
    (before : Option Char) : ∃ c, beforeAfter before run = some c ∧ Text.isWord c = true := by
  obtain ⟨others, c, rfl⟩ := (List.eq_nil_or_concat' run).resolve_left hne
  exact ⟨c, by simp [beforeAfter], hrun c (by simp)⟩

/-- A run that does not go on is read as a whole or not at all. -/
theorem eq_run_of_reads {run other later : List Char} (hrun : ∀ c ∈ run, Text.isWord c = true)
    (hrest : ∀ c, rest.head? = some c → Text.isWord c = false) (hsplit : run ++ rest = other ++ later)
    (hreads : vocabularyWord.Reads before other later found) : other = run := by
  obtain ⟨⟨name, hname, hspells⟩, -, hedge, -⟩ := reads_vocabularyWord_iff.mp hreads
  obtain ⟨c, hlast, hc⟩ := beforeAfter_isWord (hspells.ne_nil hname) (hspells.isWord hname) before
  have hlater : ∀ d, later.head? = some d → Text.isWord d = false := by
    intro d hd
    simpa [Text.isWordEdge, hlast, hc, hd] using hedge
  exact (Text.stretch_unique hrun (hspells.isWord hname) hrest hlater hsplit).1.symm

/-- The matches in a source are those of its words that spell a name of the vocabulary. -/
theorem shows_vocabularyWord (source : List Char) :
    ∀ before : Option Char, (∀ c, source.head? = some c → Text.isWord c = true → before.any Text.isWord = false) →
      Shows vocabularyWord Match.text before source ((Text.wordsOf source).filter fun word => (spelt? word).isSome) := by
  induction source using Text.runs_induction with
  | nil => exact fun _ _ => by simpa using Shows.nil
  | cons c rest hc ih =>
    intro before _
    rw [Text.wordsOf_cons hc]
    exact .pass (readsNothing_of_not_isWord hc before rest) (ih (some c) fun _ _ _ => by simpa using hc)
  | append run rest hne hrun hrest ih =>
    intro before hbefore
    have hbehind := ih (beforeAfter before run) fun c hc hword => by simp [hrest c hc] at hword
    rw [Text.wordsOf_run hne hrun hrest, List.filter_cons]
    obtain ⟨c, others, rfl⟩ := List.exists_cons_of_ne_nil hne
    have hstart := hbefore c rfl (hrun c List.mem_cons_self)
    split
    · -- the run spells a name and is read, since words end at both of its ends
      rename_i hspelt
      obtain ⟨name, hspelt⟩ := Option.isSome_iff_exists.mp hspelt
      obtain ⟨d, hlast, hd⟩ := beforeAfter_isWord hne hrun before
      refine .take hne ⟨[], reads_vocabularyWord_iff.mpr ⟨⟨name, spelt?_eq_some.mp hspelt⟩, ?_, ?_, rfl⟩⟩ ?_ hbehind
      · simp [Text.isWordEdge, hstart, hrun c List.mem_cons_self]
      · cases rest with
        | nil => simp [Text.isWordEdge, hlast, hd]
        | cons e rest => simp [Text.isWordEdge, hlast, hd, hrest e rfl]
      · intro other later found hsplit hreads
        obtain rfl := eq_run_of_reads hrun hrest hsplit hreads
        exact ⟨rfl, fun m htells => htells.text⟩
    · -- the run spells no name, and from inside of it nothing is read
      rename_i hspelt
      refine .passAll ?_ hbehind
      intro earlier later hsplit hlater stretch behind found htext hreads
      cases earlier with
      | nil =>
        obtain rfl : c :: others = later := hsplit
        obtain ⟨⟨name, hname⟩, -⟩ := reads_vocabularyWord_iff.mp hreads
        rw [eq_run_of_reads hrun hrest htext hreads] at hname
        exact hspelt (Option.isSome_iff_exists.mpr ⟨name, spelt?_eq_some.mpr hname⟩)
      | cons d earlier =>
        obtain ⟨e, behindHead, rfl⟩ := List.exists_cons_of_ne_nil hlater
        have hinside : ∀ a ∈ d :: earlier, Text.isWord a = true := fun a ha =>
          hrun a (hsplit ▸ List.mem_append_left _ ha)
        obtain ⟨a, hlast, ha⟩ := beforeAfter_isWord (List.cons_ne_nil d earlier) hinside before
        rw [hlast] at hreads
        have he : Text.isWord e = true := hrun e (hsplit ▸ List.mem_append_right _ List.mem_cons_self)
        exact readsNothing_inside ha he _ stretch behind found htext hreads

/-- The words that are looked up are those that spell a name of the vocabulary, in their order. -/
theorem words_eq (source : String) :
    words source = ((Text.wordsOf source.toList).filter fun word => (spelt? word).isSome).mapM canonical := by
  have hfound := (shows_vocabularyWord source.toList none fun _ _ _ => rfl).map_findAll
  rw [words, ← hfound, List.mapM_map]
  rfl

/-- Whether a word spells a name of the vocabulary with one of the three letters. -/
def isAstray (word : List Char) : Bool := (spelt? word).isSome && word.any Text.isStray

theorem isAstray_iff : isAstray word = true ↔ (spelt? word).isSome = true ∧ ¬IsPlain word := by
  simp [isAstray, IsPlain]

/-- Looking up words gives the names that they spell, or fails at the first that spells one with one of the three letters. -/
theorem mapM_canonical (words : List (List Char)) :
    (words.filter fun word => (spelt? word).isSome).mapM canonical =
      match words.find? isAstray with
      | some word => .error (.unknownKey (String.ofList (Text.lower word)))
      | none => .ok (words.filterMap spelt?) := by
  induction words with
  | nil => rfl
  | cons word words ih =>
    cases hspelt : spelt? word with
    | none =>
      have hastray : ¬isAstray word = true := by simp [isAstray, hspelt]
      rw [List.filter_cons_of_neg (by simp [hspelt]), ih, List.find?_cons_of_neg hastray, List.filterMap_cons_none hspelt]
    | some name =>
      obtain ⟨hname, hspells⟩ := spelt?_eq_some.mp hspelt
      rw [List.filter_cons_of_pos (by simp [hspelt]), List.mapM_cons]
      by_cases hplain : IsPlain word
      · have hastray : ¬isAstray word = true := fun h => (isAstray_iff.mp h).2 hplain
        rw [canonical_of_isPlain hspells hname hplain, ih, List.find?_cons_of_neg hastray, List.filterMap_cons_some hspelt]
        cases words.find? isAstray <;> rfl
      · have hastray : isAstray word = true := isAstray_iff.mpr ⟨by simp [hspelt], hplain⟩
        rw [canonical_of_not_isPlain hplain, List.find?_cons_of_pos hastray]
        rfl

/-- The words of a source are the names in it, unless one is spelt with one of the three letters. -/
theorem words_cases (source : String) :
    words source = match (Text.wordsOf source.toList).find? isAstray with
      | some word => .error (.unknownKey (String.ofList (Text.lower word)))
      | none => .ok (namesIn source.toList) := by
  rw [words_eq, mapM_canonical]
  rfl

/-! ## Variables of a source -/

/-- The variables of a source are the names in it or, if there are none, the standard ones. -/
theorem ofSource_cases (source : String) :
    ofSource source = match (Text.wordsOf source.toList).find? isAstray with
      | some word => .error (.unknownKey (String.ofList (Text.lower word)))
      | none => .ok ((Template.firstOccurrences
          (if (namesIn source.toList).isEmpty then standard else namesIn source.toList)).map fun name =>
            (name, label name)) := by
  rw [ofSource, words_cases]
  split
  · rfl
  · rw [← Template.foldl_putNew_label_nil]
    rfl

/-- Variables that are named by a list: its names, each once in the order of first occurrence, or the two standard ones if
it has none, and each with its label. -/
structure IsNamedBy (names : List String) (labels : Bindings) : Prop where
  ne_nil : labels ≠ []
  labelled : labels = labels.names.map fun name => (name, label name)
  listsFirst : names ≠ [] → Template.ListsFirst names labels.names
  standard : names = [] → labels.names = ["title", "description"]

theorem isNamedBy_labelled (names : List String) :
    IsNamedBy names ((Template.firstOccurrences (if names.isEmpty then standard else names)).map fun name =>
      (name, label name)) := by
  cases names with
  | nil => exact ⟨by decide, by rw [Template.names_labelled], nofun, fun _ => by decide⟩
  | cons name names =>
    have hlists := Template.listsFirst_firstOccurrences (name :: names)
    have hmem : name ∈ Template.firstOccurrences (name :: names) := (hlists.mem_iff name).mpr List.mem_cons_self
    refine ⟨?_, by rw [Template.names_labelled], fun _ => by rw [Template.names_labelled]; exact hlists, nofun⟩
    rw [ne_eq, List.map_eq_nil_iff]
    exact List.ne_nil_of_mem hmem

/-- Whether a source has variables at all is a matter of its words alone: it has, unless one of them spells a name of the
vocabulary with one of three letters outside ASCII, and the first such word is what the failure tells. The variables are
never none: they are named by the words of the source that spell a name in any letter case. A missing source counts as an
empty one. -/
theorem variables_of_words (source : Option String) :
    ((∃ labels, ofSource (source.getD "") = .ok labels) ↔
      ∀ word ∈ Text.wordsOf (source.getD "").toList, (∃ name ∈ vocabulary, Spells name word) → IsPlain word) ∧
    (∀ labels, ofSource (source.getD "") = .ok labels → IsNamedBy (namesIn (source.getD "").toList) labels) ∧
    ∀ failure, ofSource (source.getD "") = .error failure →
      ∃ earlier word later, Text.wordsOf (source.getD "").toList = earlier ++ word :: later ∧
        (∃ name ∈ vocabulary, Spells name word) ∧ ¬IsPlain word ∧
        (∀ other ∈ earlier, (∃ name ∈ vocabulary, Spells name other) → IsPlain other) ∧
        failure = .unknownKey (String.ofList (Text.lower word)) := by
  generalize source.getD "" = text
  have hastray : ∀ word, ¬isAstray word = true ↔ ((∃ name ∈ vocabulary, Spells name word) → IsPlain word) := by
    intro word
    simp only [isAstray_iff, Option.isSome_iff_exists, spelt?_eq_some, not_and_not_right]
  have hcases := ofSource_cases text
  -- the first word that goes astray decides, if there is any
  cases hfirst : (Text.wordsOf text.toList).find? isAstray with
  | none =>
    rw [hfirst] at hcases
    rw [hcases]
    refine ⟨⟨fun _ word hword => (hastray word).mp (List.find?_eq_none.mp hfirst word hword), fun _ => ⟨_, rfl⟩⟩, ?_, nofun⟩
    rintro labels hlabels
    obtain rfl := Except.ok.inj hlabels
    exact isNamedBy_labelled _
  | some word =>
    rw [hfirst] at hcases
    obtain ⟨hword, earlier, later, hsplit, hearlier⟩ := List.find?_eq_some_iff_append.mp hfirst
    rw [hcases]
    refine ⟨⟨nofun, fun hall => ?_⟩, nofun, ?_⟩
    · exact absurd hword ((hastray word).mpr (hall word (hsplit ▸ List.mem_append_right _ List.mem_cons_self)))
    · rintro failure hfailure
      obtain rfl := Except.error.inj hfailure
      obtain ⟨hname, hplain⟩ := Classical.not_imp.mp ((not_congr (hastray word)).mp (not_not_intro hword))
      refine ⟨earlier, word, later, hsplit, hname, hplain, fun other hother => (hastray other).mp ?_, rfl⟩
      simpa using hearlier other hother

/-- A title that is spelt with a dotless i is a whole word in another letter case, and has no entry. -/
theorem not_variables_of_every_source :
    ¬∀ source, ∃ labels, ofSource source = .ok labels ∧ IsNamedBy (namesIn source.toList) labels := by
  intro h
  obtain ⟨labels, hlabels, -⟩ := h "t\u0131tle"
  have hfails : ofSource "t\u0131tle" = .error (.unknownKey "t\u0131tle") := by
    rw [ofSource_cases]
    decide
  rw [hfails] at hlabels
  cases hlabels

end Variables

end Showcase
