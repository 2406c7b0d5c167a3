import Mathlib.Data.List.DropRight
import Mathlib.Data.List.TakeWhile
import Showcase.Text.Basic

/-!
# Splitting texts

A text is cut at the first occurrence of a character, or split at all of them; joined again, its pieces are the text.
What stands after an occurrence is split on its own. Lower case goes character by character, but for letters outside
ASCII, and leaves the end of a text where it is.
-/

namespace Showcase.Text

/-- The characters of a text that is written out. -/
theorem toList_of_eq {s : String} {chars : List Char} (h : s = String.ofList chars) : s.toList = chars := by
  rw [h, String.toList_ofList]

theorem not_mem_of_eq {c : Char} {s : String} {chars : List Char} (h : s = String.ofList chars)
    (hc : chars.contains c = false) : c ∉ s.toList := by
  rw [toList_of_eq h]
  simpa using hc

/-- What can be decided of each character of a text holds of all of them. -/
theorem forall_mem_of_all {p : Char → Prop} [DecidablePred p] {s : List Char} (h : s.all (fun c => decide (p c)) = true) :
    ∀ c ∈ s, p c := by
  intro c hc
  exact of_decide_eq_true (List.all_eq_true.mp h c hc)

theorem toNat_le_of_le {c d : Char} (h : c ≤ d) : c.toNat ≤ d.toNat := UInt32.le_iff_toNat_le.mp (Char.le_def.mp h)

/-- What holds of all characters of ASCII, by their code points. -/
theorem of_ascii {p : Char → Prop} (h : ∀ n < 128, p (Char.ofNat n)) {c : Char} (hc : c.toNat < 128) : p c := by
  have hn := h c.toNat hc
  rwa [Char.ofNat_toNat] at hn

variable {separator : Char}

/-! ## Pieces -/

theorem splitAtChar_ne_nil (separator : Char) (s : List Char) : splitAtChar separator s ≠ [] := by
  cases s with
  | nil => simp [splitAtChar]
  | cons c rest =>
    simp only [splitAtChar]
    split
    · simp
    · split <;> simp

/-- A character that is no separator is put before the first piece. -/
theorem splitAtChar_cons_of_ne {c : Char} (hc : c ≠ separator) (rest : List Char) :
    ∃ piece pieces, splitAtChar separator rest = piece :: pieces ∧
      splitAtChar separator (c :: rest) = (c :: piece) :: pieces := by
  rcases hpieces : splitAtChar separator rest with _ | ⟨piece, pieces⟩
  · exact absurd hpieces (splitAtChar_ne_nil separator rest)
  · exact ⟨piece, pieces, rfl, by simp [splitAtChar, hc, hpieces]⟩

theorem splitAtChar_cons_self (separator : Char) (rest : List Char) :
    splitAtChar separator (separator :: rest) = [] :: splitAtChar separator rest := by
  simp [splitAtChar]

theorem length_splitAtChar (separator : Char) (s : List Char) :
    (splitAtChar separator s).length = s.count separator + 1 := by
  induction s with
  | nil => rfl
  | cons c rest ih =>
    by_cases hc : c = separator
    · subst hc
      rw [splitAtChar_cons_self, List.length_cons, ih, List.count_cons_self]
    · obtain ⟨piece, pieces, hrest, hsplit⟩ := splitAtChar_cons_of_ne hc rest
      rw [hrest] at ih
      rw [hsplit, List.count_cons_of_ne hc, ← ih]
      rfl

/-- What stands before and after a separator is split on its own. -/
theorem splitAtChar_append (separator : Char) (s t : List Char) :
    splitAtChar separator (s ++ separator :: t) = splitAtChar separator s ++ splitAtChar separator t := by
  induction s with
  | nil => exact splitAtChar_cons_self separator t
  | cons c rest ih =>
    by_cases hc : c = separator
    · subst hc
      rw [List.cons_append, splitAtChar_cons_self, splitAtChar_cons_self, ih, List.cons_append]
    · obtain ⟨piece, pieces, hrest, hsplit⟩ := splitAtChar_cons_of_ne hc rest
      obtain ⟨piece', pieces', hrest', hsplit'⟩ := splitAtChar_cons_of_ne hc (rest ++ separator :: t)
      rw [ih, hrest, List.cons_append] at hrest'
      cases hrest'
      rw [List.cons_append, hsplit', hsplit, List.cons_append]

theorem intercalate_cons_of_ne_nil {piece : List Char} {pieces : List (List Char)} (hpieces : pieces ≠ []) :
    List.intercalate [separator] (piece :: pieces) = piece ++ separator :: List.intercalate [separator] pieces := by
  rcases pieces with _ | ⟨next, others⟩
  · exact absurd rfl hpieces
  · simp [List.intercalate_cons_cons]

/-- Pieces that are joined are the text. -/
theorem intercalate_splitAtChar (separator : Char) (s : List Char) :
    List.intercalate [separator] (splitAtChar separator s) = s := by
  induction s with
  | nil => simp [splitAtChar]
  | cons c rest ih =>
    by_cases hc : c = separator
    · subst hc
      rw [splitAtChar_cons_self, intercalate_cons_of_ne_nil (splitAtChar_ne_nil c rest), ih, List.nil_append]
    · obtain ⟨piece, pieces, hrest, hsplit⟩ := splitAtChar_cons_of_ne hc rest
      rw [hrest] at ih
      rw [hsplit, ← ih]
      rcases pieces with _ | ⟨next, others⟩ <;> simp [List.intercalate_cons_cons]

/-- Two runs of pieces are joined by a separator. -/
theorem intercalate_append {first second : List (List Char)} (hfirst : first ≠ []) (hsecond : second ≠ []) :
    List.intercalate [separator] (first ++ second) =
      List.intercalate [separator] first ++ separator :: List.intercalate [separator] second := by
  induction first with
  | nil => exact absurd rfl hfirst
  | cons piece pieces ih =>
    by_cases hpieces : pieces = []
    · subst hpieces
      rw [List.singleton_append, intercalate_cons_of_ne_nil hsecond, List.intercalate_singleton]
    · rw [List.cons_append, intercalate_cons_of_ne_nil (by simp [hpieces]), ih hpieces,
        intercalate_cons_of_ne_nil hpieces, List.append_assoc, List.cons_append]

/-- A character of joined pieces is the separator or a character of a piece. -/
theorem mem_intercalate {c : Char} {pieces : List (List Char)} (hc : c ∈ List.intercalate [separator] pieces) :
    c = separator ∨ ∃ piece ∈ pieces, c ∈ piece := by
  induction pieces with
  | nil => cases hc
  | cons piece others ih =>
    by_cases hothers : others = []
    · subst hothers
      rw [List.intercalate_singleton] at hc
      exact .inr ⟨piece, List.mem_cons_self, hc⟩
    · rw [intercalate_cons_of_ne_nil hothers, List.mem_append, List.mem_cons] at hc
      rcases hc with hpiece | rfl | hlater
      · exact .inr ⟨piece, List.mem_cons_self, hpiece⟩
      · exact .inl rfl
      · rcases ih hlater with hsame | ⟨other, hother, hin⟩
        · exact .inl hsame
        · exact .inr ⟨other, List.mem_cons_of_mem piece hother, hin⟩

/-- Behind the first piece every other one follows a separator. -/
theorem intercalate_cons (separator : Char) (first : List Char) (others : List (List Char)) :
    List.intercalate [separator] (first :: others) = first ++ others.flatMap (separator :: ·) := by
  induction others generalizing first with
  | nil => rw [List.intercalate_singleton, List.flatMap_nil, List.append_nil]
  | cons next others ih =>
    rw [intercalate_cons_of_ne_nil (List.cons_ne_nil _ _), ih, List.flatMap_cons, List.cons_append]

theorem map_intercalate (f : Char → Char) (separator : Char) (pieces : List (List Char)) :
    (List.intercalate [separator] pieces).map f = List.intercalate [f separator] (pieces.map (List.map f)) := by
  cases pieces with
  | nil => rfl
  | cons first others =>
    rw [intercalate_cons, List.map_append, List.map_flatMap, List.map_cons, intercalate_cons, List.flatMap_map]
    rfl

/-- Joined pieces, none of them empty, begin like a piece. -/
theorem head?_intercalate {pieces : List (List Char)} (hpieces : ∀ piece ∈ pieces, piece ≠ []) {c : Char}
    (hc : (List.intercalate [separator] pieces).head? = some c) : ∃ piece ∈ pieces, piece.head? = some c := by
  cases pieces with
  | nil => simp at hc
  | cons first others =>
    rw [intercalate_cons, List.head?_append_of_ne_nil _ (hpieces first List.mem_cons_self)] at hc
    exact ⟨first, List.mem_cons_self, hc⟩

/-- Joined pieces, none of them empty, end like a piece. -/
theorem getLast?_intercalate {pieces : List (List Char)} (hpieces : ∀ piece ∈ pieces, piece ≠ []) {c : Char}
    (hc : (List.intercalate [separator] pieces).getLast? = some c) : ∃ piece ∈ pieces, piece.getLast? = some c := by
  induction pieces with
  | nil => simp at hc
  | cons first others ih =>
    obtain ⟨-, hothers⟩ := List.forall_mem_cons.mp hpieces
    cases others with
    | nil =>
      rw [List.intercalate_singleton] at hc
      exact ⟨first, List.mem_cons_self, hc⟩
    | cons next others =>
      have hfilled : List.intercalate [separator] (next :: others) ≠ [] := by
        rw [intercalate_cons]
        simp [hothers next List.mem_cons_self]
      rw [List.intercalate_cons_cons, List.getLast?_append_of_ne_nil _ hfilled] at hc
      obtain ⟨piece, hpiece, hlast⟩ := ih hothers hc
      exact ⟨piece, List.mem_cons_of_mem first hpiece, hlast⟩

/-- The characters of the pieces are those of the text. -/
theorem mem_of_mem_piece {c : Char} {piece s : List Char} (hpiece : piece ∈ splitAtChar separator s) (hc : c ∈ piece) :
    c ∈ s := by
  rw [← intercalate_splitAtChar separator s]
  generalize splitAtChar separator s = pieces at hpiece
  induction pieces with
  | nil => cases hpiece
  | cons first others ih =>
    by_cases hothers : others = []
    · subst hothers
      rw [List.mem_singleton.mp hpiece] at hc
      simpa using hc
    · rw [intercalate_cons_of_ne_nil hothers]
      rcases List.mem_cons.mp hpiece with rfl | hlater
      · exact List.mem_append_left _ hc
      · exact List.mem_append_right _ (List.mem_cons_of_mem _ (ih hlater))

/-- A text without the separator is one piece. -/
theorem splitAtChar_of_not_mem {s : List Char} (hs : separator ∉ s) : splitAtChar separator s = [s] := by
  induction s with
  | nil => rfl
  | cons c rest ih =>
    rw [List.mem_cons, not_or] at hs
    obtain ⟨piece, pieces, hrest, hcons⟩ := splitAtChar_cons_of_ne (Ne.symm hs.1) rest
    rw [ih hs.2] at hrest
    cases hrest
    exact hcons

/-- No piece holds the separator. -/
theorem not_mem_piece {piece s : List Char} (hpiece : piece ∈ splitAtChar separator s) : separator ∉ piece := by
  induction s generalizing piece with
  | nil => simp_all [splitAtChar]
  | cons c rest ih =>
    by_cases hc : c = separator
    · subst hc
      rw [splitAtChar_cons_self] at hpiece
      rcases List.mem_cons.mp hpiece with rfl | hlater
      · exact List.not_mem_nil
      · exact ih hlater
    · obtain ⟨first, others, hsplit, hcons⟩ := splitAtChar_cons_of_ne hc rest
      rw [hcons] at hpiece
      rw [hsplit] at ih
      rcases List.mem_cons.mp hpiece with rfl | hlater
      · rw [List.mem_cons, not_or]
        exact ⟨Ne.symm hc, ih List.mem_cons_self⟩
      · exact ih (List.mem_cons_of_mem first hlater)

/-- Pieces without the separator that are joined are split again. -/
theorem splitAtChar_intercalate {pieces : List (List Char)} (hpieces : pieces ≠ [])
    (hnone : ∀ piece ∈ pieces, separator ∉ piece) :
    splitAtChar separator (List.intercalate [separator] pieces) = pieces := by
  induction pieces with
  | nil => exact absurd rfl hpieces
  | cons piece others ih =>
    have hpiece := splitAtChar_of_not_mem (hnone piece List.mem_cons_self)
    by_cases hothers : others = []
    · subst hothers
      rw [List.intercalate_singleton, hpiece]
    · rw [intercalate_cons_of_ne_nil hothers, splitAtChar_append, hpiece,
        ih hothers fun other hother => hnone other (List.mem_cons_of_mem piece hother), List.singleton_append]

/-- Every character of a text is a separator or stands in a piece. -/
theorem mem_splitAtChar (separator : Char) {c : Char} {s : List Char} (hc : c ∈ s) :
    c = separator ∨ ∃ piece ∈ splitAtChar separator s, c ∈ piece := by
  induction s with
  | nil => cases hc
  | cons first rest ih =>
    by_cases hfirst : first = separator
    · subst hfirst
      rw [splitAtChar_cons_self]
      rcases List.mem_cons.mp hc with rfl | hrest
      · exact .inl rfl
      · rcases ih hrest with hsame | ⟨piece, hpiece, hin⟩
        · exact .inl hsame
        · exact .inr ⟨piece, List.mem_cons_of_mem _ hpiece, hin⟩
    · obtain ⟨piece, pieces, hsplit, hcons⟩ := splitAtChar_cons_of_ne hfirst rest
      rw [hcons]
      rcases List.mem_cons.mp hc with rfl | hrest
      · exact .inr ⟨c :: piece, List.mem_cons_self, List.mem_cons_self⟩
      · rcases ih hrest with hsame | ⟨other, hother, hin⟩
        · exact .inl hsame
        · rw [hsplit] at hother
          rcases List.mem_cons.mp hother with rfl | hlater
          · exact .inr ⟨first :: other, List.mem_cons_self, List.mem_cons_of_mem _ hin⟩
          · exact .inr ⟨other, List.mem_cons_of_mem _ hlater, hin⟩

/-! ## Cuts -/

theorem cutAtFirst_fst (separator : Char) (s : List Char) :
    (cutAtFirst separator s).1 = s.takeWhile (· != separator) := by
  unfold cutAtFirst
  split
  · rename_i hrest
    have hall := List.takeWhile_append_dropWhile (p := (· != separator)) (l := s)
    rw [hrest, List.append_nil] at hall
    exact hall.symm
  · rfl

/-- What passes before a character that does not pass ends there at the latest. -/
theorem takeWhile_append_cons {passes : Char → Bool} {stop : Char} (hstop : passes stop = false) (s t : List Char) :
    (s ++ stop :: t).takeWhile passes = s.takeWhile passes ∧
      (s ++ stop :: t).dropWhile passes = s.dropWhile passes ++ stop :: t := by
  induction s with
  | nil => simp [hstop]
  | cons c rest ih =>
    cases hc : passes c with
    | true => simp [hc, ih]
    | false => simp [hc]

/-- What passes ends at the first character that does not pass. -/
theorem takeWhile_append_stop {passes : Char → Bool} {stop : Char} (hstop : passes stop = false) {s : List Char}
    (hs : ∀ c ∈ s, passes c = true) (t : List Char) :
    (s ++ stop :: t).takeWhile passes = s ∧ (s ++ stop :: t).dropWhile passes = stop :: t := by
  have hends := takeWhile_append_cons hstop s t
  rwa [List.takeWhile_eq_self_iff.mpr hs, List.dropWhile_eq_nil_iff.mpr hs, List.nil_append] at hends

/-- A text without the character is not cut. -/
theorem cutAtFirst_of_not_mem {s : List Char} (hs : separator ∉ s) : cutAtFirst separator s = (s, none) := by
  have hrest : s.dropWhile (· != separator) = [] := by
    rw [List.dropWhile_eq_nil_iff]
    intro c hc
    simp only [bne_iff_ne, ne_eq]
    rintro rfl
    exact hs hc
  simp [cutAtFirst, hrest]

theorem cutAtFirst_append {before : List Char} (hbefore : separator ∉ before) (after : List Char) :
    cutAtFirst separator (before ++ separator :: after) = (before, some after) := by
  have hpass : ∀ c ∈ before, (c != separator) = true := by
    intro c hc
    simp only [bne_iff_ne, ne_eq]
    rintro rfl
    exact hbefore hc
  have hrest : (before ++ separator :: after).dropWhile (· != separator) = separator :: after := by
    rw [List.dropWhile_append_of_pos hpass]
    simp
  have htaken : (before ++ separator :: after).takeWhile (· != separator) = before := by
    rw [List.takeWhile_append_of_pos hpass]
    simp
  simp only [cutAtFirst, hrest, htaken]

/-- A text with the character is cut at its first occurrence. -/
theorem cutAtFirst_of_mem {s : List Char} (hs : separator ∈ s) :
    ∃ before after, separator ∉ before ∧ s = before ++ separator :: after ∧
      cutAtFirst separator s = (before, some after) := by
  obtain ⟨before, after, hsplit, hbefore⟩ := List.eq_append_cons_of_mem hs
  exact ⟨before, after, hbefore, hsplit, hsplit ▸ cutAtFirst_append hbefore after⟩

theorem cutAtFirst_eq_none {s : List Char} : (cutAtFirst separator s).2 = none ↔ separator ∉ s := by
  constructor
  · intro hnone hmem
    obtain ⟨before, after, -, -, hcut⟩ := cutAtFirst_of_mem hmem
    rw [hcut] at hnone
    cases hnone
  · intro hmem
    rw [cutAtFirst_of_not_mem hmem]

/-- A text with the character has a last occurrence of it. -/
theorem exists_last_of_mem {s : List Char} (hs : separator ∈ s) :
    ∃ before after, s = before ++ separator :: after ∧ separator ∉ after := by
  obtain ⟨before, after, hsplit, hbefore⟩ := List.eq_append_cons_of_mem (List.mem_reverse.mpr hs)
  refine ⟨after.reverse, before.reverse, ?_, fun hafter => hbefore (List.mem_reverse.mp hafter)⟩
  rw [← List.reverse_reverse s, hsplit]
  simp

/-- What stands after the last occurrence of a character is part of the text. -/
theorem mem_of_mem_afterLast {c : Char} {s : List Char} (hc : c ∈ afterLast separator s) : c ∈ s := by
  rw [afterLast, List.mem_reverse] at hc
  exact List.mem_reverse.mp ((List.takeWhile_sublist _).subset hc)

/-- What stands after the last occurrence of a character is the whole text if it does not occur. -/
theorem afterLast_of_not_mem {s : List Char} (hs : separator ∉ s) :
    afterLast separator s = s := by
  have hpass : ∀ c ∈ s.reverse, (c != separator) = true := by
    intro c hc
    simp only [bne_iff_ne, ne_eq]
    rintro rfl
    exact hs (List.mem_reverse.mp hc)
  rw [afterLast, List.takeWhile_eq_self_iff.mpr hpass, List.reverse_reverse]

/-- What stands after the last occurrence is found after every occurrence. -/
theorem afterLast_append (s t : List Char) : afterLast separator (s ++ separator :: t) = afterLast separator t := by
  have hreverse : (s ++ separator :: t).reverse = t.reverse ++ separator :: s.reverse := by
    simp
  rw [afterLast, hreverse, (takeWhile_append_cons (by simp) t.reverse s.reverse).1, afterLast]

/-! ## Ends -/

/-- A text that neither begins nor ends with a character that would be stripped is left as it is. -/
theorem stripWhile_eq_self {drops : Char → Bool} {s : List Char} (hhead : ∀ c, s.head? = some c → drops c = false)
    (hlast : ∀ c, s.getLast? = some c → drops c = false) : stripWhile drops s = s := by
  have hkept : ∀ {t : List Char}, (∀ c, t.head? = some c → drops c = false) → t.dropWhile drops = t := by
    intro t ht
    cases t with
    | nil => rfl
    | cons c rest => rw [List.dropWhile_cons, ht c rfl, if_neg Bool.false_ne_true]
  rw [stripWhile, hkept hhead, hkept fun c hc => hlast c (by rwa [← List.head?_reverse]), List.reverse_reverse]

theorem dropWhile_stripWhile (drops : Char → Bool) (s : List Char) :
    (stripWhile drops s).dropWhile drops = stripWhile drops s := by
  -- what is stripped at both ends begins like what is stripped at the beginning only
  have hbefore : stripWhile drops s <+: s.dropWhile drops := List.rdropWhile_prefix drops _
  cases hstripped : stripWhile drops s with
  | nil => rfl
  | cons c rest =>
    rcases hstripped ▸ hbefore with ⟨later, hlater⟩
    have hkept := List.head?_dropWhile_not drops s
    rw [← hlater] at hkept
    rw [List.dropWhile_cons, if_neg (by simpa using hkept)]

theorem stripWhile_idem (drops : Char → Bool) (s : List Char) :
    stripWhile drops (stripWhile drops s) = stripWhile drops s := by
  conv_lhs => rw [stripWhile, dropWhile_stripWhile]
  rw [stripWhile, List.reverse_reverse, List.dropWhile_idempotent]

/-- What is left of a text does not begin with what is stripped. -/
theorem head?_stripWhile {drops : Char → Bool} {s : List Char} {c : Char} (hc : (stripWhile drops s).head? = some c) :
    drops c = false := by
  have hhead := List.head?_dropWhile_not drops (stripWhile drops s)
  rw [dropWhile_stripWhile, hc] at hhead
  simpa using hhead

/-- What is left of a text does not end with what is stripped. -/
theorem getLast?_stripWhile {drops : Char → Bool} {s : List Char} {c : Char}
    (hc : (stripWhile drops s).getLast? = some c) : drops c = false := by
  have hhead := List.head?_dropWhile_not drops (s.dropWhile drops).reverse
  rw [stripWhile, List.getLast?_reverse] at hc
  rw [hc] at hhead
  simpa using hhead

/-- A text without blanks is left as it is. -/
theorem trim_eq_self {s : List Char} (hs : ∀ c ∈ s, isBlank c = false) : trim s = s :=
  stripWhile_eq_self (fun c hc => hs c (List.mem_of_head? hc)) fun c hc => hs c (List.mem_of_getLast? hc)

/-! ## Parts that occur -/

/-- A part that has a slash at each end and none between them is found on one side of every slash: it ends there, or it
begins there or later. -/
theorem occursIn_append_slash {word : List Char} (hword : '/' ∉ word) (s t : List Char) :
    occursIn ('/' :: (word ++ ['/'])) (s ++ '/' :: t) =
      (occursIn ('/' :: (word ++ ['/'])) (s ++ ['/']) || occursIn ('/' :: (word ++ ['/'])) ('/' :: t)) := by
  induction s with
  | nil =>
    have hshort : occursIn ('/' :: (word ++ ['/'])) ['/'] = false := by
      cases word <;> simp [occursIn, List.isPrefixOf]
    rw [List.nil_append, List.nil_append, hshort, Bool.false_or]
  | cons c rest ih =>
    -- a part that begins before the slash has its second slash there at the latest
    have hbegins : ('/' :: (word ++ ['/'])).isPrefixOf (c :: (rest ++ '/' :: t)) =
        ('/' :: (word ++ ['/'])).isPrefixOf (c :: (rest ++ ['/'])) := by
      rw [Bool.eq_iff_iff, List.isPrefixOf_iff_prefix, List.isPrefixOf_iff_prefix, List.cons_prefix_cons,
        List.cons_prefix_cons, and_congr_right_iff]
      rintro -
      have hlonger : rest ++ ['/'] <+: rest ++ '/' :: t := ⟨t, by simp⟩
      constructor
      · intro hprefix
        rcases List.prefix_or_prefix_of_prefix hprefix hlonger with hfits | hfits
        · exact hfits
        · rcases List.prefix_concat_iff.mp hfits with heq | hinside
          · exact heq ▸ List.prefix_refl _
          · exact absurd (hinside.subset (List.mem_append_right _ (List.mem_singleton.mpr rfl))) hword
      · intro hprefix
        exact hprefix.trans hlonger
    rw [List.cons_append, List.cons_append, occursIn, occursIn, hbegins, ih, Bool.or_assoc]

/-! ## Lower case -/

/-- Without a capital sigma and a dotted capital I characters become small one by one. -/
theorem lowerAfter_eq_map {s : List Char} (hs : ∀ c ∈ s, c.toNat ≠ 0x3A3 ∧ c.toNat ≠ 0x130) (before : List Char) :
    lowerAfter before s = s.map lowerChar := by
  induction s generalizing before with
  | nil => rfl
  | cons c rest ih =>
    obtain ⟨hsigma, hdotted⟩ := hs c List.mem_cons_self
    rw [lowerAfter, if_neg (by simpa using hsigma), if_neg (by simpa using hdotted),
      ih fun d hd => hs d (List.mem_cons_of_mem c hd)]
    rfl

theorem lower_eq_map {s : List Char} (hs : ∀ c ∈ s, c.toNat ≠ 0x3A3 ∧ c.toNat ≠ 0x130) : lower s = s.map lowerChar :=
  lowerAfter_eq_map hs []

/-- A character of ASCII that is no capital is its own lower case. -/
theorem lowerChar_of_small {c : Char} (h : c.toNat < 128 ∧ isCapital c = false) : lowerChar c = c := by
  simp [lowerChar, h.1, h.2]

theorem lowerAfter_of_small {s : List Char} (hs : ∀ c ∈ s, c.toNat < 128 ∧ isCapital c = false) (before : List Char) :
    lowerAfter before s = s := by
  have hcommon : ∀ c ∈ s, c.toNat ≠ 0x3A3 ∧ c.toNat ≠ 0x130 := by
    intro c hc
    have hascii := (hs c hc).1
    omega
  rw [lowerAfter_eq_map hcommon, List.map_congr_left fun c hc => lowerChar_of_small (hs c hc), List.map_id']

theorem lower_of_small {s : List Char} (hs : ∀ c ∈ s, c.toNat < 128 ∧ isCapital c = false) : lower s = s :=
  lowerAfter_of_small hs []

theorem lower_ne_nil {s : List Char} (hs : s ≠ []) : lower s ≠ [] := by
  cases s with
  | nil => exact absurd rfl hs
  | cons c rest =>
    simp only [lower, lowerAfter]
    split
    · simp
    · split <;> simp

theorem exists_lowerAfter_append {t : List Char} (ht : ∀ c ∈ t, c.toNat < 128 ∧ isCapital c = false)
    (before s : List Char) : ∃ u, lowerAfter before (s ++ t) = u ++ t := by
  induction s generalizing before with
  | nil => exact ⟨[], lowerAfter_of_small ht before⟩
  | cons first rest ih =>
    obtain ⟨u, hu⟩ := ih (first :: before)
    rw [List.cons_append, lowerAfter, hu]
    exact ⟨_, (List.append_assoc _ u t).symm⟩

/-- Characters of ASCII that are no capitals stay at the end. -/
theorem exists_lower_append {t : List Char} (ht : ∀ c ∈ t, c.toNat < 128 ∧ isCapital c = false) (s : List Char) :
    ∃ u, lower (s ++ t) = u ++ t := exists_lowerAfter_append ht [] s

end Showcase.Text
