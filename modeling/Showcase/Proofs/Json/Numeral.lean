import Showcase.Json.Reader
import Showcase.Proofs.Text.Stretch

/-!
# Numerals and words

The scalars of a JSON text, as they are written. A numeral has a whole part, which is zero or begins with another digit, and
may have a fraction and an exponent; without both it is a whole number, and has 4300 digits at most. The words are those of
the standard and three for numbers that are not finite. The reader finds such a scalar wherever one stands that does not go
on, and nothing else.
-/

namespace Showcase.Json

open Text (isDigit decimalNumber)

theorem toNat_of_isDigit {c : Char} (hdigit : isDigit c = true) : 48 ≤ c.toNat ∧ c.toNat ≤ 57 := by
  simpa [isDigit, Char.le_def, UInt32.le_iff_toNat_le] using hdigit

/-! ## Numerals as they are written -/

/-- Digits, one at least. -/
def IsDigits (s : List Char) : Prop := s ≠ [] ∧ ∀ c ∈ s, isDigit c = true

/-- The whole part of a numeral: zero, or digits that do not begin with zero. -/
inductive IsWhole : List Char → Prop where
  | zero : IsWhole ['0']
  | digits {c : Char} {others : List Char} (hfirst : c ≠ '0') (hdigits : ∀ d ∈ c :: others, isDigit d = true) :
    IsWhole (c :: others)

/-- A fraction and its digits. -/
inductive SpellsFraction : List Char → List Char → Prop where
  | none : SpellsFraction [] []
  | point {digits : List Char} (hdigits : IsDigits digits) : SpellsFraction ('.' :: digits) digits

/-- The sign of an exponent, and whether it is negative. -/
inductive SpellsSign : List Char → Bool → Prop where
  | none : SpellsSign [] false
  | plus : SpellsSign ['+'] false
  | minus : SpellsSign ['-'] true

/-- A number with its sign. -/
def withSign (negative : Bool) (size : Nat) : Int := if negative then -size else size

/-- An exponent and its value. -/
inductive SpellsExponent : List Char → Int → Prop where
  | none : SpellsExponent [] 0
  | power {mark : Char} {sign digits : List Char} {negative : Bool} (hmark : mark = 'e' ∨ mark = 'E')
    (hsign : SpellsSign sign negative) (hdigits : IsDigits digits) :
    SpellsExponent (mark :: (sign ++ digits)) (withSign negative (decimalNumber digits))

/-- A numeral without its sign, and its value with the sign. -/
inductive SpellsNumber (negative : Bool) : List Char → Json → Prop where
  | whole {whole : List Char} (hwhole : IsWhole whole) (hlength : whole.length ≤ 4300) :
    SpellsNumber negative whole (.int (withSign negative (decimalNumber whole)))
  | decimal {whole fraction digits exponent : List Char} {power : Int} (hwhole : IsWhole whole)
    (hfraction : SpellsFraction fraction digits) (hexponent : SpellsExponent exponent power)
    (hparts : fraction ≠ [] ∨ exponent ≠ []) :
    SpellsNumber negative (whole ++ (fraction ++ exponent))
      (.decimal (.finite negative (decimalNumber (whole ++ digits)) (power - digits.length)))

/-- A value that is a word or a number. -/
inductive SpellsScalar : List Char → Json → Prop where
  | null : SpellsScalar "null".toList .null
  | bool (b : Bool) : SpellsScalar (if b then "true" else "false").toList (.bool b)
  | notANumber : SpellsScalar "NaN".toList (.decimal .notANumber)
  | infinite (negative : Bool) :
    SpellsScalar (if negative then "-Infinity" else "Infinity").toList (.decimal (.infinite negative))
  | number {text : List Char} {value : Json} (h : SpellsNumber false text value) : SpellsScalar text value
  | negativeNumber {text : List Char} {value : Json} (h : SpellsNumber true text value) : SpellsScalar ('-' :: text) value

theorem SpellsScalar.ne_obj {text : List Char} {value : Json} (h : SpellsScalar text value)
    (members : List (JsonString × Json)) : value ≠ .obj members := by
  cases h with
  | null | bool | notANumber | infinite => exact nofun
  | number h | negativeNumber h => cases h <;> exact nofun

/-! ## What the reader finds -/

section

variable {text rest : List Char}

theorem of_takeWhole {whole : List Char} (h : takeWhole text = some (whole, rest)) :
    IsWhole whole ∧ text = whole ++ rest := by
  unfold takeWhole at h
  split at h
  · cases h
    exact ⟨.zero, rfl⟩
  · rename_i c others hfirst
    split at h
    · rename_i hdigit
      obtain ⟨rfl, rfl⟩ := Prod.mk.inj (Option.some.inj h)
      refine ⟨?_, List.takeWhile_append_dropWhile.symm⟩
      have hall : ∀ d ∈ (c :: others).takeWhile isDigit, isDigit d = true := fun d hd => List.mem_takeWhile_imp hd
      rw [List.takeWhile_cons_of_pos hdigit] at hall ⊢
      exact .digits hfirst hall
    · cases h
  · cases h

theorem of_takeFraction {digits : List Char} (h : takeFraction text = (digits, rest)) :
    ∃ fraction, SpellsFraction fraction digits ∧ text = fraction ++ rest := by
  unfold takeFraction at h
  split at h
  · rename_i later
    split at h
    · cases h
      exact ⟨[], .none, rfl⟩
    · rename_i hdigits
      obtain ⟨rfl, rfl⟩ := Prod.mk.inj h
      refine ⟨'.' :: later.takeWhile isDigit, .point ⟨?_, fun c hc => List.mem_takeWhile_imp hc⟩, ?_⟩
      · simpa [takeDigits] using hdigits
      · rw [List.cons_append, List.takeWhile_append_dropWhile]
  · cases h
    exact ⟨[], .none, rfl⟩

theorem of_takeExponent {power : Int} (h : takeExponent text = some (power, rest)) :
    ∃ exponent, exponent ≠ [] ∧ SpellsExponent exponent power ∧ text = exponent ++ rest := by
  unfold takeExponent at h
  split at h
  · rename_i mark later
    split at h
    · rename_i hmark
      have hletter : mark = 'e' ∨ mark = 'E' := by simpa using hmark
      split at h
      rename_i negative digits hread
      -- the digits stand behind a sign, if there is one
      obtain ⟨sign, hsign, rfl⟩ : ∃ sign, SpellsSign sign negative ∧ later = sign ++ digits := by
        split at hread <;> cases hread
        · exact ⟨['-'], .minus, rfl⟩
        · exact ⟨['+'], .plus, rfl⟩
        · exact ⟨[], .none, rfl⟩
      dsimp only at h
      split at h
      · cases h
      · rename_i hdigits
        obtain ⟨rfl, rfl⟩ := Prod.mk.inj (Option.some.inj h)
        refine ⟨mark :: (sign ++ digits.takeWhile isDigit), List.cons_ne_nil _ _,
          .power hletter hsign ⟨?_, fun c hc => List.mem_takeWhile_imp hc⟩, ?_⟩
        · simpa [takeDigits] using hdigits
        · rw [takeDigits, List.cons_append, List.append_assoc, List.takeWhile_append_dropWhile]
    · cases h
  · cases h

/-- A number that is read is written in the text. -/
theorem of_readNumber {negative : Bool} {value : Json} (h : readNumber negative text = some (.ok value, rest)) :
    ∃ number, SpellsNumber negative number value ∧ text = number ++ rest := by
  unfold readNumber at h
  split at h
  · cases h
  · rename_i whole afterWhole htaken
    obtain ⟨hwhole, rfl⟩ := of_takeWhole htaken
    rcases hfraction : takeFraction afterWhole with ⟨digits, afterFraction⟩
    obtain ⟨fraction, hspelt, rfl⟩ := of_takeFraction hfraction
    rw [hfraction] at h
    dsimp only at h
    -- a power makes the number a decimal, and without one a fraction does
    split at h
    · rename_i power after htaken
      obtain ⟨exponent, hne, hexponent, rfl⟩ := of_takeExponent htaken
      cases h
      exact ⟨_, .decimal hwhole hspelt hexponent (.inr hne), by simp only [List.append_assoc]⟩
    · cases hspelt with
      | none =>
        rw [if_neg (by decide)] at h
        split at h
        · cases h
        · rename_i hlength
          cases h
          exact ⟨whole, .whole hwhole (Nat.not_lt.mp hlength), rfl⟩
      | point hdigits =>
        rw [if_pos (by simp [hdigits.1])] at h
        cases h
        have hnumber : SpellsNumber negative _ _ := .decimal hwhole (.point hdigits) .none (.inl (List.cons_ne_nil _ _))
        rw [Int.zero_sub, List.append_nil] at hnumber
        exact ⟨_, hnumber, by simp only [List.append_assoc]⟩

theorem of_afterWord? {word : String} (h : afterWord? word text = some rest) : text = word.toList ++ rest := by
  unfold afterWord? at h
  split at h
  · rename_i hprefix
    obtain ⟨later, rfl⟩ := List.isPrefixOf_iff_prefix.mp hprefix
    rw [List.drop_left' String.length_toList] at h
    rw [Option.some.inj h]
  · cases h

/-- A word or a number that is read stands at the head of the text. -/
theorem of_readScalar {value : Json} (h : readScalar text = .ok (value, rest)) :
    ∃ scalar, SpellsScalar scalar value ∧ text = scalar ++ rest := by
  -- the words are tried one after the other, and a number last
  unfold readScalar at h
  split at h
  · rename_i hword
    cases h
    exact ⟨_, .null, of_afterWord? hword⟩
  split at h
  · rename_i hword
    cases h
    exact ⟨_, .bool true, of_afterWord? hword⟩
  split at h
  · rename_i hword
    cases h
    exact ⟨_, .bool false, of_afterWord? hword⟩
  split at h
  · rename_i hword
    cases h
    exact ⟨_, .notANumber, of_afterWord? hword⟩
  split at h
  · rename_i hword
    cases h
    exact ⟨_, .infinite false, of_afterWord? hword⟩
  split at h
  · rename_i hword
    cases h
    exact ⟨_, .infinite true, of_afterWord? hword⟩
  dsimp only at h
  split at h
  · rename_i hnumber
    cases h
    split at hnumber
    · obtain ⟨number, hspelt, rfl⟩ := of_readNumber hnumber
      exact ⟨'-' :: number, .negativeNumber hspelt, rfl⟩
    · obtain ⟨number, hspelt, rfl⟩ := of_readNumber hnumber
      exact ⟨number, .number hspelt, rfl⟩
  · cases h
  · cases h

end

/-! ## What the reader does not miss -/

/-- A text that goes on after a number without belonging to it. -/
def EndsNumber (rest : List Char) : Prop :=
  ∀ c later, rest = c :: later → isDigit c = false ∧ c ≠ '.' ∧ c ≠ 'e' ∧ c ≠ 'E'

theorem endsNumber_cons {c : Char} (hc : isDigit c = false ∧ c ≠ '.' ∧ c ≠ 'e' ∧ c ≠ 'E') (rest : List Char) :
    EndsNumber (c :: rest) := by
  rintro _ _ ⟨⟩
  exact hc

theorem endsNumber_nil : EndsNumber [] := nofun

section

variable {whole fraction digits exponent rest : List Char}

theorem takeDigits_append (hdigits : ∀ c ∈ digits, isDigit c = true)
    (hrest : ∀ c, rest.head? = some c → isDigit c = false) : takeDigits (digits ++ rest) = (digits, rest) := by
  have htaken := Text.takeWhile_stretch hdigits hrest
  have hall := List.takeWhile_append_dropWhile (p := isDigit) (l := digits ++ rest)
  rw [htaken] at hall
  rw [takeDigits, htaken, List.append_cancel_left hall]

theorem IsWhole.takeWhole (h : IsWhole whole) (hrest : ∀ c, rest.head? = some c → isDigit c = false) :
    takeWhole (whole ++ rest) = some (whole, rest) := by
  cases h with
  | zero => rfl
  | @digits c others hfirst hdigits =>
    have htaken := takeDigits_append hdigits hrest
    rw [List.cons_append] at htaken ⊢
    rw [Json.takeWhole, if_pos (hdigits c List.mem_cons_self), htaken]
    exact hfirst

theorem SpellsFraction.takeFraction (h : SpellsFraction fraction digits)
    (hrest : ∀ c, rest.head? = some c → isDigit c = false ∧ c ≠ '.') :
    takeFraction (fraction ++ rest) = (digits, rest) := by
  cases h with
  | none =>
    cases rest with
    | nil => rfl
    | cons c later =>
      rw [List.nil_append, Json.takeFraction]
      rintro _ ⟨⟩
      exact (hrest '.' rfl).2 rfl
  | point hdigits =>
    rw [List.cons_append, Json.takeFraction, takeDigits_append hdigits.2 fun c hc => (hrest c hc).1]
    simp [hdigits.1]

theorem SpellsExponent.takeExponent {power : Int} (h : SpellsExponent exponent power) (hne : exponent ≠ [])
    (hrest : ∀ c, rest.head? = some c → isDigit c = false) : takeExponent (exponent ++ rest) = some (power, rest) := by
  cases h with
  | none => contradiction
  | @power mark sign digits negative hmark hsign hdigits =>
    have htaken := takeDigits_append hdigits.2 hrest
    have hsome : digits.isEmpty = false := List.isEmpty_eq_false_iff.mpr hdigits.1
    rw [List.cons_append, List.append_assoc]
    cases hsign with
    | plus | minus => simp [Json.takeExponent, hmark, htaken, hsome, withSign]
    | none =>
      -- a digit is no sign
      have hfirst : ∀ c later, digits ++ rest = c :: later → isDigit c = true := by
        intro c later hcons
        obtain ⟨first, others, rfl⟩ := List.exists_cons_of_ne_nil hdigits.1
        obtain ⟨rfl, -⟩ := List.cons.inj hcons
        exact hdigits.2 _ List.mem_cons_self
      rw [List.nil_append, Json.takeExponent]
      · simp [hmark, htaken, hsome, withSign]
      · intro later hminus
        cases hfirst _ _ hminus
      · intro later hplus
        cases hfirst _ _ hplus

theorem EndsNumber.head (h : EndsNumber rest) {c : Char} (hc : rest.head? = some c) :
    isDigit c = false ∧ c ≠ '.' ∧ c ≠ 'e' ∧ c ≠ 'E' := by
  cases rest with
  | nil => cases hc
  | cons first later =>
    cases hc
    exact h _ _ rfl

theorem EndsNumber.takeExponent (h : EndsNumber rest) : takeExponent rest = none := by
  cases rest with
  | nil => rfl
  | cons c later => simp [Json.takeExponent, (h c later rfl).2.2]

/-- Neither an exponent nor what follows a number goes on with a digit or a point. -/
theorem SpellsExponent.head {power : Int} (h : SpellsExponent exponent power) (hrest : EndsNumber rest) {c : Char}
    (hc : (exponent ++ rest).head? = some c) : isDigit c = false ∧ c ≠ '.' := by
  cases h with
  | none => exact ⟨(hrest.head hc).1, (hrest.head hc).2.1⟩
  | power hmark hsign hdigits =>
    cases hc
    rcases hmark with rfl | rfl <;> decide

/-- A number is read, whatever follows it without belonging to it. -/
theorem SpellsNumber.readNumber {negative : Bool} {number : List Char} {value : Json}
    (h : SpellsNumber negative number value) (hrest : EndsNumber rest) :
    readNumber negative (number ++ rest) = some (.ok value, rest) := by
  cases h with
  | whole hwhole hlength =>
    have hfraction : takeFraction rest = ([], rest) :=
      SpellsFraction.none.takeFraction fun c hc => SpellsExponent.none.head hrest hc
    rw [Json.readNumber, hwhole.takeWhole fun c hc => (hrest.head hc).1]
    simp [hfraction, hrest.takeExponent, withSign, Nat.not_lt.mpr hlength]
  | @decimal whole fraction digits exponent power hwhole hfraction hexponent hparts =>
    have hpower : ∀ c, (exponent ++ rest).head? = some c → isDigit c = false ∧ c ≠ '.' := fun c hc => hexponent.head hrest hc
    have hpoint : ∀ c, (fraction ++ (exponent ++ rest)).head? = some c → isDigit c = false := by
      cases hfraction with
      | none => exact fun c hc => (hpower c hc).1
      | point hdigits => exact Text.of_head_cons (by decide) _
    rw [List.append_assoc, List.append_assoc, Json.readNumber, hwhole.takeWhole hpoint]
    dsimp only
    rw [hfraction.takeFraction hpower]
    dsimp only
    by_cases hnone : exponent = []
    · subst hnone
      cases hexponent
      cases hfraction with
      | none => simp at hparts
      | point hdigits => simp [hrest.takeExponent, hdigits.1]
    · rw [hexponent.takeExponent hnone fun c hc => (hrest.head hc).1]

/-! ## Words -/

theorem afterWord?_eq_none {word : String} {first c : Char} {others : List Char} (hword : word.toList = first :: others)
    (hne : first ≠ c) (text : List Char) : afterWord? word (c :: text) = none := by
  rw [afterWord?, hword, if_neg]
  simp [List.isPrefixOf, hne]

/-- What is made of the number that a text was found to begin with. -/
theorem readScalar_of_number {text : List Char} {value : Json}
    (hwords : ∀ word ∈ ["null", "true", "false", "NaN", "Infinity", "-Infinity"], afterWord? word text = none)
    (hnumber : (if text.head? = some '-' then readNumber true text.tail else readNumber false text) =
      some (.ok value, rest)) : readScalar text = .ok (value, rest) := by
  simp only [List.mem_cons, List.not_mem_nil, or_false, forall_eq_or_imp, forall_eq] at hwords
  rcases hwords with ⟨h1, h2, h3, h4, h5, h6⟩
  unfold readScalar
  rw [h1, h2, h3, h4, h5, h6]
  dsimp only
  -- the reader matches on the sign, and `hnumber` tells it from the first character
  split
  all_goals
    rename_i hread
    split at hread
    · rw [List.head?_cons, if_pos rfl, List.tail_cons, hread] at hnumber
      cases hnumber
      try rfl
    · rename_i hplain
      rw [if_neg, hread] at hnumber
      · cases hnumber
        try rfl
      · intro hhead
        cases text with
        | nil => cases hhead
        | cons c later =>
          cases hhead
          exact hplain later rfl

/-- A number begins with a digit. -/
theorem SpellsNumber.exists_cons {negative : Bool} {number : List Char} {value : Json}
    (h : SpellsNumber negative number value) : ∃ c later, number = c :: later ∧ isDigit c = true := by
  have hfirst : ∀ {whole : List Char}, IsWhole whole → ∃ c later, whole = c :: later ∧ isDigit c = true := by
    rintro _ (_ | ⟨-, hdigits⟩)
    · exact ⟨_, _, rfl, rfl⟩
    · exact ⟨_, _, rfl, hdigits _ List.mem_cons_self⟩
  cases h with
  | whole hwhole hlength => exact hfirst hwhole
  | decimal hwhole hfraction hexponent hparts =>
    obtain ⟨c, later, rfl, hdigit⟩ := hfirst hwhole
    exact ⟨c, _, rfl, hdigit⟩

/-- A word or a number is read, whatever follows it without belonging to it. -/
theorem SpellsScalar.readScalar {scalar : List Char} {value : Json} (h : SpellsScalar scalar value)
    (hrest : EndsNumber rest) : readScalar (scalar ++ rest) = .ok (value, rest) := by
  cases h with
  | null => rfl
  | bool b => cases b <;> rfl
  | notANumber => rfl
  | infinite negative => cases negative <;> rfl
  | number hnumber =>
    obtain ⟨c, later, rfl, hdigit⟩ := hnumber.exists_cons
    -- no word begins with a digit
    have hne : ∀ {first : Char}, isDigit first = false → first ≠ c := by
      rintro _ hfirst rfl
      rw [hdigit] at hfirst
      cases hfirst
    refine readScalar_of_number ?_ ?_
    · simp only [List.mem_cons, List.not_mem_nil, or_false, forall_eq_or_imp, forall_eq]
      exact ⟨afterWord?_eq_none rfl (hne rfl) _, afterWord?_eq_none rfl (hne rfl) _, afterWord?_eq_none rfl (hne rfl) _,
        afterWord?_eq_none rfl (hne rfl) _, afterWord?_eq_none rfl (hne rfl) _, afterWord?_eq_none rfl (hne rfl) _⟩
    · rw [List.cons_append, List.head?_cons, if_neg fun h => hne rfl (Option.some.inj h).symm, ← List.cons_append]
      exact hnumber.readNumber hrest
  | @negativeNumber number _ hnumber =>
    obtain ⟨c, later, rfl, hdigit⟩ := hnumber.exists_cons
    -- one word begins with the sign, but it goes on with a letter
    have hinfinity : afterWord? "-Infinity" ('-' :: c :: (later ++ rest)) = none := by
      have hne : 'I' ≠ c := by
        rintro rfl
        cases hdigit
      rw [afterWord?, if_neg]
      simp [List.isPrefixOf, hne]
    refine readScalar_of_number ?_ ?_
    · simp only [List.mem_cons, List.not_mem_nil, or_false, forall_eq_or_imp, forall_eq]
      exact ⟨afterWord?_eq_none rfl (by decide) _, afterWord?_eq_none rfl (by decide) _,
        afterWord?_eq_none rfl (by decide) _, afterWord?_eq_none rfl (by decide) _,
        afterWord?_eq_none rfl (by decide) _, hinfinity⟩
    · rw [List.cons_append, List.head?_cons, if_pos rfl, List.tail_cons]
      exact hnumber.readNumber hrest

/-- A scalar begins with a digit, the sign or a letter of a word. -/
theorem SpellsScalar.exists_cons {scalar : List Char} {value : Json} (h : SpellsScalar scalar value) :
    ∃ c later, scalar = c :: later ∧ (isDigit c = true ∨ c ∈ ['n', 't', 'f', 'N', 'I', '-']) := by
  cases h with
  | null => exact ⟨_, _, rfl, .inr (by decide)⟩
  | bool b => cases b <;> exact ⟨_, _, rfl, .inr (by decide)⟩
  | notANumber => exact ⟨_, _, rfl, .inr (by decide)⟩
  | infinite negative => cases negative <;> exact ⟨_, _, rfl, .inr (by decide)⟩
  | number hnumber =>
    obtain ⟨c, later, rfl, hdigit⟩ := hnumber.exists_cons
    exact ⟨c, later, rfl, .inl hdigit⟩
  | negativeNumber hnumber => exact ⟨_, _, rfl, .inr (by decide)⟩

end

end Showcase.Json
