import Mathlib.Algebra.Order.Ring.Nat
import Showcase.Proofs.Json.Grammar
import Showcase.Proofs.Json.Spelling

/-!
# Literals that travel

String literals and whole numbers are spelt as the grammar has them. A character beyond the first 65536 may be spelt as the
two halves of a surrogate pair, which are joined again.
-/

namespace Showcase.Json

/-! ## Escapes -/

theorem hexValue?_hexDigit {n : Nat} (h : n < 16) : Text.hexValue? (Text.hexDigit n) = some n := by
  have hall : ∀ n < 16, Text.hexValue? (Text.hexDigit n) = some n := by decide
  exact hall n h

/-- The escape of a code unit stands for it. -/
theorem spellsUnits_unicodeEscape {unit : Nat} (hunit : unit < 0x10000) : SpellsUnits (unicodeEscape unit) [unit] := by
  refine .unicode ?_ .nil
  simp only [fourDigits?, hexValue?_hexDigit (Nat.mod_lt _ (by decide : 0 < 16)), bind, Option.bind, pure,
    Option.some.injEq]
  omega

/-- In the compact style a character has a short escape, or it is another control character and written as its code, or it
stands for itself. -/
theorem escapeChar_compact_cases (c : Char) :
    (∃ name, shortEscape? name = some c ∧ escapeChar false c = ['\\', name]) ∨
    (c.toNat < 32 ∧ escapeChar false c = unicodeEscape c.toNat) ∨
    (c ≠ '"' ∧ c ≠ '\\' ∧ ¬c.toNat < 32 ∧ escapeChar false c = [c]) := by
  by_cases hshort : c ∈ ['"', '\\', '\n', '\r', '\t', Char.ofNat 8, Char.ofNat 12]
  · left
    simp only [List.mem_cons, List.not_mem_nil, or_false] at hshort
    rcases hshort with rfl | rfl | rfl | rfl | rfl | rfl | rfl
    · exact ⟨'"', rfl, rfl⟩
    · exact ⟨'\\', rfl, rfl⟩
    · exact ⟨'n', rfl, rfl⟩
    · exact ⟨'r', rfl, rfl⟩
    · exact ⟨'t', rfl, rfl⟩
    · exact ⟨'b', rfl, rfl⟩
    · exact ⟨'f', rfl, rfl⟩
  · -- the writer tells the backspace and the form feed by their codes
    have hcode : ∀ {code : Nat}, c ≠ Char.ofNat code → c.toNat ≠ code := by
      rintro code hne rfl
      exact hne (Char.ofNat_toNat c).symm
    right
    simp only [List.mem_cons, List.not_mem_nil, or_false, not_or] at hshort
    obtain ⟨hquote, hescape, hline, hreturn, htab, hbackspace, hfeed⟩ := hshort
    simp only [escapeChar, beq_iff_eq, hquote, hescape, hline, hreturn, htab, hcode hbackspace, hcode hfeed, if_false,
      Bool.false_and, Bool.false_eq_true]
    by_cases hcontrol : c.toNat < 32
    · exact .inl ⟨hcontrol, if_pos hcontrol⟩
    · exact .inr ⟨hquote, hescape, hcontrol, if_neg hcontrol⟩

/-- In the compact style the escape of a character stands for it. -/
theorem spellsUnits_escapeChar_compact (c : Char) : SpellsUnits (escapeChar false c) [c.toNat] := by
  rcases escapeChar_compact_cases c with ⟨name, hname, hescaped⟩ | ⟨hcontrol, hescaped⟩ |
    ⟨hquote, hescape, hcontrol, hescaped⟩
  · rw [hescaped]
    exact .short hname .nil
  · rw [hescaped]
    exact spellsUnits_unicodeEscape (Nat.lt_trans hcontrol (by decide))
  · rw [hescaped]
    exact .plain hquote hescape (Nat.not_lt.mp hcontrol) .nil

/-- The code units that a code point is written by: two for one beyond the first 65536 where only ASCII is written, and else
one. -/
def unitsOf (asciiOnly : Bool) (point : Nat) : List Nat :=
  if asciiOnly && 0x10000 ≤ point then [0xD800 + (point - 0x10000) / 0x400, 0xDC00 + (point - 0x10000) % 0x400]
  else [point]

theorem unitsOf_of_lt {point : Nat} (hpoint : point < 0x10000) (asciiOnly : Bool) : unitsOf asciiOnly point = [point] := by
  rw [unitsOf, if_neg]
  simp [hpoint]

/-- Below the end of ASCII the styles escape the same characters. -/
theorem escapeChar_of_ascii {c : Char} (hc : c.toNat < 127) (asciiOnly : Bool) :
    escapeChar asciiOnly c = escapeChar false c := by
  simp [escapeChar, Nat.not_le.mpr hc]

/-- Where only ASCII is written, a character beyond it is written by its code units. -/
theorem escapeChar_beyond {c : Char} (hc : 127 ≤ c.toNat) :
    escapeChar true c = (unitsOf true c.toNat).flatMap unicodeEscape := by
  have hother : ∀ {d : Char}, d.toNat < 127 → c ≠ d := by
    rintro d hd rfl
    omega
  have hcontrol : ¬c.toNat < 32 := by omega
  have height : c.toNat ≠ 8 ∧ c.toNat ≠ 12 := by omega
  unfold escapeChar
  simp only [beq_iff_eq, hother (show '"'.toNat < 127 by decide), hother (show '\\'.toNat < 127 by decide),
    hother (show '\n'.toNat < 127 by decide), hother (show '\r'.toNat < 127 by decide),
    hother (show '\t'.toNat < 127 by decide), height, hcontrol, if_false, Bool.true_and, ge_iff_le, hc, decide_true,
    if_true]
  split
  · rename_i hunit
    rw [unitsOf_of_lt hunit, List.flatMap_singleton]
  · rename_i hpair
    rw [unitsOf, if_pos (by simpa using hpair)]
    simp

theorem lt_of_mem_unitsOf {point unit : Nat} (hpoint : point < 0x110000) (h : unit ∈ unitsOf true point) : unit < 0x10000 := by
  unfold unitsOf at h
  split at h
  · simp only [List.mem_cons, List.not_mem_nil, or_false] at h
    omega
  · rename_i hsmall
    simp only [Bool.true_and, decide_eq_true_eq, Nat.not_le] at hsmall
    rw [List.mem_singleton.mp h]
    exact hsmall

/-- A character is no half of a pair, and its code is in range. -/
theorem toNat_char (c : Char) : Text.isSurrogate c.toNat = false ∧ c.toNat < 0x110000 := by
  have hvalid : c.toNat < 0xD800 ∨ (0xDFFF < c.toNat ∧ c.toNat < 0x110000) := c.valid
  simp only [Text.isSurrogate, Bool.and_eq_false_iff, decide_eq_false_iff_not]
  omega

/-- What is spelt of each part of a list stands for what the parts stand for. -/
theorem spellsUnits_flatMap {α : Type} {spelt : α → List Char} {unitsOf : α → List Nat} {parts : List α}
    (h : ∀ part ∈ parts, SpellsUnits (spelt part) (unitsOf part)) :
    SpellsUnits (parts.flatMap spelt) (parts.flatMap unitsOf) := by
  induction parts with
  | nil => exact .nil
  | cons part parts ih =>
    obtain ⟨hpart, hparts⟩ := List.forall_mem_cons.mp h
    exact hpart.append (ih hparts)

/-- The escape of a character stands for its code units. -/
theorem spellsUnits_escapeChar (asciiOnly : Bool) (c : Char) :
    SpellsUnits (escapeChar asciiOnly c) (unitsOf asciiOnly c.toNat) := by
  cases asciiOnly with
  | false => exact spellsUnits_escapeChar_compact c
  | true =>
    by_cases hascii : c.toNat < 127
    · rw [escapeChar_of_ascii hascii, unitsOf_of_lt (by omega)]
      exact spellsUnits_escapeChar_compact c
    · -- beyond ASCII the code units are escaped one by one
      have hunits : SpellsUnits ((unitsOf true c.toNat).flatMap unicodeEscape)
          ((unitsOf true c.toNat).flatMap fun unit => [unit]) :=
        spellsUnits_flatMap fun unit hunit => spellsUnits_unicodeEscape (lt_of_mem_unitsOf (toNat_char c).2 hunit)
      rw [List.flatMap_singleton'] at hunits
      rwa [escapeChar_beyond (Nat.not_lt.mp hascii)]

/-- A code point that is in range and no half of a pair is that of its character. -/
theorem toNat_ofNat {point : Nat} (hpoint : point < 0x110000) (hhalf : Text.isSurrogate point = false) :
    (Char.ofNat point).toNat = point := by
  simp only [Text.isSurrogate, Bool.and_eq_false_iff, decide_eq_false_iff_not] at hhalf
  have hvalid : point.isValidChar := by
    simp only [Nat.isValidChar]
    omega
  rw [Char.ofNat, dif_pos hvalid]
  rfl

/-- The escape of a code point stands for its code units. -/
theorem spellsUnits_escapePoint (asciiOnly : Bool) {point : Nat} (hpoint : point < 0x110000) :
    SpellsUnits (escapePoint asciiOnly point) (unitsOf asciiOnly point) := by
  unfold escapePoint
  split
  · rename_i hhalf
    simp only [Text.isSurrogate, Bool.and_eq_true, decide_eq_true_eq] at hhalf
    rw [unitsOf_of_lt (by omega)]
    exact spellsUnits_unicodeEscape (by omega)
  · rename_i hhalf
    have hspelt := spellsUnits_escapeChar asciiOnly (Char.ofNat point)
    rwa [toNat_ofNat hpoint (Bool.not_eq_true _ ▸ hhalf)] at hspelt

/-! ## Strings -/

theorem isSurrogatePair_eq_false {high low : Nat} (h : Text.isSurrogate high = false ∨ Text.isSurrogate low = false) :
    Text.isSurrogatePair high low = false := by
  simp only [Text.isSurrogate, Bool.and_eq_false_iff, decide_eq_false_iff_not] at h
  simp only [Text.isSurrogatePair, Bool.and_eq_false_iff, decide_eq_false_iff_not]
  omega

theorem joinSurrogates_pair {high low : Nat} {units : List Nat} (h : Text.isSurrogatePair high low = true) :
    Text.joinSurrogates (high :: low :: units) = Text.pairedPoint high low :: Text.joinSurrogates units := if_pos h

theorem joinSurrogates_cons {point : Nat} {units : List Nat}
    (h : ∀ unit ∈ units.head?, Text.isSurrogatePair point unit = false) :
    Text.joinSurrogates (point :: units) = point :: Text.joinSurrogates units := by
  cases units with
  | nil => rfl
  | cons unit rest =>
    rw [Text.joinSurrogates, if_neg]
    exact Bool.not_eq_true _ ▸ h unit (by simp)

/-- A half makes no pair with the first unit of a code point if it makes none with the code point. -/
theorem isSurrogatePair_head {high point : Nat} (hpoint : point < 0x110000)
    (h : Text.isSurrogatePair high point = false) (asciiOnly : Bool) (units : List Nat) :
    ∀ unit ∈ (unitsOf asciiOnly point ++ units).head?, Text.isSurrogatePair high unit = false := by
  unfold unitsOf
  split
  · -- the first unit of two is the first half of a pair, never the second
    simp only [List.cons_append, List.head?_cons, Option.mem_def, Option.some.injEq, forall_eq',
      Text.isSurrogatePair, Bool.and_eq_false_iff, decide_eq_false_iff_not]
    omega
  · simpa using h

theorem holdsPair_cons {point : Nat} {points : List Nat} (h : Text.holdsPair (point :: points) = false) :
    Text.holdsPair points = false ∧ ∀ next ∈ points.head?, Text.isSurrogatePair point next = false := by
  cases points with
  | nil => exact ⟨rfl, nofun⟩
  | cons next rest =>
    rw [Text.holdsPair, Bool.or_eq_false_iff] at h
    exact ⟨h.2, by simpa using h.1⟩

/-- The halves that code points are written by are joined again, and no others if no neighbours are a pair. -/
theorem joinSurrogates_units (asciiOnly : Bool) {points : List Nat} (hpair : Text.holdsPair points = false)
    (hpoints : ∀ point ∈ points, point < 0x110000) :
    Text.joinSurrogates (points.flatMap (unitsOf asciiOnly)) = points := by
  induction points with
  | nil => rfl
  | cons point points ih =>
    obtain ⟨hpoint, hrest⟩ := List.forall_mem_cons.mp hpoints
    obtain ⟨hapart, hnext⟩ := holdsPair_cons hpair
    rw [List.flatMap_cons, unitsOf]
    split
    · -- the two halves come to the code point
      rename_i hlarge
      simp only [Bool.and_eq_true, decide_eq_true_eq] at hlarge
      have hhalves : Text.isSurrogatePair (0xD800 + (point - 0x10000) / 0x400) (0xDC00 + (point - 0x10000) % 0x400) =
          true := by
        simp only [Text.isSurrogatePair, Bool.and_eq_true, decide_eq_true_eq]
        omega
      have hcode : Text.pairedPoint (0xD800 + (point - 0x10000) / 0x400) (0xDC00 + (point - 0x10000) % 0x400) =
          point := by
        unfold Text.pairedPoint
        omega
      rw [List.cons_append, List.singleton_append, joinSurrogates_pair hhalves, hcode, ih hapart hrest]
    · rw [List.singleton_append, joinSurrogates_cons, ih hapart hrest]
      cases points with
      | nil => exact nofun
      | cons next rest =>
        rw [List.flatMap_cons]
        exact isSurrogatePair_head (hrest next List.mem_cons_self) (hnext next rfl) asciiOnly _

/-- The code points of a string are in range, and no two neighbours among them are a pair. -/
theorem points_apart (s : JsonString) :
    Text.holdsPair s.points = false ∧ ∀ point ∈ s.points, point < 0x110000 := by
  cases s with
  | text s =>
    refine ⟨?_, List.forall_mem_map.mpr fun c _ => (toNat_char c).2⟩
    rw [JsonString.points]
    induction s.toList with
    | nil => rfl
    | cons c rest ih =>
      cases rest with
      | nil => rfl
      | cons d rest =>
        rw [List.map_cons, List.map_cons, Text.holdsPair, isSurrogatePair_eq_false (.inl (toNat_char c).1)]
        exact ih
  | unpaired points h => exact ⟨h.apart, h.bounded⟩

theorem ofPoints_points (s : JsonString) : JsonString.ofPoints s.points = s := by
  cases s with
  | text s =>
    have hchars : ¬IsUnpaired (s.toList.map Char.toNat) := by
      rintro ⟨⟨point, hpoint, hhalf⟩, -, -⟩
      obtain ⟨c, -, rfl⟩ := List.mem_map.mp hpoint
      rw [(toNat_char c).1] at hhalf
      cases hhalf
    rw [JsonString.points, JsonString.ofPoints, dif_neg hchars, List.map_map]
    simp [Function.comp_def]
  | unpaired points h => exact dif_pos h

/-- The string that the code units of a string stand for is that string. -/
theorem stringOfUnits_units (asciiOnly : Bool) (s : JsonString) :
    stringOfUnits (s.points.flatMap (unitsOf asciiOnly)) = s := by
  rw [stringOfUnits, joinSurrogates_units asciiOnly (points_apart s).1 (points_apart s).2, ofPoints_points]

section

variable {spelling : Spelling} (h : spelling.IsLegible)
include h

theorem spellsUnits_spellPoint {point : Nat} (hpoint : point < 0x110000) :
    SpellsUnits (spellPoint spelling point) (unitsOf spelling.style.asciiOnly point) := by
  obtain hspelt | ⟨rfl, hspelt⟩ := spellPoint_cases h point
  · rw [hspelt]
    exact spellsUnits_escapePoint _ hpoint
  · rw [hspelt, unitsOf_of_lt (by decide)]
    exact spellsUnits_unicodeEscape (by decide)

/-- What is spelt of a string between its quotes stands for its code points. -/
theorem spellsUnits_spelt (s : JsonString) :
    SpellsUnits (s.points.flatMap (spellPoint spelling)) (s.points.flatMap (unitsOf spelling.style.asciiOnly)) :=
  spellsUnits_flatMap fun point hpoint => spellsUnits_spellPoint h ((points_apart s).2 point hpoint)

end

/-! ## Whole numbers -/

theorem decimalNumber_append (digits : List Char) (c : Char) :
    Text.decimalNumber (digits ++ [c]) = Text.decimalNumber digits * 10 + (c.toNat - 48) := by
  simp [Text.decimalNumber]

theorem toNat_digitChar {n : Nat} (h : n < 10) : n.digitChar.toNat = n + 48 := by
  have hall : ∀ n < 10, n.digitChar.toNat = n + 48 := by decide
  exact hall n h

theorem isDigit_digitChar {n : Nat} (h : n < 10) : Text.isDigit n.digitChar = true := by
  have hall : ∀ n < 10, Text.isDigit n.digitChar = true := by decide
  exact hall n h

theorem decimalNumber_toDigits (n : Nat) : Text.decimalNumber (Nat.toDigits 10 n) = n := by
  induction n using Nat.strongRecOn with
  | ind n ih =>
    rw [Nat.toDigits_eq_if (by decide)]
    split
    · rename_i hsmall
      simp [Text.decimalNumber, toNat_digitChar hsmall]
    · -- the last digit is the remainder, and the digits before it are those of the quotient
      rename_i hlarge
      rw [decimalNumber_append, ih (n / 10) (by omega), toNat_digitChar (Nat.mod_lt n (by decide))]
      omega

theorem isDigit_toDigits (n : Nat) : ∀ c ∈ Nat.toDigits 10 n, Text.isDigit c = true := by
  induction n using Nat.strongRecOn with
  | ind n ih =>
    rw [Nat.toDigits_eq_if (by decide)]
    split
    · rename_i hsmall
      simpa using isDigit_digitChar hsmall
    · intro c hc
      rcases List.mem_append.mp hc with hc | hc
      · exact ih (n / 10) (by omega) c hc
      · rw [List.mem_singleton.mp hc]
        exact isDigit_digitChar (Nat.mod_lt n (by decide))

/-- The digits of a number do not begin with zero, unless it is zero. -/
theorem toDigits_eq_cons {n : Nat} (hpos : 0 < n) :
    ∃ c digits, Nat.toDigits 10 n = c :: digits ∧ c ≠ '0' ∧ Text.isDigit c = true := by
  induction n using Nat.strongRecOn with
  | ind n ih =>
    rw [Nat.toDigits_eq_if (by decide)]
    split
    · rename_i hsmall
      have hall : ∀ n < 10, 0 < n → n.digitChar ≠ '0' := by decide
      exact ⟨_, [], rfl, hall n hsmall hpos, isDigit_digitChar hsmall⟩
    · rcases ih (n / 10) (by omega) (by omega) with ⟨c, digits, hdigits, hc, hdigit⟩
      exact ⟨c, digits ++ [(n % 10).digitChar], by rw [hdigits, List.cons_append], hc, hdigit⟩

/-- Digits of a number are the whole part of a numeral. -/
theorem isWhole_toDigits (n : Nat) : IsWhole (Nat.toDigits 10 n) := by
  rcases Nat.eq_zero_or_pos n with rfl | hpos
  · exact .zero
  · obtain ⟨c, digits, hdigits, hc, -⟩ := toDigits_eq_cons hpos
    have hall := isDigit_toDigits n
    rw [hdigits] at hall ⊢
    exact .digits hc hall

theorem length_toDigits_le {n count : Nat} (hcount : 0 < count) (hsize : n < 10 ^ count) :
    (Nat.toDigits 10 n).length ≤ count :=
  (Nat.length_toDigits_le_iff (by decide) hcount).mpr hsize

/-- A number of at most 4300 digits is a numeral. -/
theorem spellsNumber_toDigits (negative : Bool) {n : Nat} (hsize : n < 10 ^ 4300) :
    SpellsNumber negative (Nat.toDigits 10 n) (.int (withSign negative n)) := by
  have hnumber : SpellsNumber negative _ _ := .whole (isWhole_toDigits n) (length_toDigits_le (by decide) hsize)
  rwa [decimalNumber_toDigits] at hnumber

end Showcase.Json
