import Showcase.Json.Reader
import Showcase.Json.Writer

/-!
# Spellings

A value is spelt as it is written in a style, or with another text in place of each opening angle bracket. A spelling is
legible if an angle bracket is spelt as itself or as its escape, and if the separators of its style are a comma and a
colon with nothing but blanks after them.
-/

namespace Showcase.Json

/-! ## Values as they are written -/

section

variable (style : Style)

theorem write_null : write style .null = "null".toList := rfl

theorem write_bool (b : Bool) : write style (.bool b) = (if b then "true" else "false").toList := by
  cases b <;> rfl

theorem write_int (n : Int) : write style (.int n) = (toString n).toList := rfl

theorem write_str (s : JsonString) : write style (.str s) = writeString style.asciiOnly s := rfl

theorem write_array (items : List Json) : write style (.arr items) = '[' :: writeItems style items ++ [']'] := rfl

theorem write_object (members : List (JsonString × Json)) :
    write style (.obj members) = '\x7b' :: writeMembers style members ++ ['\x7d'] := rfl

theorem writeItems_last (last : Json) : writeItems style [last] = last.write style := rfl

theorem writeItems_more (item second : Json) (others : List Json) :
    writeItems style (item :: second :: others) =
      item.write style ++ style.betweenItems.toList ++ writeItems style (second :: others) := rfl

theorem writeMembers_last (name : JsonString) (last : Json) :
    writeMembers style [(name, last)] =
      writeString style.asciiOnly name ++ style.afterName.toList ++ last.write style := rfl

theorem writeMembers_more (name : JsonString) (value : Json) (second : JsonString × Json)
    (others : List (JsonString × Json)) :
    writeMembers style ((name, value) :: second :: others) =
      writeString style.asciiOnly name ++ style.afterName.toList ++ value.write style ++ style.betweenItems.toList ++
        writeMembers style (second :: others) := rfl

end

/-! ## Spellings -/

/-- How a value is spelt: the style in which it is written, and what stands for each character of that. -/
structure Spelling where
  style : Style
  respell : Char → List Char

/-- A value as it is spelt. -/
def spell (spelling : Spelling) (value : Json) : List Char := (value.write spelling.style).flatMap spelling.respell

/-- The items of an array as they are spelt. -/
def spellItems (spelling : Spelling) (items : List Json) : List Char :=
  (writeItems spelling.style items).flatMap spelling.respell

/-- The members of an object as they are spelt. -/
def spellMembers (spelling : Spelling) (members : List (JsonString × Json)) : List Char :=
  (writeMembers spelling.style members).flatMap spelling.respell

/-- A code point of a string as it is spelt inside a literal. -/
def spellPoint (spelling : Spelling) (point : Nat) : List Char :=
  (escapePoint spelling.style.asciiOnly point).flatMap spelling.respell

/-- A separator is a mark with nothing but blanks after it. -/
def IsMark (mark : Char) (separator : String) : Prop :=
  ∃ blanks, separator.toList = mark :: blanks ∧ ∀ c ∈ blanks, isSpace c = true

namespace Spelling

/-- The compact style as it is. -/
def plain : Spelling := ⟨.compact, fun c => [c]⟩

/-- The spaced style without opening angle brackets. -/
def inScript : Spelling := ⟨.spaced, fun c => if c == '<' then unicodeEscape ('<').toNat else [c]⟩

/-- What is spelt so can be read. -/
structure IsLegible (spelling : Spelling) : Prop where
  respell_of_ne : ∀ c, c ≠ '<' → spelling.respell c = [c]
  respell_angle : spelling.respell '<' = ['<'] ∨ spelling.respell '<' = unicodeEscape ('<').toNat
  comma : IsMark ',' spelling.style.betweenItems
  colon : IsMark ':' spelling.style.afterName

theorem isLegible_plain : plain.IsLegible where
  respell_of_ne := fun _ _ => rfl
  respell_angle := .inl rfl
  comma := ⟨[], rfl, nofun⟩
  colon := ⟨[], rfl, nofun⟩

theorem isLegible_inScript : inScript.IsLegible where
  respell_of_ne := fun _ hc => if_neg (mt beq_iff_eq.mp hc)
  respell_angle := .inr rfl
  comma := ⟨[' '], rfl, List.forall_mem_singleton.mpr rfl⟩
  colon := ⟨[' '], rfl, List.forall_mem_singleton.mpr rfl⟩

variable {spelling : Spelling}

/-- A text without angle brackets is spelt as it is. -/
theorem IsLegible.respelt (h : spelling.IsLegible) {text : List Char} (htext : '<' ∉ text) :
    text.flatMap spelling.respell = text := by
  induction text with
  | nil => rfl
  | cons c rest ih =>
    rw [List.mem_cons, not_or] at htext
    rw [List.flatMap_cons, h.respell_of_ne c (Ne.symm htext.1), ih htext.2, List.singleton_append]

theorem IsLegible.respelt_mark (h : spelling.IsLegible) {mark : Char} {separator : String} (hmark : IsMark mark separator)
    (hangle : mark ≠ '<') : separator.toList.flatMap spelling.respell = separator.toList := by
  obtain ⟨blanks, hseparator, hblanks⟩ := hmark
  refine h.respelt fun hmem => ?_
  rw [hseparator, List.mem_cons] at hmem
  rcases hmem with rfl | hblank
  · exact hangle rfl
  · exact absurd (hblanks _ hblank) (by decide)

end Spelling

theorem spell_plain (value : Json) : value.spell .plain = value.write .compact := List.flatMap_singleton' _

/-! ## Characters of literals -/

theorem not_mem_hexDigits (width n : Nat) : '<' ∉ Text.hexDigits width n := by
  induction width generalizing n with
  | zero => exact List.not_mem_nil
  | succ width ih =>
    have hdigit : ∀ d < 16, Text.hexDigit d ≠ '<' := by decide
    rw [Text.hexDigits, List.mem_append, List.mem_singleton, not_or]
    exact ⟨ih _, (hdigit _ (Nat.mod_lt _ (by decide))).symm⟩

theorem not_mem_unicodeEscape (unit : Nat) : '<' ∉ unicodeEscape unit := by
  simp [unicodeEscape, not_mem_hexDigits]

/-- No escape of another character holds an angle bracket. -/
theorem not_mem_escapeChar {c : Char} (hc : c ≠ '<') (asciiOnly : Bool) : '<' ∉ escapeChar asciiOnly c := by
  have hcode := not_mem_unicodeEscape
  have hne := Ne.symm hc
  -- each branch writes letters of its own, the escape of a code or the character
  unfold escapeChar
  repeat' refine iteInduction (motive := fun s => '<' ∉ s) (fun _ => ?_) (fun _ => ?_)
  all_goals simp [hcode, hne]

/-- Only the code of an angle bracket is that of an angle bracket. -/
theorem eq_toNat_of_ofNat {point : Nat} (h : Char.ofNat point = '<') : point = ('<').toNat := by
  by_cases hvalid : point.isValidChar
  · have hcode := congrArg Char.toNat h
    rwa [Char.ofNat, dif_pos hvalid] at hcode
  · -- a code out of range has the character of code zero
    rw [Char.ofNat, dif_neg hvalid] at h
    cases h

/-- A code point is spelt as its escape is, or it is an angle bracket and spelt as the escape of its code. -/
theorem spellPoint_cases {spelling : Spelling} (h : spelling.IsLegible) (point : Nat) :
    spellPoint spelling point = escapePoint spelling.style.asciiOnly point ∨
      point = ('<').toNat ∧ spellPoint spelling point = unicodeEscape point := by
  by_cases hangle : point = ('<').toNat
  · subst hangle
    have hescape : escapePoint spelling.style.asciiOnly ('<').toNat = ['<'] := by
      cases spelling.style.asciiOnly <;> rfl
    rw [spellPoint, hescape, List.flatMap_singleton]
    exact h.respell_angle.imp id fun hcode => ⟨rfl, hcode⟩
  · refine .inl (h.respelt ?_)
    unfold escapePoint
    split
    · exact not_mem_unicodeEscape point
    · exact not_mem_escapeChar (mt eq_toNat_of_ofNat hangle) _

end Showcase.Json
