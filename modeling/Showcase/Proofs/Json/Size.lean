import Mathlib.Data.List.Induction
import Showcase.Network.Body
import Showcase.Proofs.Json.Literal
import Showcase.Proofs.Json.Reading

/-!
# How large read numbers are

Whole numbers that are read have at most 4300 digits, so they can be written again for another reader.
-/

namespace Showcase.Json

/-- A value whose whole numbers have at most 4300 digits. -/
inductive Bounded : Json → Prop where
  | null : Bounded .null
  | bool (b : Bool) : Bounded (.bool b)
  | int (n : Int) (hsize : n.natAbs < 10 ^ 4300) : Bounded (.int n)
  | decimal (d : Decimal) : Bounded (.decimal d)
  | str (s : JsonString) : Bounded (.str s)
  | arr (items : List Json) (hitems : ∀ item ∈ items, Bounded item) : Bounded (.arr items)
  | obj (members : List (JsonString × Json)) (hvalues : ∀ member ∈ members, Bounded member.2) :
      Bounded (.obj members)

/-! ## Numbers -/

theorem decimalNumber_lt_pow_length (digits : List Char) (hdigits : ∀ c ∈ digits, Text.isDigit c = true) :
    Text.decimalNumber digits < 10 ^ digits.length := by
  induction digits using List.reverseRecOn with
  | nil => simp [Text.decimalNumber]
  | append_singleton digits c ih =>
    have hshort := ih fun d hd => hdigits d (List.mem_append_left _ hd)
    have hc := toNat_of_isDigit (hdigits c (by simp))
    rw [decimalNumber_append, List.length_append, List.length_singleton, Nat.pow_succ]
    omega

/-- Digits write a number below the power of ten that bounds their count. -/
theorem decimalNumber_lt {digits : List Char} (hdigits : ∀ c ∈ digits, Text.isDigit c = true) {count : Nat}
    (hcount : digits.length ≤ count) : Text.decimalNumber digits < 10 ^ count :=
  Nat.lt_of_lt_of_le (decimalNumber_lt_pow_length digits hdigits) (Nat.pow_le_pow_right (by decide) hcount)

theorem IsWhole.isDigit {whole : List Char} (h : IsWhole whole) : ∀ c ∈ whole, Text.isDigit c = true := by
  cases h with
  | zero => exact List.forall_mem_singleton.mpr rfl
  | digits hfirst hdigits => exact hdigits

theorem SpellsNumber.bounded {negative : Bool} {number : List Char} {value : Json}
    (h : SpellsNumber negative number value) : Bounded value := by
  cases h with
  | whole hwhole hlength =>
    have hlt := decimalNumber_lt hwhole.isDigit hlength
    refine .int _ ?_
    cases negative with
    | false => exact hlt
    | true =>
      rw [withSign, if_pos rfl, Int.natAbs_neg]
      exact hlt
  | decimal hwhole hfraction hexponent hparts => exact .decimal _

/-! ## Values -/

/-- A value with a text has only numbers of at most 4300 digits. -/
theorem Spells.bounded {text : List Char} {value : Json} (h : Spells text value) : Bounded value := by
  induction h with
  | scalar h =>
    cases h with
    | null => exact .null
    | bool b => exact .bool b
    | notANumber | infinite => exact .decimal _
    | number h | negativeNumber h => exact h.bounded
  | str h => exact .str _
  | emptyArr hblanks => exact .arr [] nofun
  | arr hne h ih => exact .arr _ (List.forall_mem_map.mpr ih)
  | emptyObj hblanks => exact .obj [] nofun
  | obj hne h ih =>
    refine .obj _ fun member hmember => ?_
    obtain ⟨slot, hslot, rfl⟩ := List.mem_map.mp (mem_of_mem_entered hmember)
    exact ih slot hslot

/-- The JSON of a body is that of a text. -/
theorem exists_read_of_json {body : Network.Body} {value : Json} (h : body.json = .ok value) :
    ∃ text, read text = .ok value := by
  unfold Network.Body.json at h
  split at h
  case h_1 => cases h
  case h_2 points hmarked =>
    dsimp only at h
    split at h
    case h_2 => cases h
    case h_1 shown hshown =>
      obtain rfl := Except.ok.inj h
      cases hspelt : read (points.flatMap Network.Body.jsonPoint) with
      | ok spelt => exact ⟨_, hspelt⟩
      | error problem => exact ⟨_, hshown⟩

/-- What is read of a body has only numbers of at most 4300 digits. -/
theorem bounded_of_json {body : Network.Body} {value : Json} (h : body.json = .ok value) : Bounded value := by
  obtain ⟨text, hread⟩ := exists_read_of_json h
  obtain ⟨slot, hspelt, -, rfl⟩ := read_eq_ok_iff.mp hread
  exact hspelt.bounded

end Showcase.Json
