import Showcase.Failure
import Showcase.Proofs.Json.Size
import Showcase.Record.Field

/-!
# What is known of a field that was read

A record is read when each of its fields is. A string is read from just that, and a text from what shows it; a whole number
has at most 4300 digits, however it was given: as a number of a read body, as a double without fraction, or as digits in a
text.
-/

namespace Showcase

/-! ## Records -/

namespace Checked

variable {α β : Type}

@[simp] theorem field_eq_ok {make : Checked (α → β)} {value : Checked α} {result : β} :
    make.field value = .ok result ↔ ∃ f x, make = .ok f ∧ value = .ok x ∧ f x = result := by
  cases make <;> cases value <;> simp [field]

@[simp] theorem under_eq_ok {step : Step} {value : Checked α} {result : α} :
    value.under step = .ok result ↔ value = .ok result := by
  cases value <;> simp [under]

@[simp] theorem record_eq_ok {make result : α} : record make = .ok result ↔ make = result := by
  simp [record]

@[simp] theorem fault_ne_ok {fault : Fault} {result : α} : Checked.fault fault ≠ .ok result := by
  simp [Checked.fault]

end Checked

@[simp] theorem Fallible.ofChecked_eq_ok {α : Type} {record : String} {value : Checked α} {result : α} :
    Fallible.ofChecked record value = .ok result ↔ value = .ok result := by
  cases value <;> simp [Fallible.ofChecked]

/-! ## Texts and null -/

namespace Json

/-- What a string or null shows. -/
def optionalText? : Json → Option (Option String)
  | .null => some none
  | value => value.text?.map some

@[simp] theorem text?_ofString (s : String) : (ofString s).text? = some s := rfl

theorem isSome_text? {value : Json} : (∃ s, value.text? = some s) ↔ ∃ s, value = .str s := by
  cases value <;> simp [text?]

/-- Only a text shows what has no replacement character in it. -/
theorem text?_eq_some_iff {value : Json} {s : String} (h : Text.replacementChar ∉ s.toList) :
    value.text? = some s ↔ value = .ofString s := by
  refine ⟨fun hshown => ?_, fun hvalue => hvalue ▸ rfl⟩
  rcases value with _ | _ | _ | _ | ⟨_ | ⟨points, hpoints⟩⟩ | _ | _
  case str.text => exact congrArg ofString (Option.some.inj hshown)
  case str.unpaired =>
    obtain ⟨point, hmem, hhalf⟩ := hpoints.half
    refine absurd ?_ h
    rw [← Option.some.inj hshown, JsonString.shown, String.toList_ofList, List.mem_map]
    exact ⟨point, hmem, if_pos hhalf⟩
  all_goals cases hshown

@[simp] theorem optionalText?_ofOption (s : Option String) : (ofOption s).optionalText? = some s := by
  cases s <;> rfl

end Json

namespace Field

theorem string_eq_ok {value : Json} {s : JsonString} : string value = .ok s ↔ value = .str s := by
  cases value <;> simp [string, Checked.fault]

theorem text_eq_ok {value : Json} {s : String} : text value = .ok s ↔ value.text? = some s := by
  cases value <;> simp [text, string, Json.text?, Checked.fault, Except.map]

@[simp] theorem text_ofString (s : String) : text (.ofString s) = .ok s := rfl

theorem nullable_eq_ok {α : Type} {read : Json → Checked α} {value : Json} {result : Option α} :
    nullable read value = .ok result ↔
      (value = .null ∧ result = none) ∨ (value ≠ .null ∧ ∃ x, read value = .ok x ∧ result = some x) := by
  cases value with
  | null => simp [nullable, eq_comm]
  | bool | int | decimal | str | arr | obj =>
    simp only [nullable, reduceCtorEq, false_and, ne_eq, not_false_eq_true, true_and, false_or]
    generalize read _ = reading
    cases reading <;> simp [Except.map, eq_comm]

theorem nullable_text_eq_ok {value : Json} {result : Option String} :
    nullable text value = .ok result ↔ value.optionalText? = some result := by
  simp only [nullable_eq_ok, text_eq_ok]
  cases value with
  | null => simp [Json.optionalText?, eq_comm]
  | bool | int | decimal | str | arr | obj => simp [Json.optionalText?, eq_comm]

@[simp] theorem nullable_text_ofOption (s : Option String) : nullable text (.ofOption s) = .ok s := by
  cases s <;> rfl

/-! ## Choices and members -/

theorem choice_eq_ok {α : Type} {choices : List (String × α)} {value : Json} {chosen : α} :
    choice choices value = .ok chosen ↔ ∃ word, value = .ofString word ∧ choices.lookup word = some chosen := by
  cases value with
  | str literal =>
    cases literal with
    | text word =>
      have hword : ∀ other, Json.str (.text word) = .ofString other ↔ word = other := by simp [Json.ofString]
      simp only [choice, hword, exists_eq_left']
      cases choices.lookup word <;> simp
    | unpaired points h => simp [choice, Json.ofString]
  | null | bool | int | decimal | arr | obj => simp [choice, Json.ofString]

theorem required_eq_ok {α : Type} {members : List (JsonString × Json)} {name : String} {read : Json → Checked α}
    {result : α} : required members name read = .ok result ↔
      ∃ value, Json.member? members name = some value ∧ read value = .ok result := by
  unfold required
  cases Json.member? members name <;> simp

/-! ## Fields that are read from what they are written as -/

section

variable {α : Type} {read : Json → Checked α} {write : α → Json}

theorem items_eq_ok (hread : ∀ value x, read value = .ok x ↔ value = write x) {index : Nat} {values : List Json}
    {result : List α} : items read index values = .ok result ↔ values = result.map write := by
  induction values generalizing index result with
  | nil => simp [items, eq_comm]
  | cons value others ih =>
    simp only [items, Checked.field_eq_ok, Checked.record_eq_ok, Checked.under_eq_ok, hread, ih]
    constructor
    · rintro ⟨_, rest, ⟨_, first, rfl, rfl, rfl⟩, rfl, rfl⟩
      rfl
    · intro hvalues
      cases result with
      | nil => cases hvalues
      | cons first rest =>
        obtain ⟨rfl, rfl⟩ := List.cons.inj hvalues
        exact ⟨_, rest, ⟨_, first, rfl, rfl, rfl⟩, rfl, rfl⟩

theorem list_eq_ok (hread : ∀ value x, read value = .ok x ↔ value = write x) {value : Json} {result : List α} :
    list read value = .ok result ↔ value = .arr (result.map write) := by
  cases value with
  | arr values => rw [list, items_eq_ok hread, Json.arr.injEq]
  | null | bool | int | decimal | str | obj => simp [list]

/-- A field with a default is read if what is there in its place, or else the default, is what is written of it. -/
theorem withDefault_eq_ok (hread : ∀ value x, read value = .ok x ↔ value = write x)
    {members : List (JsonString × Json)} {name : String} {default result : α} :
    withDefault members name default read = .ok result ↔
      (Json.member? members name).getD (write default) = write result := by
  unfold withDefault
  cases Json.member? members name with
  | none =>
    -- nothing is written of two values
    rw [Option.getD_none, ← hread, (hread _ default).mpr rfl]
  | some value => rw [Checked.under_eq_ok, hread, Option.getD_some]

theorem nullable_eq_ok_iff (hread : ∀ value x, read value = .ok x ↔ value = write x) (hnull : ∀ x, write x ≠ .null)
    {value : Json} {result : Option α} : nullable read value = .ok result ↔ value = (result.map write).getD .null := by
  rw [nullable_eq_ok]
  constructor
  · rintro (⟨rfl, rfl⟩ | ⟨-, x, hx, rfl⟩)
    · rfl
    · exact (hread _ x).mp hx
  · rintro rfl
    cases result with
    | none => exact .inl ⟨rfl, rfl⟩
    | some x => exact .inr ⟨hnull x, x, (hread _ x).mpr rfl, rfl⟩

/-- A field that may be absent is read if what is there in its place, or null, is what is written of it. -/
theorem optional_eq_ok (hread : ∀ value x, read value = .ok x ↔ value = write x) (hnull : ∀ x, write x ≠ .null)
    {members : List (JsonString × Json)} {name : String} {result : Option α} :
    optional members name read = .ok result ↔
      (Json.member? members name).getD .null = (result.map write).getD .null :=
  withDefault_eq_ok fun _ _ => nullable_eq_ok_iff hread hnull

end

theorem optional_string_eq_ok {members : List (JsonString × Json)} {name : String} {result : Option JsonString} :
    optional members name string = .ok result ↔ (Json.member? members name).getD .null = .ofNullable result :=
  optional_eq_ok (fun _ _ => string_eq_ok) fun _ => nofun

theorem entries_eq_ok {members : List (JsonString × Json)} {result : List (JsonString × JsonString)} :
    entries members = .ok result ↔ members = result.map fun entry => (entry.1, .str entry.2) := by
  induction members generalizing result with
  | nil => cases result <;> simp [entries]
  | cons member others ih =>
    simp only [entries, Checked.field_eq_ok, Checked.record_eq_ok, Checked.under_eq_ok, string_eq_ok, ih]
    constructor
    · rintro ⟨_, rest, ⟨_, first, rfl, hfirst, rfl⟩, rfl, rfl⟩
      rw [List.map_cons, ← hfirst]
    · intro hmembers
      cases result with
      | nil => cases hmembers
      | cons entry rest =>
        obtain ⟨rfl, rfl⟩ := List.cons.inj hmembers
        exact ⟨_, rest, ⟨_, entry.2, rfl, rfl, rfl⟩, rfl, rfl⟩

theorem stringTable_eq_ok {value : Json} {result : List (JsonString × JsonString)} :
    stringTable value = .ok result ↔ value = .ofEntries result := by
  cases value with
  | obj members => rw [stringTable, entries_eq_ok, Json.ofEntries, Json.obj.injEq]
  | null | bool | int | decimal | str | arr => simp [stringTable, Json.ofEntries]

/-! ## Whole numbers -/

theorem natAbs_signed (negative : Bool) (n : Nat) : (if negative then -(n : Int) else (n : Int)).natAbs = n := by
  cases negative with
  | true => exact Int.natAbs_neg n
  | false => rfl

theorem natAbs_lt_of_fewer {n : Int} {few digits : Nat} (hn : n.natAbs < 10 ^ few) (hfew : few ≤ digits) :
    n.natAbs < 10 ^ digits :=
  Nat.lt_of_lt_of_le hn (Nat.pow_le_pow_right (by decide) hfew)

theorem digitsBehind_lt {negative : Bool} {s : List Char} {n : Int} (h : digitsBehind negative s = .ok n) :
    n.natAbs < 10 ^ 4300 := by
  unfold digitsBehind at h
  dsimp only at h
  split at h
  · cases h
    exact natAbs_lt_of_fewer (show _ < 10 ^ 1 by decide) (by decide)
  · split at h
    · cases h
    · split at h
      · cases h
      · rename_i hsize
        split at h
        · cases h
        · cases h
          have hdigits : ∀ c ∈ s.takeWhile Text.isDigit, Text.isDigit c = true := fun _ hc => List.mem_takeWhile_imp hc
          have hlt := Json.decimalNumber_lt hdigits (Nat.le_trans (Nat.le_add_right _ _) (Nat.not_lt.mp hsize))
          exact Nat.lt_of_le_of_lt (Nat.le_of_eq (natAbs_signed _ _)) hlt

/-- What is read from digits has at most as many digits as may be read. -/
theorem numeral_lt {s : List Char} {n : Int} (h : numeral s = .ok n) : n.natAbs < 10 ^ 4300 := by
  unfold numeral at h
  split at h <;> exact digitsBehind_lt h

theorem wholeOfText_lt {s : List Char} {n : Int} (h : wholeOfText s = .ok n) : n.natAbs < 10 ^ 4300 := by
  unfold wholeOfText at h
  split at h
  · rename_i hnumeral
    cases h
    exact numeral_lt hnumeral
  · cases h
  · split at h
    · rename_i hcleaned
      cases h
      obtain ⟨cleaned, -, hnumeral⟩ := Option.map_eq_some_iff.mp hcleaned
      exact numeral_lt hnumeral
    · cases h

theorem wholeOfDouble_lt {x : Double} {n : Int} (h : wholeOfDouble x = .ok n) : n.natAbs < 10 ^ 4300 := by
  unfold wholeOfDouble at h
  split at h
  · cases h
  · split at h
    · cases h
    · dsimp only at h
      split at h
      · rename_i hsize
        cases h
        have hn : (x.truncated?.getD 0).natAbs < 10 ^ 19 := Nat.lt_trans hsize (by decide)
        exact natAbs_lt_of_fewer hn (by decide)
      · cases h

/-- A whole number of a record that was read from a body has at most 4300 digits. -/
theorem whole_lt {value : Json} (hvalue : value.Bounded) {n : Int} (h : whole value = .ok n) :
    n.natAbs < 10 ^ 4300 := by
  cases hvalue with
  | int n hsize =>
    cases h
    exact hsize
  | bool b =>
    -- a truth value counts as one or zero
    have hn : n.natAbs < 10 ^ 1 := by
      cases b <;> cases h <;> decide
    exact natAbs_lt_of_fewer hn (by decide)
  | decimal d => exact wholeOfDouble_lt h
  | str s =>
    cases s with
    | text s => exact wholeOfText_lt h
    | unpaired points hpoints => cases h
  | null => cases h
  | arr items hitems => cases h
  | obj members hvalues => cases h

end Field

end Showcase
