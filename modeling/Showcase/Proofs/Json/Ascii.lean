import Showcase.Proofs.Json.RoundTrip
import Showcase.Proofs.Text.Split

/-!
# Values in ASCII

The spaced style writes a value that travels with characters of ASCII only: a character beyond ASCII is written as the
escapes of its code units.
-/

namespace Showcase.Json

/-! ## Literals -/

theorem ascii_hexDigits (width n : Nat) : ∀ c ∈ Text.hexDigits width n, c.toNat < 128 := by
  induction width generalizing n with
  | zero => exact nofun
  | succ width ih =>
    have hdigit : ∀ d < 16, (Text.hexDigit d).toNat < 128 := by decide
    intro c hc
    rcases List.mem_append.mp hc with hbefore | hlast
    · exact ih _ c hbefore
    · rw [List.mem_singleton.mp hlast]
      exact hdigit _ (Nat.mod_lt _ (by decide))

theorem ascii_unicodeEscape (unit : Nat) : ∀ c ∈ unicodeEscape unit, c.toNat < 128 :=
  List.forall_mem_cons.mpr ⟨by decide, List.forall_mem_cons.mpr ⟨by decide, ascii_hexDigits 4 unit⟩⟩

theorem ascii_escapeChar (c : Char) : ∀ d ∈ escapeChar true c, d.toNat < 128 := by
  -- the escapes of ASCII are few, and beyond it there are escapes of code units only
  by_cases hascii : c.toNat < 127
  · have hall : ∀ n < 127, (escapeChar true (Char.ofNat n)).all (·.toNat < 128) = true := by decide
    rw [← Char.ofNat_toNat c]
    exact Text.forall_mem_of_all (hall c.toNat hascii)
  · rw [escapeChar_beyond (Nat.not_lt.mp hascii)]
    intro d hd
    obtain ⟨unit, -, hunit⟩ := List.mem_flatMap.mp hd
    exact ascii_unicodeEscape unit d hunit

theorem ascii_escapePoint (point : Nat) : ∀ c ∈ escapePoint true point, c.toNat < 128 := by
  unfold escapePoint
  split
  · exact ascii_unicodeEscape point
  · exact ascii_escapeChar _

theorem ascii_writeString (s : JsonString) : ∀ c ∈ writeString true s, c.toNat < 128 := by
  intro c hc
  simp only [writeString_eq, List.cons_append, List.mem_cons, List.mem_append, List.mem_flatMap, List.not_mem_nil,
    or_false] at hc
  obtain rfl | ⟨point, -, hpoint⟩ | rfl := hc
  · decide
  · exact ascii_escapePoint point c hpoint
  · decide

theorem ascii_toString (n : Int) : ∀ c ∈ (toString n).toList, c.toNat < 128 := by
  have hdigits : ∀ c ∈ Nat.toDigits 10 n.natAbs, c.toNat < 128 := by
    intro c hc
    have hcode := toNat_of_isDigit (isDigit_toDigits _ c hc)
    omega
  rw [toList_toString]
  split
  · exact List.forall_mem_cons.mpr ⟨by decide, hdigits⟩
  · exact hdigits

/-! ## Values -/

variable {style : Style} {c : Char}

/-- A character of an array's text belongs to an item, or to what stands between two items. -/
theorem mem_writeItems {items : List Json} (hc : c ∈ writeItems style items) :
    c ∈ style.betweenItems.toList ∨ ∃ item ∈ items, c ∈ item.write style := by
  induction items with
  | nil => cases hc
  | cons item others ih =>
    cases others with
    | nil =>
      rw [writeItems_last] at hc
      exact .inr ⟨item, List.mem_cons_self, hc⟩
    | cons second others =>
      rw [writeItems_more] at hc
      rcases List.mem_append.mp hc with hbefore | hlater
      · exact (List.mem_append.mp hbefore).elim (fun hitem => .inr ⟨item, List.mem_cons_self, hitem⟩) .inl
      · exact (ih hlater).imp id fun ⟨other, hother, hmem⟩ => ⟨other, List.mem_cons_of_mem item hother, hmem⟩

/-- A character of an object's text belongs to a name, to a value, or to what stands between them. -/
theorem mem_writeMembers {members : List (JsonString × Json)} (hc : c ∈ writeMembers style members) :
    c ∈ style.betweenItems.toList ∨ c ∈ style.afterName.toList ∨
      ∃ member ∈ members, c ∈ writeString style.asciiOnly member.1 ∨ c ∈ member.2.write style := by
  induction members with
  | nil => cases hc
  | cons member others ih =>
    have hfirst : c ∈ writeString style.asciiOnly member.1 ++ style.afterName.toList ++ member.2.write style →
        c ∈ style.betweenItems.toList ∨ c ∈ style.afterName.toList ∨ ∃ entry ∈ member :: others,
          c ∈ writeString style.asciiOnly entry.1 ∨ c ∈ entry.2.write style := by
      intro hmem
      rcases List.mem_append.mp hmem with hname | hvalue
      · exact (List.mem_append.mp hname).elim
          (fun hwritten => .inr (.inr ⟨member, List.mem_cons_self, .inl hwritten⟩)) fun hcolon => .inr (.inl hcolon)
      · exact .inr (.inr ⟨member, List.mem_cons_self, .inr hvalue⟩)
    cases others with
    | nil =>
      rw [writeMembers_last] at hc
      exact hfirst hc
    | cons second others =>
      rw [writeMembers_more] at hc
      rcases List.mem_append.mp hc with hbefore | hlater
      · exact (List.mem_append.mp hbefore).elim hfirst .inl
      · exact (ih hlater).imp id
          (.imp id fun ⟨other, hother, hmem⟩ => ⟨other, List.mem_cons_of_mem member hother, hmem⟩)

/-- The spaced style writes nothing beyond ASCII. -/
theorem Travels.ascii_write {value : Json} (h : Travels value) : ∀ c ∈ value.write .spaced, c.toNat < 128 := by
  -- beside the texts there are only the marks of the style, whose characters can be looked at one by one
  have hcomma : ∀ c ∈ Style.spaced.betweenItems.toList, c.toNat < 128 := Text.forall_mem_of_all (by decide)
  have hcolon : ∀ c ∈ Style.spaced.afterName.toList, c.toNat < 128 := Text.forall_mem_of_all (by decide)
  induction h with
  | null =>
    rw [write_null]
    exact Text.forall_mem_of_all (by decide)
  | bool b =>
    rw [write_bool]
    cases b with
    | true => exact Text.forall_mem_of_all (by decide)
    | false => exact Text.forall_mem_of_all (by decide)
  | int n hsize =>
    rw [write_int]
    exact ascii_toString n
  | str s =>
    rw [write_str]
    exact ascii_writeString s
  | arr items hitems ih =>
    intro c hc
    simp only [write_array, List.cons_append, List.mem_cons, List.mem_append, List.not_mem_nil, or_false] at hc
    obtain rfl | hitem | rfl := hc
    · decide
    · rcases mem_writeItems hitem with hbetween | ⟨item, hmem, hwritten⟩
      · exact hcomma c hbetween
      · exact ih item hmem c hwritten
    · decide
  | obj members hnames hvalues ih =>
    intro c hc
    simp only [write_object, List.cons_append, List.mem_cons, List.mem_append, List.not_mem_nil, or_false] at hc
    obtain rfl | hmember | rfl := hc
    · decide
    · rcases mem_writeMembers hmember with hbetween | hafter | ⟨member, hmem, hname | hvalue⟩
      · exact hcomma c hbetween
      · exact hcolon c hafter
      · exact ascii_writeString member.1 c hname
      · exact ih member hmem c hvalue
    · decide

end Showcase.Json
