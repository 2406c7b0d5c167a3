import Showcase.Network.Body
import Showcase.Proofs.Json.Literal
import Showcase.Proofs.Json.Reading
import Showcase.Proofs.Text.Utf8

/-!
# Values that travel

A value that is spelt legibly is read back as it was, and so is the value of a body, as long as its numbers are whole and
have at most 4300 digits, and its objects name no member twice. Strings come back whether they are texts or not.
-/

namespace Showcase.Json

/-- A value that is read back as it was written. -/
inductive Travels : Json → Prop where
  | null : Travels .null
  | bool (b : Bool) : Travels (.bool b)
  | int (n : Int) (hsize : n.natAbs < 10 ^ 4300) : Travels (.int n)
  | str (s : JsonString) : Travels (.str s)
  | arr (items : List Json) (hitems : ∀ item ∈ items, Travels item) : Travels (.arr items)
  | obj (members : List (JsonString × Json)) (hnames : (members.map Prod.fst).Nodup)
      (hvalues : ∀ member ∈ members, Travels member.2) : Travels (.obj members)

theorem Travels.text (s : String) : Travels (.ofString s) := .str s

theorem Travels.ofOption (s : Option String) : Travels (.ofOption s) := by
  cases s with
  | none => exact .null
  | some s => exact .text s

theorem Travels.ofNullable (s : Option JsonString) : Travels (.ofNullable s) := by
  cases s with
  | none => exact .null
  | some s => exact .str s

theorem Travels.ofMembers {members : List (String × Json)} (hnames : (members.map Prod.fst).Nodup)
    (hvalues : ∀ member ∈ members, Travels member.2) : Travels (.ofMembers members) := by
  refine .obj _ ?_ ?_
  · rw [List.map_map, show Prod.fst ∘ (fun m : String × Json => (JsonString.text m.1, m.2)) =
      JsonString.text ∘ Prod.fst from rfl, ← List.map_map]
    exact List.Pairwise.map JsonString.text (fun a b hne h => hne (JsonString.text.inj h)) hnames
  · intro member hmember
    rcases List.mem_map.mp hmember with ⟨given, hgiven, rfl⟩
    exact hvalues given hgiven

/-! ## Numbers -/

theorem toList_toString (n : Int) :
    (toString n).toList = if n < 0 then '-' :: Nat.toDigits 10 n.natAbs else Nat.toDigits 10 n.natAbs := by
  cases n with
  | ofNat n => simp [toString, Int.repr, Nat.toList_repr]
  | negSucc n => simp [toString, Int.repr, Nat.toList_repr, Int.natAbs]

theorem toDigits_head (n : Nat) : ∃ c digits, Nat.toDigits 10 n = c :: digits ∧ Text.isDigit c = true := by
  rcases List.exists_cons_of_ne_nil (Nat.toDigits_ne_nil (n := n) (b := 10)) with ⟨c, digits, hdigits⟩
  exact ⟨c, digits, hdigits, isDigit_toDigits n c (by simp [hdigits])⟩

theorem spellsScalar_toString {n : Int} (hsize : n.natAbs < 10 ^ 4300) : SpellsScalar (toString n).toList (.int n) := by
  rw [toList_toString]
  split
  · have hnumber := SpellsScalar.negativeNumber (spellsNumber_toDigits true hsize)
    rwa [withSign, if_pos rfl, show -(n.natAbs : Int) = n by omega] at hnumber
  · have hnumber := SpellsScalar.number (spellsNumber_toDigits false hsize)
    rwa [withSign, if_neg Bool.false_ne_true, show (n.natAbs : Int) = n by omega] at hnumber

/-! ## Parts of a value as they are spelt -/

theorem escapePoint_toNat (asciiOnly : Bool) (c : Char) : escapePoint asciiOnly c.toNat = escapeChar asciiOnly c := by
  rw [escapePoint, if_neg (by simp [(toNat_char c).1]), Char.ofNat_toNat]

theorem writeString_eq (asciiOnly : Bool) (s : JsonString) :
    writeString asciiOnly s = '"' :: s.points.flatMap (escapePoint asciiOnly) ++ ['"'] := by
  cases s with
  | text s => simp only [writeString, JsonString.points, List.flatMap_map, escapePoint_toNat]
  | unpaired points h => rfl

section

variable {spelling : Spelling} (h : spelling.IsLegible)
include h

theorem spell_null : spell spelling .null = "null".toList := by
  rw [spell, write_null]
  exact h.respelt (by decide)

theorem spell_bool (b : Bool) : spell spelling (.bool b) = (if b then "true" else "false").toList := by
  rw [spell, write_bool]
  cases b with
  | true => exact h.respelt (by decide)
  | false => exact h.respelt (by decide)

theorem spell_int (n : Int) : spell spelling (.int n) = (toString n).toList := by
  have hdigits : '<' ∉ Nat.toDigits 10 n.natAbs := fun hmem => absurd (isDigit_toDigits _ _ hmem) (by decide)
  rw [spell, write_int]
  refine h.respelt ?_
  rw [toList_toString]
  split <;> simp [hdigits]

/-- A literal is spelt code point by code point between its quotes. -/
theorem respelt_writeString (s : JsonString) :
    (writeString spelling.style.asciiOnly s).flatMap spelling.respell =
      '"' :: (s.points.flatMap (spellPoint spelling) ++ ['"']) := by
  have hquote : spelling.respell '"' = ['"'] := h.respell_of_ne '"' (by decide)
  simp only [writeString_eq, List.flatMap_append, List.flatMap_cons, List.flatMap_nil, hquote, List.flatMap_assoc,
    List.append_nil, List.cons_append]
  rfl

theorem spell_arr (items : List Json) : spell spelling (.arr items) = '[' :: (spellItems spelling items ++ [']']) := by
  have hopening : spelling.respell '[' = ['['] := h.respell_of_ne _ (by decide)
  have hclosing : spelling.respell ']' = [']'] := h.respell_of_ne _ (by decide)
  simp [spell, spellItems, write_array, hopening, hclosing]

theorem spell_obj (members : List (JsonString × Json)) :
    spell spelling (.obj members) = '\x7b' :: (spellMembers spelling members ++ ['\x7d']) := by
  have hopening : spelling.respell '\x7b' = ['\x7b'] := h.respell_of_ne _ (by decide)
  have hclosing : spelling.respell '\x7d' = ['\x7d'] := h.respell_of_ne _ (by decide)
  simp [spell, spellMembers, write_object, hopening, hclosing]

theorem spellItems_more (item second : Json) (others : List Json) :
    spellItems spelling (item :: second :: others) =
      item.spell spelling ++ (spelling.style.betweenItems.toList ++ spellItems spelling (second :: others)) := by
  rw [spellItems, writeItems_more, List.flatMap_append, List.flatMap_append, h.respelt_mark h.comma (by decide),
    List.append_assoc]
  rfl

theorem spellMembers_last (name : JsonString) (value : Json) (rest : List Char) :
    spellMembers spelling [(name, value)] ++ rest =
      '"' :: (name.points.flatMap (spellPoint spelling) ++ '"' ::
        (spelling.style.afterName.toList ++ (value.spell spelling ++ rest))) := by
  rw [spellMembers, writeMembers_last, List.flatMap_append, List.flatMap_append, respelt_writeString h,
    h.respelt_mark h.colon (by decide)]
  simp [spell]

theorem spellMembers_more (name : JsonString) (value : Json) (second : JsonString × Json)
    (others : List (JsonString × Json)) (rest : List Char) :
    spellMembers spelling ((name, value) :: second :: others) ++ rest =
      '"' :: (name.points.flatMap (spellPoint spelling) ++ '"' ::
        (spelling.style.afterName.toList ++ (value.spell spelling ++
          (spelling.style.betweenItems.toList ++ (spellMembers spelling (second :: others) ++ rest))))) := by
  rw [spellMembers, writeMembers_more, List.flatMap_append, List.flatMap_append, List.flatMap_append,
    List.flatMap_append, respelt_writeString h, h.respelt_mark h.colon (by decide), h.respelt_mark h.comma (by decide)]
  simp [spell, spellMembers]

theorem spellMembers_head (member : JsonString × Json) (others : List (JsonString × Json)) (rest : List Char) :
    ∃ text, spellMembers spelling (member :: others) ++ rest = '"' :: text := by
  rcases member with ⟨name, value⟩
  cases others with
  | nil => exact ⟨_, spellMembers_last h name value rest⟩
  | cons second others => exact ⟨_, spellMembers_more h name value second others rest⟩

/-! ## Values as they are spelt -/

/-- Items that are spelt stand between commas, after any blanks. -/
theorem exists_slots {items : List Json} (hitems : ∀ item ∈ items, Spells (item.spell spelling) item) (hne : items ≠ [])
    {blanks : List Char} (hblanks : IsSpacing blanks) :
    ∃ slots : List Slot, slots ≠ [] ∧ (∀ slot ∈ slots, Spells slot.text slot.value) ∧
      listed (slots.map Slot.whole) = blanks ++ spellItems spelling items ∧ slots.map Slot.value = items := by
  induction items generalizing blanks with
  | nil => contradiction
  | cons item others ih =>
    obtain ⟨hitem, hothers⟩ := List.forall_mem_cons.mp hitems
    let slot : Slot := ⟨blanks, item.spell spelling, [], item, hblanks, isSpacing_nil⟩
    cases others with
    | nil =>
      refine ⟨[slot], by simp, by simpa using hitem, ?_, rfl⟩
      rw [List.map_singleton, listed_singleton, Slot.whole, List.append_nil, spellItems, writeItems_last]
      rfl
    | cons second others =>
      -- the blanks behind the comma stand before the next item
      obtain ⟨gap, hcomma, hgap⟩ := h.comma
      obtain ⟨slots, hsome, hslots, hlisted, hvalues⟩ := ih hothers (by simp) hgap
      refine ⟨slot :: slots, by simp, List.forall_mem_cons.mpr ⟨hitem, hslots⟩, ?_, by rw [List.map_cons, hvalues]⟩
      rw [List.map_cons, listed_cons _ (by simpa using hsome), hlisted, spellItems_more h, hcomma]
      simp [slot, Slot.whole]

/-- Members that are spelt stand between commas, after any blanks. -/
theorem exists_memberSlots {members : List (JsonString × Json)}
    (hvalues : ∀ member ∈ members, Spells (member.2.spell spelling) member.2) (hne : members ≠ [])
    {blanks : List Char} (hblanks : IsSpacing blanks) :
    ∃ slots : List MemberSlot, slots ≠ [] ∧ (∀ slot ∈ slots, Spells slot.text slot.value) ∧
      listed (slots.map MemberSlot.member) = blanks ++ spellMembers spelling members ∧
      slots.map MemberSlot.entry = members := by
  induction members generalizing blanks with
  | nil => contradiction
  | cons member others ih =>
    obtain ⟨hvalue, hothers⟩ := List.forall_mem_cons.mp hvalues
    obtain ⟨name, value⟩ := member
    obtain ⟨trail, hcolon, htrail⟩ := h.colon
    let slot : MemberSlot :=
      ⟨⟨trail, value.spell spelling, [], value, htrail, isSpacing_nil⟩, blanks, _, _, [], hblanks,
        spellsUnits_spelt h name, isSpacing_nil⟩
    have hentry : slot.entry = (name, value) := by
      rw [MemberSlot.entry, stringOfUnits_units]
    have hmember : slot.member = blanks ++ ('"' :: (name.points.flatMap (spellPoint spelling) ++ '"' ::
        (spelling.style.afterName.toList ++ value.spell spelling))) := by
      simp [slot, MemberSlot.member, Slot.whole, hcolon]
    -- the last member has no comma behind it, and the blanks behind a comma stand before the next one
    cases others with
    | nil =>
      have hlast := spellMembers_last h name value []
      rw [List.append_nil, List.append_nil] at hlast
      exact ⟨[slot], by simp, by simpa using hvalue, by rw [List.map_singleton, listed_singleton, hmember, hlast],
        by rw [List.map_singleton, hentry]⟩
    | cons second others =>
      obtain ⟨gap, hcomma, hgap⟩ := h.comma
      obtain ⟨slots, hsome, hslots, hlisted, hentries⟩ := ih hothers (by simp) hgap
      have hmore := spellMembers_more h name value second others []
      rw [List.append_nil, List.append_nil] at hmore
      refine ⟨slot :: slots, by simp, List.forall_mem_cons.mpr ⟨hvalue, hslots⟩, ?_, ?_⟩
      · rw [List.map_cons, listed_cons _ (by simpa using hsome), hlisted, hmember, hmore, hcomma]
        simp
      · rw [List.map_cons, hentry, hentries]

/-- What is spelt of a value that travels is a text of it. -/
theorem Travels.spells {value : Json} (hvalue : Travels value) : Spells (value.spell spelling) value := by
  induction hvalue with
  | null =>
    rw [spell_null h]
    exact .scalar .null
  | bool b =>
    rw [spell_bool h]
    exact .scalar (.bool b)
  | int n hsize =>
    rw [spell_int h]
    exact .scalar (spellsScalar_toString hsize)
  | str s =>
    have hspelt := Spells.str (spellsUnits_spelt h s)
    rwa [stringOfUnits_units, ← respelt_writeString h, ← write_str] at hspelt
  | arr items hitems ih =>
    rw [spell_arr h]
    by_cases hne : items = []
    · subst hne
      exact .emptyArr isSpacing_nil
    · obtain ⟨slots, hsome, hslots, hlisted, rfl⟩ := exists_slots h ih hne isSpacing_nil
      rw [← List.nil_append (spellItems spelling _), ← hlisted]
      exact .arr hsome hslots
  | obj members hnames hvalues ih =>
    rw [spell_obj h]
    by_cases hne : members = []
    · subst hne
      exact .emptyObj isSpacing_nil
    · obtain ⟨slots, hsome, hslots, hlisted, hentries⟩ := exists_memberSlots h ih hne isSpacing_nil
      have hspelt := Spells.obj hsome hslots
      rwa [hlisted, List.nil_append, hentries, entered_eq_self hnames] at hspelt

/-! ## Texts and bodies -/

/-- A value is read back from what is spelt of it. -/
theorem Travels.read_spell {value : Json} (hvalue : Travels value) : read (value.spell spelling) = .ok value :=
  read_eq_ok_iff.mpr (hvalue.spells h).isDocument

end

/-- A value is read back from what is written of it. -/
theorem Travels.read_write {value : Json} (h : Travels value) : read (value.write .compact) = .ok value := by
  rw [← spell_plain]
  exact h.read_spell Spelling.isLegible_plain

theorem map_shownPoint_toNat (chars : List Char) : (chars.map Char.toNat).map Text.shownPoint = chars := by
  have hshown (c : Char) : Text.shownPoint c.toNat = c := by
    rw [Text.shownPoint, if_neg (by rw [(toNat_char c).1]; decide), Char.ofNat_toNat]
  rw [List.map_map]
  exact List.map_id'' hshown chars

theorem flatMap_jsonPoint_toNat (chars : List Char) : (chars.map Char.toNat).flatMap Network.Body.jsonPoint = chars := by
  have hpoint (c : Char) : Network.Body.jsonPoint c.toNat = [c] := by
    rw [Network.Body.jsonPoint, if_neg (by rw [(toNat_char c).1]; decide), Char.ofNat_toNat]
  rw [List.flatMap_map, List.flatMap_congr fun c _ => hpoint c, List.flatMap_singleton']

/-- The JSON of bytes that are the text of characters is the JSON of the text. -/
theorem json_of_readMarked {body : Network.Body} {chars : List Char} {value : Json}
    (hmarked : Text.readMarked body.bytes = .ok (chars.map Char.toNat)) (hread : read chars = .ok value) :
    body.json = .ok value := by
  rw [Network.Body.json, hmarked]
  dsimp only
  rw [map_shownPoint_toNat, flatMap_jsonPoint_toNat, hread]
  rfl

/-- A value is read back from the body that it is sent as if what is written of it begins with a bracket or a brace and
another character of ASCII: they tell the reader that the encoding is UTF-8. -/
theorem Travels.json_of_bracket {value : Json} (h : Travels value) {a b : Char} {later : List Char}
    (htext : value.write .compact = a :: b :: later) (ha : a = '[' ∨ a = '\x7b')
    (hb : 0 < b.toNat ∧ b.toNat < 0x80) : (Network.Body.ofJson value).json = .ok value := by
  have hread := h.read_write
  rw [htext] at hread
  refine json_of_readMarked ?_ hread
  rw [Network.Body.ofJson, htext]
  exact Text.readMarked_utf8Bytes ha hb later

theorem write_object_head (member : JsonString × Json) (others : List (JsonString × Json)) :
    ∃ later, write .compact (.obj (member :: others)) = '\x7b' :: '"' :: later := by
  obtain ⟨later, hlater⟩ := spellMembers_head Spelling.isLegible_plain member others ['\x7d']
  exact ⟨later, by rw [← spell_plain, spell_obj Spelling.isLegible_plain, hlater]⟩

/-- An object that is not empty is read back from the body that it is sent as. -/
theorem Travels.json_ofJson {member : JsonString × Json} {others : List (JsonString × Json)}
    (h : Travels (.obj (member :: others))) :
    (Network.Body.ofJson (.obj (member :: others))).json = .ok (.obj (member :: others)) := by
  obtain ⟨later, hlater⟩ := write_object_head member others
  exact h.json_of_bracket hlater (.inr rfl) (by decide)

/-- A list that begins with an object that is not empty is read back from the body that it is sent as. -/
theorem Travels.json_ofJson_arr {member : JsonString × Json} {others : List (JsonString × Json)} {items : List Json}
    (h : Travels (.arr (.obj (member :: others) :: items))) :
    (Network.Body.ofJson (.arr (.obj (member :: others) :: items))).json =
      .ok (.arr (.obj (member :: others) :: items)) := by
  obtain ⟨later, hlater⟩ := write_object_head member others
  obtain ⟨text, htext⟩ : ∃ text, write .compact (.arr (.obj (member :: others) :: items)) = '[' :: '\x7b' :: text := by
    rw [write_array]
    cases items with
    | nil => exact ⟨_, by rw [writeItems_last, hlater]; rfl⟩
    | cons second items => exact ⟨_, by rw [writeItems_more, hlater]; rfl⟩
  exact h.json_of_bracket htext (.inl rfl) (by decide)

end Showcase.Json

namespace Showcase.Network.Body

/-- A text is read back from the body that it is sent as. -/
theorem text_ofText (s : String) : (ofText s).text = .ok (.text s) := by
  unfold text
  split
  · next hempty =>
    have hbytes : Text.utf8Bytes s = [] := List.isEmpty_iff.mp hempty
    have hchars := Text.lenientUtf8_utf8Bytes s
    rw [hbytes] at hchars
    rw [← String.ofList_toList (s := s), ← hchars]
    rfl
  · change Except.ok (JsonString.text (String.ofList (Text.lenientUtf8 (Text.utf8Bytes s)))) = _
    rw [Text.lenientUtf8_utf8Bytes, String.ofList_toList]

end Showcase.Network.Body
