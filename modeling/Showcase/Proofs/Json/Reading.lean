import Mathlib.Data.List.Induction
import Mathlib.Data.List.Nodup
import Showcase.Proofs.Json.Grammar
import Showcase.Proofs.Text.Split

/-!
# The reader and the texts

What is read is a JSON text, and every JSON text is read, as the value that it has. The fuel of the reader is never short:
it is as long as the text, and each step down to a part of a value leaves a character behind.

* `readsTexts` — what is read of a value, of items and of members is a text of them.
* `Spells.readsBack` — the text of a value is read as it.
* `read_eq_ok_iff` — both of it, for whole texts.
-/

namespace Showcase.Json

/-! ## Strings -/

section

variable {text rest body : List Char} {units : List Nat}

/-- What is read of a string literal up to its closing quote spells the code units that are handed out. -/
theorem of_readStringBody {opening : Nat} (h : readStringBody opening text = .ok (units, rest)) :
    ∃ body, SpellsUnits body units ∧ text = body ++ '"' :: rest := by
  fun_induction readStringBody opening text generalizing units rest with
  | case2 => -- the closing quote
    cases h
    exact ⟨[], .nil, rfl⟩
  | case5 a b c d e later unit hunit others after hread ih =>
    cases h
    obtain ⟨body, hspelt, hrest⟩ := ih hread
    exact ⟨_, .unicode hunit hspelt, by simp [hrest]⟩
  | case9 name later hlong hname code hcode others after hread ih =>
    cases h
    obtain ⟨body, hspelt, rfl⟩ := ih hread
    exact ⟨_, .short hcode hspelt, rfl⟩
  | case12 c later hquote hends hlong hunicode hescape hcontrol others after hread ih =>
    cases h
    obtain ⟨body, hspelt, hlater⟩ := ih hread
    refine ⟨c :: body, .plain hquote ?_ (Nat.not_lt.mp hcontrol) hspelt, by rw [hlater, List.cons_append]⟩
    -- a backslash is never the last character, and it begins an escape before another one
    rintro rfl
    cases later with
    | nil => exact hends rfl rfl
    | cons next others => exact hescape next others rfl rfl
  | case1 | case3 | case4 | case6 | case7 | case8 | case10 | case11 | case13 => cases h

/-- A string literal is read up to its closing quote. -/
theorem SpellsUnits.readStringBody (h : SpellsUnits body units) (opening : Nat) (rest : List Char) :
    readStringBody opening (body ++ '"' :: rest) = .ok (units, rest) := by
  induction h with
  | nil => rfl
  | plain hquote hescape hcontrol h ih =>
    rw [List.cons_append, Json.readStringBody, if_neg (Nat.not_lt.mpr hcontrol), ih]
    all_goals intros; contradiction
  | @short name code _ _ hname h ih =>
    have hu : name ≠ 'u' := by
      rintro rfl
      cases hname
    rw [List.cons_append, List.cons_append, Json.readStringBody, hname, ih]
    all_goals intros; contradiction
  | unicode hunit h ih =>
    -- a quote follows at least, so there is a character behind the digits
    obtain ⟨e, later, hlater⟩ := List.exists_cons_of_ne_nil (l := _ ++ '"' :: rest) (by simp)
    simp only [List.cons_append]
    rw [hlater] at ih ⊢
    rw [Json.readStringBody, hunit, ih]

theorem of_readString {s : JsonString} (h : readString text = .ok (s, rest)) :
    ∃ body units, SpellsUnits body units ∧ text = body ++ '"' :: rest ∧ s = stringOfUnits units := by
  unfold readString at h
  split at h
  · rename_i units after hread
    cases h
    obtain ⟨body, hspelt, rfl⟩ := of_readStringBody hread
    exact ⟨body, units, hspelt, rfl, rfl⟩
  · cases h

theorem SpellsUnits.readString (h : SpellsUnits body units) (rest : List Char) :
    readString (body ++ '"' :: rest) = .ok (stringOfUnits units, rest) := by
  rw [Json.readString, h.readStringBody]

end

/-! ## Members by name -/

/-- A member that is entered takes the place of the one of its name, or the last place. -/
theorem putMember_map {names : List JsonString} (hnames : names.Nodup) (valueOf : JsonString → Json) (name : JsonString)
    (value : Json) : putMember name value (names.map fun known => (known, valueOf known)) =
      if name ∈ names then names.map fun known => (known, if known = name then value else valueOf known)
      else (names.map fun known => (known, valueOf known)) ++ [(name, value)] := by
  induction names with
  | nil => rfl
  | cons first names ih =>
    obtain ⟨hfirst, hnames⟩ := List.nodup_cons.mp hnames
    rw [List.map_cons, putMember]
    by_cases hname : first = name
    · subst hname
      have hothers : (names.map fun known => (known, if known = first then value else valueOf known)) =
          names.map fun known => (known, valueOf known) := by
        refine List.map_congr_left fun known hknown => ?_
        rw [if_neg]
        rintro rfl
        exact hfirst hknown
      rw [if_pos rfl, if_pos List.mem_cons_self, List.map_cons, hothers, if_pos rfl]
    · rw [if_neg hname, ih hnames, List.map_cons, if_neg hname]
      simp only [List.mem_cons, Ne.symm hname, false_or]
      split <;> rfl

theorem eraseDups_concat (names : List JsonString) (name : JsonString) :
    (names ++ [name]).eraseDups = if name ∈ names then names.eraseDups else names.eraseDups ++ [name] := by
  rw [List.eraseDups_append]
  split <;> rename_i hname <;> simp [List.removeAll, hname, List.eraseDups_cons]

theorem nodup_eraseDups (names : List JsonString) : names.eraseDups.Nodup := by
  induction names using List.reverseRecOn with
  | nil => exact List.nodup_nil
  | append_singleton names name ih =>
    rw [eraseDups_concat]
    split
    · exact ih
    · rename_i hname
      rw [← List.concat_eq_append]
      exact ih.concat fun hmem => hname (List.mem_eraseDups.mp hmem)

/-- The value that a name has last. -/
theorem lookup_reverse_concat (members : List (JsonString × Json)) (name : JsonString) (value : Json) (known : JsonString) :
    ((members ++ [(name, value)]).reverse.lookup known).getD .null =
      if known = name then value else (members.reverse.lookup known).getD .null := by
  rw [List.reverse_append, List.reverse_singleton, List.singleton_append, List.lookup_cons]
  by_cases hname : known = name
  · rw [if_pos hname, beq_iff_eq.mpr hname]
    rfl
  · rw [if_neg hname, beq_eq_false_iff_ne.mpr hname]

/-- What is entered after other members is entered among all of them. -/
theorem putMember_entered (members : List (JsonString × Json)) (name : JsonString) (value : Json) :
    putMember name value (entered members) = entered (members ++ [(name, value)]) := by
  rw [entered, entered, putMember_map (nodup_eraseDups _), List.map_append, List.map_singleton, eraseDups_concat]
  simp only [lookup_reverse_concat, List.mem_eraseDups]
  split
  · rfl
  · rename_i hname
    rw [List.map_append, List.map_singleton, if_pos rfl]
    -- the names before it are others
    congr 1
    refine List.map_congr_left fun known hknown => ?_
    rw [if_neg]
    rintro rfl
    exact hname (List.mem_eraseDups.mp hknown)

theorem putMember_of_new {name : JsonString} {known : List (JsonString × Json)} (value : Json)
    (hnew : name ∉ known.map Prod.fst) : putMember name value known = known ++ [(name, value)] := by
  induction known with
  | nil => rfl
  | cons member known ih =>
    rcases member with ⟨other, old⟩
    simp only [List.map_cons, List.mem_cons, not_or] at hnew
    rw [putMember, if_neg (Ne.symm hnew.1), ih hnew.2, List.cons_append]

/-- Members without a repeated name are all of the members by name. -/
theorem entered_eq_self {members : List (JsonString × Json)} (hnames : (members.map Prod.fst).Nodup) :
    entered members = members := by
  induction members using List.reverseRecOn with
  | nil => rfl
  | append_singleton members member ih =>
    obtain ⟨name, value⟩ := member
    rw [List.map_append, List.map_singleton, List.nodup_append] at hnames
    obtain ⟨hnames, -, hapart⟩ := hnames
    rw [← putMember_entered, ih hnames, putMember_of_new]
    exact fun hmem => hapart _ hmem _ List.mem_cons_self rfl

theorem mem_putMember {name : JsonString} {value : Json} {known : List (JsonString × Json)}
    {member : JsonString × Json} (h : member ∈ putMember name value known) : member = (name, value) ∨ member ∈ known := by
  induction known with
  | nil => exact .inl (List.mem_singleton.mp h)
  | cons first known ih =>
    obtain ⟨other, old⟩ := first
    rw [putMember] at h
    split at h
    · exact (List.mem_cons.mp h).imp_right (List.mem_cons_of_mem _)
    · rcases List.mem_cons.mp h with rfl | h
      · exact .inr List.mem_cons_self
      · exact (ih h).imp_right (List.mem_cons_of_mem _)

/-- No member by name is new. -/
theorem mem_of_mem_entered {members : List (JsonString × Json)} {member : JsonString × Json}
    (h : member ∈ entered members) : member ∈ members := by
  induction members using List.reverseRecOn with
  | nil => cases h
  | append_singleton members last ih =>
    rw [← putMember_entered] at h
    rcases mem_putMember h with rfl | h
    · exact List.mem_append_right _ List.mem_cons_self
    · exact List.mem_append_left _ (ih h)

/-- What has the text of an object is made of the members that are written in it. -/
theorem Spells.of_obj {text : List Char} {members : List (JsonString × Json)} (h : Spells text (.obj members)) :
    ∃ slots : List MemberSlot, (∀ slot ∈ slots, Spells slot.text slot.value) ∧
      members = entered (slots.map MemberSlot.entry) := by
  generalize hvalue : Json.obj members = value at h
  cases h with
  | scalar h => exact absurd hvalue.symm (h.ne_obj members)
  | emptyObj hblanks =>
    cases hvalue
    exact ⟨[], nofun, rfl⟩
  | @obj slots hne h =>
    cases hvalue
    exact ⟨slots, h, rfl⟩
  | str | emptyArr | arr => cases hvalue

/-- An object that is written has no name twice. -/
theorem Spells.nodup_names {text : List Char} {members : List (JsonString × Json)} (h : Spells text (.obj members)) :
    (members.map Prod.fst).Nodup := by
  obtain ⟨slots, -, rfl⟩ := h.of_obj
  have hnames := nodup_eraseDups ((slots.map MemberSlot.entry).map Prod.fst)
  rwa [entered, List.map_map, show Prod.fst ∘ (fun name : JsonString => (name, _)) = id from rfl, List.map_id]

/-- What is in an object that is written is written in it. -/
theorem Spells.exists_of_mem {text : List Char} {members : List (JsonString × Json)} (h : Spells text (.obj members))
    {member : JsonString × Json} (hmember : member ∈ members) : ∃ spelt, Spells spelt member.2 := by
  obtain ⟨slots, hslots, rfl⟩ := h.of_obj
  obtain ⟨slot, hslot, rfl⟩ := List.mem_map.mp (mem_of_mem_entered hmember)
  exact ⟨slot.text, hslots slot hslot⟩

/-! ## Blanks -/

theorem exists_spacing (text : List Char) : ∃ blanks, IsSpacing blanks ∧ text = blanks ++ skipSpace text :=
  ⟨text.takeWhile isSpace, fun _ hc => List.mem_takeWhile_imp hc, List.takeWhile_append_dropWhile.symm⟩

theorem skipSpace_cons {c : Char} (hc : isSpace c = false) (text : List Char) : skipSpace (c :: text) = c :: text := by
  simp [skipSpace, hc]

theorem skipSpace_append {blanks : List Char} (hblanks : IsSpacing blanks) (text : List Char) :
    skipSpace (blanks ++ text) = skipSpace text := List.dropWhile_append_of_pos hblanks

/-! ## What is read -/

/-- What the reader makes of a text with so much fuel is the value of a text at its head; of items and members, values of
places in it, up to what closes them. -/
structure ReadsTexts (fuel : Nat) : Prop where
  value : ∀ {text rest : List Char} {value : Json}, readValue fuel text = .ok (value, rest) →
    ∃ spelt, Spells spelt value ∧ text = spelt ++ rest
  items : ∀ {text rest : List Char} {items : List Json}, readItems fuel (skipSpace text) = .ok (items, rest) →
    ∃ slots : List Slot, slots ≠ [] ∧ (∀ slot ∈ slots, Spells slot.text slot.value) ∧
      text = listed (slots.map Slot.whole) ++ ']' :: rest ∧ items = slots.map Slot.value
  members : ∀ {before members : List (JsonString × Json)} {text rest : List Char},
    readMembers fuel (entered before) (skipSpace text) = .ok (members, rest) →
    ∃ slots : List MemberSlot, slots ≠ [] ∧ (∀ slot ∈ slots, Spells slot.text slot.value) ∧
      text = listed (slots.map MemberSlot.member) ++ '\x7d' :: rest ∧
      members = entered (before ++ slots.map MemberSlot.entry)

section

variable {fuel : Nat}

/-- With no fuel nothing is read. -/
theorem readsTexts_zero : ReadsTexts 0 where
  value h := by
    rw [readValue] at h
    cases h
  items h := by
    rw [readItems] at h
    cases h
  members h := by
    rw [readMembers] at h
    cases h

theorem ReadsTexts.value_succ (ih : ReadsTexts fuel) {text rest : List Char} {value : Json}
    (h : readValue (fuel + 1) text = .ok (value, rest)) : ∃ spelt, Spells spelt value ∧ text = spelt ++ rest := by
  rw [readValue.eq_def] at h
  split at h
  · cases h
  · -- a string literal
    split at h
    · rename_i hread
      cases h
      obtain ⟨body, units, hspelt, rfl, rfl⟩ := of_readString hread
      exact ⟨_, .str hspelt, by simp⟩
    · cases h
  · -- an array, without items or with some
    rename_i inner hfuel
    cases hfuel
    obtain ⟨blanks, hblanks, hinner⟩ := exists_spacing inner
    split at h
    · rename_i after hclosing
      cases h
      rw [hclosing] at hinner
      exact ⟨_, .emptyArr hblanks, by simp [hinner]⟩
    · split at h
      · rename_i hread
        cases h
        obtain ⟨slots, hne, hslots, rfl, rfl⟩ := ih.items hread
        exact ⟨_, .arr hne hslots, by simp⟩
      · cases h
  · -- an object, without members or with some
    rename_i inner hfuel
    cases hfuel
    obtain ⟨blanks, hblanks, hinner⟩ := exists_spacing inner
    split at h
    · rename_i after hclosing
      cases h
      rw [hclosing] at hinner
      exact ⟨_, .emptyObj hblanks, by simp [hinner]⟩
    · split at h
      · rename_i hread
        cases h
        -- no member is entered yet
        have hstart : readMembers fuel (entered []) (skipSpace inner) = .ok (_, _) := hread
        obtain ⟨slots, hne, hslots, rfl, rfl⟩ := ih.members hstart
        exact ⟨_, .obj hne hslots, by simp⟩
      · cases h
  · -- no mark begins it: a number or a word
    obtain ⟨spelt, hspelt, rfl⟩ := of_readScalar h
    exact ⟨spelt, .scalar hspelt, rfl⟩

theorem ReadsTexts.items_succ (ih : ReadsTexts fuel) {text rest : List Char} {items : List Json}
    (h : readItems (fuel + 1) (skipSpace text) = .ok (items, rest)) :
    ∃ slots : List Slot, slots ≠ [] ∧ (∀ slot ∈ slots, Spells slot.text slot.value) ∧
      text = listed (slots.map Slot.whole) ++ ']' :: rest ∧ items = slots.map Slot.value := by
  obtain ⟨before, hbefore, htext⟩ := exists_spacing text
  rw [readItems] at h
  split at h
  · cases h
  · rename_i item after hitem
    obtain ⟨spelt, hspelt, hhead⟩ := ih.value hitem
    obtain ⟨trail, htrail, hafter⟩ := exists_spacing after
    let slot : Slot := ⟨before, spelt, trail, item, hbefore, htrail⟩
    have hslot : text = slot.whole ++ skipSpace after := by
      simp only [slot, Slot.whole, List.append_assoc]
      rw [← hafter, ← hhead, ← htext]
    -- the item is the last one, or more of them follow a comma
    split at h
    · rename_i hclosing
      cases h
      refine ⟨[slot], by simp, by simpa using hspelt, ?_, rfl⟩
      rw [hslot, hclosing, List.map_singleton, listed_singleton]
    · rename_i next hcomma
      split at h
      · rename_i hread
        cases h
        obtain ⟨slots, hne, hslots, hnext, rfl⟩ := ih.items hread
        refine ⟨slot :: slots, by simp, List.forall_mem_cons.mpr ⟨hspelt, hslots⟩, ?_, rfl⟩
        rw [hslot, hcomma, hnext, List.map_cons, listed_cons _ (by simpa using hne)]
        simp
      · cases h
    · cases h

/-- What is read with one more unit of fuel is a member at the head of the text, with its name and its value, and then either the
mark that closes the object or, behind a comma, what is read as the members that are left. -/
theorem ReadsTexts.exists_member (ih : ReadsTexts fuel) {known members : List (JsonString × Json)} {text rest : List Char}
    (h : readMembers (fuel + 1) known (skipSpace text) = .ok (members, rest)) :
    ∃ (slot : MemberSlot) (later : List Char), Spells slot.text slot.value ∧ text = slot.member ++ later ∧
      (later = '\x7d' :: rest ∧ members = putMember slot.entry.1 slot.entry.2 known ∨
        ∃ next, later = ',' :: next ∧
          readMembers fuel (putMember slot.entry.1 slot.entry.2 known) (skipSpace next) = .ok (members, rest)) := by
  obtain ⟨lead, hlead, htext⟩ := exists_spacing text
  rw [readMembers.eq_def] at h
  split at h
  · cases h
  · rename_i inner hfuel hquote
    cases hfuel
    split at h
    · cases h
    · rename_i name afterName hname
      -- the slot is put together from what the reader went past: the name, the colon, the value and the space around them
      obtain ⟨body, units, hbody, hinner, rfl⟩ := of_readString hname
      obtain ⟨trail, htrail, hcolon⟩ := exists_spacing afterName
      split at h
      · rename_i afterColon hskip
        rw [hskip] at hcolon
        obtain ⟨before, hbefore, hgap⟩ := exists_spacing afterColon
        split at h
        · cases h
        · rename_i value afterValue hvalue
          obtain ⟨spelt, hspelt, hhead⟩ := ih.value hvalue
          obtain ⟨after, hafter, hrest⟩ := exists_spacing afterValue
          let slot : MemberSlot :=
            ⟨⟨before, spelt, after, value, hbefore, hafter⟩, lead, body, units, trail, hlead, hbody, htrail⟩
          refine ⟨slot, skipSpace afterValue, hspelt, ?_, ?_⟩
          · simp only [slot, MemberSlot.member, Slot.whole, List.append_assoc, List.cons_append]
            rw [← hrest, ← hhead, ← hgap, ← hcolon, ← hinner, ← hquote, ← htext]
          · dsimp only at h
            split at h
            · rename_i hclosing
              cases h
              exact .inl ⟨hclosing, rfl⟩
            · rename_i next hcomma
              exact .inr ⟨next, hcomma, h⟩
            · cases h
      · cases h
  · cases h

theorem ReadsTexts.members_succ (ih : ReadsTexts fuel) {before members : List (JsonString × Json)} {text rest : List Char}
    (h : readMembers (fuel + 1) (entered before) (skipSpace text) = .ok (members, rest)) :
    ∃ slots : List MemberSlot, slots ≠ [] ∧ (∀ slot ∈ slots, Spells slot.text slot.value) ∧
      text = listed (slots.map MemberSlot.member) ++ '\x7d' :: rest ∧
      members = entered (before ++ slots.map MemberSlot.entry) := by
  obtain ⟨slot, later, hspelt, rfl, hlater⟩ := ih.exists_member h
  rw [putMember_entered] at hlater
  rcases hlater with ⟨rfl, rfl⟩ | ⟨next, rfl, hread⟩
  · refine ⟨[slot], by simp, by simpa using hspelt, ?_, rfl⟩
    rw [List.map_singleton, listed_singleton]
  · obtain ⟨slots, hne, hslots, rfl, rfl⟩ := ih.members hread
    refine ⟨slot :: slots, by simp, List.forall_mem_cons.mpr ⟨hspelt, hslots⟩, ?_, ?_⟩
    · rw [List.map_cons, listed_cons _ (by simpa using hne)]
      simp
    · rw [List.append_assoc, List.map_cons, List.singleton_append]

/-- With any fuel: what is nested is read with less of it. -/
theorem readsTexts (fuel : Nat) : ReadsTexts fuel := by
  induction fuel with
  | zero => exact readsTexts_zero
  | succ fuel ih => exact ⟨ih.value_succ, ih.items_succ, ih.members_succ⟩

end

/-! ## What is not missed -/

/-- A character that begins a value and no part of one that is closed: it is of ASCII, no blank and no bracket that closes. -/
def Opens (c : Char) : Prop := isSpace c = false ∧ c ≠ ']' ∧ c.toNat < 128

/-- A character that begins a scalar opens no string, array or object. -/
theorem opens_scalar {c : Char} (h : Text.isDigit c = true ∨ c ∈ ['n', 't', 'f', 'N', 'I', '-']) :
    Opens c ∧ c ≠ '"' ∧ c ≠ '[' ∧ c ≠ '\x7b' := by
  have hascii : c.toNat < 128 := by
    rcases h with hdigit | hmem
    · have := toNat_of_isDigit hdigit
      omega
    · exact Text.forall_mem_of_all (p := fun c => c.toNat < 128) (by decide) c hmem
  exact Text.of_ascii (p := fun c => Text.isDigit c = true ∨ c ∈ ['n', 't', 'f', 'N', 'I', '-'] →
    (isSpace c = false ∧ c ≠ ']' ∧ c.toNat < 128) ∧ c ≠ '"' ∧ c ≠ '[' ∧ c ≠ '\x7b') (by decide) hascii h

theorem Spells.exists_cons {text : List Char} {value : Json} (h : Spells text value) :
    ∃ c later, text = c :: later ∧ Opens c := by
  cases h with
  | scalar h =>
    obtain ⟨c, later, rfl, hfirst⟩ := h.exists_cons
    exact ⟨c, later, rfl, (opens_scalar hfirst).1⟩
  | str h => exact ⟨'"', _, rfl, by decide, by decide, by decide⟩
  | emptyArr h | arr hne h => exact ⟨'[', _, rfl, by decide, by decide, by decide⟩
  | emptyObj h | obj hne h => exact ⟨'\x7b', _, rfl, by decide, by decide, by decide⟩

/-- A value is read whatever follows it, with as much fuel as it has characters. -/
def ReadsBack (text : List Char) (value : Json) : Prop :=
  ∀ fuel rest, EndsNumber rest → text.length ≤ fuel → readValue fuel (text ++ rest) = .ok (value, rest)

theorem endsNumber_spacing {blanks rest : List Char} (hblanks : IsSpacing blanks) (hrest : EndsNumber rest) :
    EndsNumber (blanks ++ rest) := by
  cases blanks with
  | nil => exact hrest
  | cons c blanks =>
    have hspace := hblanks c List.mem_cons_self
    simp only [isSpace, Bool.or_eq_true, beq_iff_eq] at hspace
    refine endsNumber_cons ?_ _
    rcases hspace with ((rfl | rfl) | rfl) | rfl <;> decide

/-- Blanks before a text that begins with none are passed. -/
theorem skipSpace_spaced {blanks text : List Char} (hblanks : IsSpacing blanks)
    (htext : ∃ c later, text = c :: later ∧ isSpace c = false) (rest : List Char) :
    skipSpace (blanks ++ (text ++ rest)) = text ++ rest := by
  obtain ⟨c, later, rfl, hspace⟩ := htext
  rw [skipSpace_append hblanks, List.cons_append, skipSpace_cons hspace]

/-- Blanks before a mark are passed. -/
theorem skipSpace_mark {blanks : List Char} (hblanks : IsSpacing blanks) {mark : Char} (hmark : isSpace mark = false)
    (rest : List Char) : skipSpace (blanks ++ mark :: rest) = mark :: rest := by
  rw [skipSpace_append hblanks, skipSpace_cons hmark]

section

variable {fuel : Nat} {text rest after next last : List Char} {item : Json} {items : List Json}

theorem readItems_last (hitem : readValue fuel text = .ok (item, after)) (hafter : skipSpace after = ']' :: rest) :
    readItems (fuel + 1) text = .ok ([item], rest) := by
  rw [readItems, hitem]
  dsimp only
  rw [hafter]
  rfl

theorem readItems_more (hitem : readValue fuel text = .ok (item, after)) (hafter : skipSpace after = ',' :: next)
    (hitems : readItems fuel (skipSpace next) = .ok (items, last)) :
    readItems (fuel + 1) text = .ok (item :: items, last) := by
  simp [readItems, hitem, hafter, hitems]

variable {known members : List (JsonString × Json)} {name : JsonString} {value : Json} {afterName afterColon : List Char}

theorem readMembers_last (hname : readString text = .ok (name, afterName))
    (hcolon : skipSpace afterName = ':' :: afterColon) (hvalue : readValue fuel (skipSpace afterColon) = .ok (value, after))
    (hafter : skipSpace after = '\x7d' :: rest) :
    readMembers (fuel + 1) known ('"' :: text) = .ok (putMember name value known, rest) := by
  simp [readMembers, hname, hcolon, hvalue, hafter]

theorem readMembers_more (hname : readString text = .ok (name, afterName))
    (hcolon : skipSpace afterName = ':' :: afterColon) (hvalue : readValue fuel (skipSpace afterColon) = .ok (value, after))
    (hafter : skipSpace after = ',' :: next)
    (hmembers : readMembers fuel (putMember name value known) (skipSpace next) = .ok (members, last)) :
    readMembers (fuel + 1) known ('"' :: text) = .ok (members, last) := by
  simp [readMembers, hname, hcolon, hvalue, hafter, hmembers]

end

/-- A value between blanks is come to behind the blanks before it. -/
theorem Slot.skipSpace_whole (slot : Slot) (h : Spells slot.text slot.value) (rest : List Char) :
    skipSpace (slot.whole ++ rest) = slot.text ++ (slot.after ++ rest) := by
  obtain ⟨c, later, hhead, hopens⟩ := h.exists_cons
  rw [whole, List.append_assoc, List.append_assoc]
  exact skipSpace_spaced slot.spaced_before ⟨c, later, hhead, hopens.1⟩ _

/-- It is read there, up to a mark behind the blanks after it. -/
theorem Slot.readValue_whole (slot : Slot) (h : Spells slot.text slot.value) (hreads : ReadsBack slot.text slot.value)
    {mark : Char} (hmark : Text.isDigit mark = false ∧ mark ≠ '.' ∧ mark ≠ 'e' ∧ mark ≠ 'E') {fuel : Nat}
    (hfuel : slot.whole.length ≤ fuel) (rest : List Char) :
    readValue fuel (skipSpace (slot.whole ++ mark :: rest)) = .ok (slot.value, slot.after ++ mark :: rest) := by
  rw [slot.skipSpace_whole h]
  refine hreads fuel _ (endsNumber_spacing slot.spaced_after (endsNumber_cons hmark rest)) ?_
  simp only [whole, List.length_append] at hfuel
  omega

theorem readItems_listed {slots : List Slot} (hne : slots ≠ []) (hspells : ∀ slot ∈ slots, Spells slot.text slot.value)
    (hreads : ∀ slot ∈ slots, ReadsBack slot.text slot.value) {fuel : Nat}
    (hfuel : (listed (slots.map Slot.whole)).length < fuel) (rest : List Char) :
    readItems fuel (skipSpace (listed (slots.map Slot.whole) ++ ']' :: rest)) = .ok (slots.map Slot.value, rest) := by
  induction slots generalizing fuel with
  | nil => contradiction
  | cons slot others ih =>
    obtain ⟨fuel, rfl⟩ := Nat.exists_eq_add_one_of_ne_zero (Nat.ne_zero_of_lt hfuel)
    obtain ⟨hspelt, hspells⟩ := List.forall_mem_cons.mp hspells
    obtain ⟨hread, hreads⟩ := List.forall_mem_cons.mp hreads
    -- the last item stands before the bracket, every other one before a comma
    by_cases hlast : others = []
    · subst hlast
      rw [List.map_singleton, listed_singleton] at hfuel ⊢
      exact readItems_last (slot.readValue_whole hspelt hread (by decide) (Nat.lt_succ_iff.mp hfuel) rest)
        (skipSpace_mark slot.spaced_after rfl rest)
    · have hothers : others.map Slot.whole ≠ [] := by simpa using hlast
      rw [List.map_cons, listed_cons _ hothers] at hfuel ⊢
      rw [List.length_append, List.length_cons] at hfuel
      rw [List.append_assoc, List.cons_append]
      exact readItems_more (slot.readValue_whole hspelt hread (by decide) (by omega) _)
        (skipSpace_mark slot.spaced_after rfl _) (ih hlast hspells hreads (by omega))

/-- A member is come to behind the blanks before its name. -/
theorem MemberSlot.skipSpace_member (slot : MemberSlot) (rest : List Char) :
    skipSpace (slot.member ++ rest) =
      '"' :: (slot.name ++ '"' :: (slot.trail ++ ':' :: (slot.whole ++ rest))) := by
  simp only [member, List.append_assoc, List.cons_append]
  exact skipSpace_mark slot.spaced_lead rfl _

theorem readMembers_listed {slots : List MemberSlot} (hne : slots ≠ [])
    (hspells : ∀ slot ∈ slots, Spells slot.text slot.value) (hreads : ∀ slot ∈ slots, ReadsBack slot.text slot.value)
    (before : List (JsonString × Json)) {fuel : Nat} (hfuel : (listed (slots.map MemberSlot.member)).length < fuel)
    (rest : List Char) :
    readMembers fuel (entered before) (skipSpace (listed (slots.map MemberSlot.member) ++ '\x7d' :: rest)) =
      .ok (entered (before ++ slots.map MemberSlot.entry), rest) := by
  induction slots generalizing before fuel with
  | nil => contradiction
  | cons slot others ih =>
    obtain ⟨fuel, rfl⟩ := Nat.exists_eq_add_one_of_ne_zero (Nat.ne_zero_of_lt hfuel)
    obtain ⟨hspelt, hspells⟩ := List.forall_mem_cons.mp hspells
    obtain ⟨hread, hreads⟩ := List.forall_mem_cons.mp hreads
    have hlength : slot.whole.length < slot.member.length := by
      simp only [MemberSlot.member, List.length_append, List.length_cons]
      omega
    have hname := fun later => slot.spells_name.readString (slot.trail ++ ':' :: later)
    have hcolon : ∀ later, skipSpace (slot.trail ++ ':' :: later) = ':' :: later := skipSpace_mark slot.spaced_trail rfl
    have hentered : putMember (stringOfUnits slot.units) slot.value (entered before) = entered (before ++ [slot.entry]) :=
      putMember_entered before _ _
    by_cases hlast : others = []
    · subst hlast
      rw [List.map_singleton, listed_singleton] at hfuel ⊢
      rw [slot.skipSpace_member, List.map_singleton, ← hentered]
      exact readMembers_last (hname _) (hcolon _) (slot.readValue_whole hspelt hread (by decide) (by omega) rest)
        (skipSpace_mark slot.spaced_after rfl rest)
    · have hothers : others.map MemberSlot.member ≠ [] := by simpa using hlast
      rw [List.map_cons, listed_cons _ hothers] at hfuel ⊢
      rw [List.length_append, List.length_cons] at hfuel
      rw [List.append_assoc, List.cons_append, slot.skipSpace_member]
      refine readMembers_more (hname _) (hcolon _) (slot.readValue_whole hspelt hread (by decide) (by omega) _)
        (skipSpace_mark slot.spaced_after rfl _) ?_
      rw [hentered, ih hlast hspells hreads (before ++ [slot.entry]) (by omega)]
      simp

/-! ## Values -/

theorem readValue_scalar (fuel : Nat) {c : Char} (hquote : c ≠ '"') (hlist : c ≠ '[') (hobject : c ≠ '\x7b')
    (text : List Char) : readValue (fuel + 1) (c :: text) = readScalar (c :: text) := by
  rw [readValue]
  · rintro _ ⟨⟩
    exact hquote rfl
  · rintro _ ⟨⟩
    exact hlist rfl
  · rintro _ ⟨⟩
    exact hobject rfl

theorem readValue_arr {fuel : Nat} {text rest : List Char} {items : List Json}
    (hopens : ∀ later, skipSpace text ≠ ']' :: later) (hitems : readItems fuel (skipSpace text) = .ok (items, rest)) :
    readValue (fuel + 1) ('[' :: text) = .ok (.arr items, rest) := by
  rw [readValue]
  split
  · rename_i hclosing
    exact absurd hclosing (hopens _)
  · rw [hitems]

theorem readValue_obj {fuel : Nat} {text rest : List Char} {members : List (JsonString × Json)}
    (hopens : ∀ later, skipSpace text ≠ '\x7d' :: later)
    (hmembers : readMembers fuel [] (skipSpace text) = .ok (members, rest)) :
    readValue (fuel + 1) ('\x7b' :: text) = .ok (.obj members, rest) := by
  rw [readValue]
  split
  · rename_i hclosing
    exact absurd hclosing (hopens _)
  · rw [hmembers]

/-- Places that are listed begin with the first of them. -/
theorem exists_listed (first : List Char) (others : List (List Char)) : ∃ later, listed (first :: others) = first ++ later := by
  cases others with
  | nil => exact ⟨[], (listed_singleton first).trans (List.append_nil first).symm⟩
  | cons second others => exact ⟨_, listed_cons first (List.cons_ne_nil _ _)⟩

theorem readsBack_of_succ {text : List Char} {value : Json} (h : Spells text value)
    (hreads : ∀ fuel rest, EndsNumber rest → text.length ≤ fuel + 1 →
      readValue (fuel + 1) (text ++ rest) = .ok (value, rest)) : ReadsBack text value := by
  intro fuel rest hrest hfuel
  obtain ⟨c, later, rfl, -⟩ := h.exists_cons
  cases fuel with
  | zero => simp at hfuel
  | succ fuel => exact hreads fuel rest hrest hfuel

/-- Every text of a value is read as the value. -/
theorem Spells.readsBack {text : List Char} {value : Json} (h : Spells text value) : ReadsBack text value := by
  induction h with
  | scalar h =>
    refine readsBack_of_succ (.scalar h) fun fuel rest hrest hfuel => ?_
    obtain ⟨c, later, rfl, hfirst⟩ := h.exists_cons
    obtain ⟨-, hquote, hlist, hobject⟩ := opens_scalar hfirst
    rw [List.cons_append, readValue_scalar fuel hquote hlist hobject, ← List.cons_append]
    exact h.readScalar hrest
  | str h =>
    refine readsBack_of_succ (.str h) fun fuel rest hrest hfuel => ?_
    rw [List.cons_append, List.append_assoc, List.singleton_append, readValue, h.readString]
  | emptyArr hblanks =>
    refine readsBack_of_succ (.emptyArr hblanks) fun fuel rest hrest hfuel => ?_
    rw [List.cons_append, List.append_assoc, List.singleton_append, readValue, skipSpace_mark hblanks rfl]
    rfl
  | emptyObj hblanks =>
    refine readsBack_of_succ (.emptyObj hblanks) fun fuel rest hrest hfuel => ?_
    rw [List.cons_append, List.append_assoc, List.singleton_append, readValue, skipSpace_mark hblanks rfl]
    rfl
  | @arr slots hne h ih =>
    refine readsBack_of_succ (.arr hne h) fun fuel rest hrest hfuel => ?_
    simp only [List.length_cons, List.length_append, List.length_nil] at hfuel
    rw [List.cons_append, List.append_assoc, List.singleton_append]
    refine readValue_arr (fun later => ?_) (readItems_listed hne h ih (by omega) rest)
    -- the first item does not close the array
    obtain ⟨slot, others, rfl⟩ := List.exists_cons_of_ne_nil hne
    have hslot := h slot List.mem_cons_self
    obtain ⟨more, hmore⟩ := exists_listed slot.whole (others.map Slot.whole)
    obtain ⟨c, text, hhead, hopens⟩ := hslot.exists_cons
    rw [List.map_cons, hmore, List.append_assoc, slot.skipSpace_whole hslot, hhead]
    exact fun hclosing => hopens.2.1 (List.cons.inj hclosing).1
  | @obj slots hne h ih =>
    refine readsBack_of_succ (.obj hne h) fun fuel rest hrest hfuel => ?_
    simp only [List.length_cons, List.length_append, List.length_nil] at hfuel
    rw [List.cons_append, List.append_assoc, List.singleton_append]
    refine readValue_obj (fun later => ?_) (readMembers_listed hne h ih [] (by omega) rest)
    obtain ⟨slot, others, rfl⟩ := List.exists_cons_of_ne_nil hne
    obtain ⟨more, hmore⟩ := exists_listed slot.member (others.map MemberSlot.member)
    rw [List.map_cons, hmore, List.append_assoc, slot.skipSpace_member]
    exact fun hclosing => absurd (List.cons.inj hclosing).1 (by decide)

/-! ## Main result -/

/-- A text with a value begins with a character of ASCII, a blank or the first one of the value. -/
theorem Slot.exists_cons (slot : Slot) (h : Spells slot.text slot.value) :
    ∃ c later, slot.whole = c :: later ∧ c.toNat < 128 := by
  rw [whole]
  cases hbefore : slot.before with
  | nil =>
    obtain ⟨c, later, htext, hopens⟩ := h.exists_cons
    exact ⟨c, later ++ slot.after, by rw [htext]; rfl, hopens.2.2⟩
  | cons c blanks =>
    have hspace : isSpace c = true := slot.spaced_before c (by rw [hbefore]; exact List.mem_cons_self)
    refine ⟨c, _, rfl, ?_⟩
    simp only [isSpace, Bool.or_eq_true, beq_iff_eq] at hspace
    rcases hspace with ((rfl | rfl) | rfl) | rfl <;> decide

theorem skipSpace_spacing {blanks : List Char} (hblanks : IsSpacing blanks) : skipSpace blanks = [] :=
  List.dropWhile_eq_nil_iff.mpr hblanks

/-- A text is read as a value exactly if it is a text with that value. -/
theorem read_eq_ok_iff {text : List Char} {value : Json} : read text = .ok value ↔ IsDocument text value := by
  constructor
  · intro h
    unfold read at h
    split at h
    · cases h
    · split at h
      · cases h
      · rename_i found after hread
        split at h
        · rename_i hrest
          cases h
          obtain ⟨spelt, hspelt, hhead⟩ := (readsTexts _).value hread
          obtain ⟨before, hbefore, htext⟩ := exists_spacing text
          have hafter : IsSpacing after := List.dropWhile_eq_nil_iff.mp hrest
          refine ⟨⟨before, spelt, after, _, hbefore, hafter⟩, hspelt, ?_, rfl⟩
          rw [Slot.whole, ← hhead, ← htext]
        · cases h
  · rintro ⟨slot, hspelt, rfl, rfl⟩
    have hends : EndsNumber slot.after := by
      have hnone := endsNumber_spacing slot.spaced_after endsNumber_nil
      rwa [List.append_nil] at hnone
    have hlength : slot.text.length ≤ slot.whole.length + 1 := by
      simp only [Slot.whole, List.length_append]
      omega
    have hskip := slot.skipSpace_whole hspelt []
    rw [List.append_nil, List.append_nil] at hskip
    -- the first character is of ASCII, so it is no byte order mark
    obtain ⟨c, later, hhead, hascii⟩ := slot.exists_cons hspelt
    have hmark : ¬slot.whole.head?.any (·.toNat == 0xFEFF) = true := by
      rw [hhead, List.head?_cons, Option.any_some, beq_iff_eq]
      omega
    rw [read, if_neg hmark, hskip, hspelt.readsBack _ _ hends hlength]
    dsimp only
    rw [skipSpace_spacing slot.spaced_after]

end Showcase.Json
