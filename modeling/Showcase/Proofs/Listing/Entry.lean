import Showcase.Listing.Entry
import Showcase.Proofs.Json.RoundTrip
import Showcase.Proofs.Record.Field

/-!
# Entries that are passed on

An entry that was read from a listing is written for the contents interface, and the next reader makes the same entry of
it. What makes this work is known of every entry that was read: its size can be written, and if it is a directory then
its content address is absent or empty.
-/

namespace Showcase

namespace Json

theorem Bounded.member {members : List (JsonString × Json)} (h : Bounded (.obj members)) {name : String} {value : Json}
    (hmember : member? members name = some value) : Bounded value := by
  rcases List.lookup_eq_some_iff.mp hmember with ⟨before, after, rfl, -⟩
  cases h with
  | obj members hvalues => exact hvalues (.text name, value) (by simp)

theorem Bounded.memberOrNull {members : List (JsonString × Json)} (h : Bounded (.obj members)) (name : String) :
    Bounded ((member? members name).getD .null) := by
  cases hmember : member? members name with
  | none => exact .null
  | some value => exact h.member hmember

@[simp] theorem member?_text (members : List (String × Json)) (name : String) :
    member? (members.map fun m => (JsonString.text m.1, m.2)) name = members.lookup name := by
  induction members with
  | nil => rfl
  | cons first members ih =>
    have hname : (JsonString.text name == .text first.1) = (name == first.1) := by
      rw [Bool.eq_iff_iff, beq_iff_eq, beq_iff_eq, JsonString.text.injEq]
    rcases first with ⟨other, value⟩
    simp only [member?, List.map_cons, List.lookup_cons, hname] at ih ⊢
    rw [ih]

end Json

namespace Entry

/-- A directory has no content address, or an empty one. -/
def IsProper (entry : Entry) : Prop :=
  entry.isDirectory = true → ∀ url, entry.downloadUrl = some url → url.isEmpty = true

/-- An entry that can be passed on. -/
structure IsSound (entry : Entry) : Prop where
  size : ∀ n, entry.size = some n → n.natAbs < 10 ^ 4300
  address : entry.isDirectory = true → ∀ url, entry.downloadUrl = some url → url.isEmpty = true

/-! ## Reading -/

/-- The members of an object tell an entry, whose texts are what their strings show. A path that is not there is the name,
every type but that of a directory is that of a file, and a size is given in any of the ways in which a whole number is
read. -/
structure Tells (members : List (JsonString × Json)) (entry : Entry) : Prop where
  name : (Json.member? members "name").bind Json.text? = some entry.name
  path : (Json.member? members "path" <|> Json.member? members "name").bind Json.text? = some entry.path
  kind : ((Json.member? members "type").bind Json.text? == some "dir") = entry.isDirectory
  address : (addressFor entry.isDirectory ((Json.member? members "download_url").getD .null)).optionalText? =
    some entry.downloadUrl
  size : Field.nullable Field.whole ((Json.member? members "size").getD .null) = .ok entry.size
  sha : ((Json.member? members "sha").getD .null).optionalText? = some entry.sha

theorem isDirectory_mk (name path : String) (isDirectory : Bool) (url : Option String) (size : Option Int)
    (sha : Option String) :
    (Entry.mk name path (if isDirectory then .directory else .file) url size sha).isDirectory = isDirectory := by
  cases isDirectory <;> rfl

theorem kind_of_isDirectory (entry : Entry) :
    (if entry.isDirectory then EntryKind.directory else .file) = entry.kind := by
  rcases entry with ⟨name, path, kind, url, size, sha⟩
  cases kind <;> rfl

/-- A value is read as an entry exactly if it is an object that tells it. -/
theorem ofContents_eq_ok {value : Json} {entry : Entry} :
    ofContents value = .ok entry ↔ ∃ members, value = .obj members ∧ Tells members entry := by
  cases value with
  | obj members =>
    cases hname : Json.member? members "name" with
    | none =>
      simp only [ofContents, hname, reduceCtorEq, false_iff]
      rintro ⟨_, ⟨⟩, htells⟩
      have htold := htells.name
      rw [hname] at htold
      cases htold
    | some name =>
      have hpath : ((Json.member? members "path").getD name).text? =
          (Json.member? members "path" <|> Json.member? members "name").bind Json.text? := by
        rw [hname]
        cases Json.member? members "path" <;> rfl
      simp only [ofContents, hname, Fallible.ofChecked_eq_ok, Checked.field_eq_ok, Checked.under_eq_ok,
        Checked.record_eq_ok, Field.text_eq_ok, Field.nullable_text_eq_ok]
      constructor
      · rintro ⟨_, sha, ⟨_, size, ⟨_, url, ⟨_, path, ⟨_, _, rfl, htext, rfl⟩, hshown, rfl⟩, hurl, rfl⟩, hsize, rfl⟩, hsha,
          rfl⟩
        exact ⟨members, rfl, by rwa [hname], hpath ▸ hshown, (isDirectory_mk _ _ _ _ _ _).symm, by rwa [isDirectory_mk],
          hsize, hsha⟩
      · rintro ⟨_, ⟨⟩, htells⟩
        -- the kind that is built from the entry is the one that the entry has
        have htext := htells.name
        rw [hname] at htext
        have hentry : Entry.mk entry.name entry.path (if entry.isDirectory then .directory else .file) entry.downloadUrl
            entry.size entry.sha = entry := by
          rw [kind_of_isDirectory]
        rw [htells.kind]
        exact ⟨_, _, ⟨_, _, ⟨_, _, ⟨_, _, ⟨_, _, rfl, htext, rfl⟩, hpath.trans htells.path, rfl⟩, htells.address, rfl⟩,
          htells.size, rfl⟩, htells.sha, hentry⟩
  | null | bool | int | decimal | str | arr => simp [ofContents]

theorem isEmpty_of_addressFor {address : Json} {url : String}
    (h : (addressFor true address).optionalText? = some (some url)) : url.isEmpty = true := by
  -- an address that is not empty is dropped, and null shows nothing
  by_cases htrue : address.isTruthy = true
  · simp [addressFor, htrue, Json.optionalText?] at h
  · simp only [addressFor, htrue, Bool.true_and, Bool.false_eq_true, if_false] at h
    cases address with
    | str s =>
      obtain rfl : s.shown = url := by simpa [Json.optionalText?, Json.text?] using h
      simpa [Json.isTruthy, JsonString.isEmpty] using htrue
    | null | bool | int | decimal | arr | obj => simp [Json.optionalText?, Json.text?] at h

theorem Tells.isProper {members : List (JsonString × Json)} {entry : Entry} (h : Tells members entry) :
    entry.IsProper := by
  intro hdirectory url hurl
  have haddress := h.address
  rw [hdirectory, hurl] at haddress
  exact isEmpty_of_addressFor haddress

/-- An entry of a listing that was read from a body can be passed on. -/
theorem isSound_of_ofContents {value : Json} (hvalue : value.Bounded) {entry : Entry}
    (h : ofContents value = .ok entry) : entry.IsSound := by
  obtain ⟨members, rfl, htells⟩ := ofContents_eq_ok.mp h
  refine ⟨?_, htells.isProper⟩
  intro n hn
  have hsize := htells.size
  rw [hn] at hsize
  rcases Field.nullable_eq_ok.mp hsize with ⟨-, hnone⟩ | ⟨-, m, hwhole, hsome⟩
  · cases hnone
  · cases hsome
    exact Field.whole_lt (hvalue.memberOrNull "size") hwhole

/-! ## Writing -/

theorem travels_toContents {entry : Entry} (h : entry.IsSound) : entry.toContents.Travels := by
  have hsize : (sizeJson entry.size).Travels := by
    cases hn : entry.size with
    | none => exact .null
    | some n => exact .int n (h.size n hn)
  refine Json.Travels.ofMembers (by simp) ?_
  simp only [List.forall_mem_cons, List.not_mem_nil, false_implies, implies_true, and_true]
  exact ⟨.text _, .text _, .ofOption _, hsize, .ofOption _, .text _⟩

theorem nullable_whole_sizeJson (size : Option Int) : Field.nullable Field.whole (sizeJson size) = .ok size := by
  cases size <;> rfl

/-- The address of a proper entry is left as it is. -/
theorem IsProper.addressFor_eq {entry : Entry} (h : entry.IsProper) :
    addressFor entry.isDirectory (.ofOption entry.downloadUrl) = .ofOption entry.downloadUrl := by
  cases hdirectory : entry.isDirectory with
  | false => rfl
  | true =>
    cases hurl : entry.downloadUrl with
    | none => rfl
    | some url => simp [addressFor, Json.ofOption, Json.ofString, Json.isTruthy, h hdirectory url hurl]

/-- The word for a directory is the one that makes it a directory. -/
theorem isDirectory_of_type (entry : Entry) :
    ((some (Json.ofString (if entry.isDirectory then "dir" else "file"))).bind Json.text? == some "dir") =
      entry.isDirectory := by
  cases entry.isDirectory <;> rfl

/-- A proper entry is read back from what is written of it. -/
theorem ofContents_of_isProper {entry : Entry} (h : entry.IsProper) : ofContents entry.toContents = .ok entry := by
  refine ofContents_eq_ok.mpr ⟨_, rfl, ?_⟩
  constructor
  case kind =>
    rw [Json.member?_text]
    exact isDirectory_of_type entry
  all_goals
    simp only [Json.member?_text, List.lookup_cons, String.reduceBEq, Option.getD_some, nullable_whole_sizeJson,
      h.addressFor_eq, Json.optionalText?_ofOption]
  case name => rfl
  case path => rfl

/-- An entry that can be passed on is read back from what is written of it. -/
theorem ofContents_toContents {entry : Entry} (h : entry.IsSound) : ofContents entry.toContents = .ok entry :=
  ofContents_of_isProper h.address

/-! ## Lists -/

theorem isSound_of_mapM {values : List Json} (hvalues : ∀ value ∈ values, value.Bounded) {entries : List Entry}
    (h : values.mapM ofContents = .ok entries) : ∀ entry ∈ entries, entry.IsSound := by
  induction values generalizing entries with
  | nil =>
    cases h
    simp
  | cons value values ih =>
    rcases List.forall_mem_cons.mp hvalues with ⟨hvalue, hothers⟩
    rw [List.mapM_cons] at h
    cases hentry : ofContents value with
    | error failure =>
      rw [hentry] at h
      cases h
    | ok entry =>
      cases hrest : values.mapM ofContents with
      | error failure =>
        rw [hentry, hrest] at h
        cases h
      | ok rest =>
        rw [hentry, hrest] at h
        cases h
        exact List.forall_mem_cons.mpr ⟨isSound_of_ofContents hvalue hentry, ih hothers hrest⟩

/-- Entries that can be passed on are read back in their order. -/
theorem mapM_ofContents_toContents {entries : List Entry} (h : ∀ entry ∈ entries, entry.IsSound) :
    (entries.map toContents).mapM ofContents = .ok entries := by
  induction entries with
  | nil => rfl
  | cons entry entries ih =>
    rcases List.forall_mem_cons.mp h with ⟨hentry, hothers⟩
    rw [List.map_cons, List.mapM_cons, ofContents_toContents hentry, ih hothers]
    rfl

end Entry

end Showcase
