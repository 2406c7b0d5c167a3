import Showcase.Proofs.Listing.Entry

/-!
# The codec of entries

What is written of an entry for the contents interface is read as this entry again, for exactly the entries that can be
made: those whose directories have no content address. Whatever an entry of the contents interface looks like, to read it
and to write it brings it into a normal form that stays as it is.
-/

namespace Showcase.Entry

/-! ## Entries that can be made -/

theorem choice_kinds {value : Json} {kind : EntryKind} :
    Field.choice kinds value = .ok kind ↔ value = .ofString kind.name := by
  rw [Field.choice_eq_ok]
  constructor
  · rintro ⟨word, rfl, hword⟩
    simp only [kinds, List.lookup_cons, List.lookup_nil] at hword
    split at hword
    · rename_i hfile
      cases hword
      rw [beq_iff_eq.mp hfile]
      rfl
    · split at hword
      · rename_i hdirectory
        cases hword
        rw [beq_iff_eq.mp hdirectory]
        rfl
      · cases hword
  · rintro rfl
    refine ⟨kind.name, rfl, ?_⟩
    cases kind <;> rfl

/-- No entry is made of a directory and a content address. -/
theorem isProper_of_ofMembers {members : List (JsonString × Json)} {entry : Entry}
    (h : ofMembers members = .ok entry) : entry.IsProper := by
  simp only [ofMembers, Fallible.ofChecked_eq_ok, Checked.field_eq_ok, Checked.record_eq_ok, Field.required_eq_ok,
    choice_kinds] at h
  obtain ⟨_, sha, ⟨_, size, ⟨_, url, ⟨_, kind, ⟨_, path, ⟨_, name, rfl, hname, rfl⟩, hpath, rfl⟩, ⟨_, hkind, rfl⟩, rfl⟩,
    hurl, rfl⟩, hsize, rfl⟩, hsha, rfl⟩ := h
  -- of the fields that were read, only the type and the address matter from here on
  intro hdirectory address haddress
  obtain rfl : kind = .directory := beq_iff_eq.mp hdirectory
  obtain rfl : url = some address := haddress
  have hword : ((some (Json.ofString EntryKind.directory.name)).bind Json.text? == some "directory") = true := rfl
  rw [hkind, hword, Field.withDefault] at hurl
  cases hmember : Json.member? members "download_url" with
  | none =>
    rw [hmember] at hurl
    cases hurl
  | some value =>
    rw [hmember, Checked.under_eq_ok, Field.nullable_text_eq_ok] at hurl
    exact isEmpty_of_addressFor hurl

/-- The word for a directory is the one that makes it a directory. -/
theorem isDirectory_of_kind (entry : Entry) :
    ((some (Json.ofString entry.kind.name)).bind Json.text? == some "directory") = entry.isDirectory := by
  rw [isDirectory]
  cases entry.kind <;> rfl

/-- A proper entry is made of what is written of it in the form of its own. -/
theorem ofMembers_of_isProper {entry : Entry} (h : entry.IsProper) {members : List (JsonString × Json)}
    (hmembers : entry.toJson = .obj members) : ofMembers members = .ok entry := by
  obtain rfl := Json.obj.inj hmembers
  have hkind := isDirectory_of_kind entry
  have hchoice : Field.choice kinds (.ofString entry.kind.name) = .ok entry.kind := choice_kinds.mpr rfl
  simp only [ofMembers, Field.required, Field.optional, Field.withDefault, Json.member?_text, List.lookup_cons,
    String.reduceBEq, hkind, hchoice, h.addressFor_eq, nullable_whole_sizeJson, Field.nullable_text_ofOption,
    Field.text_ofString, Checked.under, Checked.record, Checked.field, Fallible.ofChecked]

/-- The entries that can be made are the proper ones. -/
theorem exists_ofMembers_iff {entry : Entry} : (∃ members, ofMembers members = .ok entry) ↔ entry.IsProper :=
  ⟨fun ⟨_, h⟩ => isProper_of_ofMembers h, fun h => ⟨_, ofMembers_of_isProper h rfl⟩⟩

/-! ## The normal form -/

theorem ofContents_toContents_iff {entry : Entry} : ofContents entry.toContents = .ok entry ↔ entry.IsProper := by
  refine ⟨fun h => ?_, ofContents_of_isProper⟩
  obtain ⟨members, -, htells⟩ := ofContents_eq_ok.mp h
  exact htells.isProper

/-- An entry of the contents interface as it is written once it was read. -/
def normalized (value : Json) : Fallible Json := (ofContents value).map toContents

theorem normalized_eq_ok {value once : Json} :
    normalized value = .ok once ↔ ∃ entry, ofContents value = .ok entry ∧ entry.toContents = once := by
  rw [normalized]
  cases ofContents value <;> simp [Except.map]

/-- An entry is read back from what is written of it for the contents interface if it can be made at all, and only then.
What any entry of the contents interface is normalized to, in whatever way it was given, is its own normal form. -/
theorem contents_codec :
    (∀ entry : Entry, ofContents entry.toContents = .ok entry ↔ ∃ members, ofMembers members = .ok entry) ∧
      ∀ value once : Json, normalized value = .ok once → normalized once = .ok once := by
  refine ⟨fun entry => ofContents_toContents_iff.trans exists_ofMembers_iff.symm, ?_⟩
  intro value once honce
  obtain ⟨entry, hentry, rfl⟩ := normalized_eq_ok.mp honce
  obtain ⟨members, -, htells⟩ := ofContents_eq_ok.mp hentry
  exact normalized_eq_ok.mpr ⟨entry, ofContents_of_isProper htells.isProper, rfl⟩

/-- An entry of an unknown type, without a path and with a size in digits, and a directory with an address and a truth
value for its size. -/
theorem contents_codec_of_lax :
    let submodule := Json.ofMembers [("type", .ofString "submodule"), ("name", .ofString "lib"), ("size", .ofString " 1_0 ")]
    let directory := Json.ofMembers [("name", .ofString "src"), ("path", .ofString "demo/src"), ("type", .ofString "dir"),
      ("download_url", .ofString "https://github.com/acme/widgets"), ("size", .bool true)]
    let library : Entry := ⟨"lib", "lib", .file, none, some 10, none⟩
    let source : Entry := ⟨"src", "demo/src", .directory, none, some 1, none⟩
    (normalized submodule = .ok library.toContents ∧ normalized library.toContents = .ok library.toContents) ∧
      normalized directory = .ok source.toContents ∧ normalized source.toContents = .ok source.toContents := by
  intro submodule directory library source
  have hsubmodule : normalized submodule = .ok library.toContents := rfl
  have hdirectory : normalized directory = .ok source.toContents := rfl
  exact ⟨⟨hsubmodule, contents_codec.2 _ _ hsubmodule⟩, hdirectory, contents_codec.2 _ _ hdirectory⟩

end Showcase.Entry
