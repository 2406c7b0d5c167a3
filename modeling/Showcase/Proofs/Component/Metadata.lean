import Showcase.Proofs.Component.Static
import Showcase.Proofs.Json.RoundTrip

/-!
# Metadata and their texts

The metadata of a text are all that it says, or nothing. A text says metadata if it is an object whose fields of the six
names, as far as they are there, have the types of these fields; the metadata are then exactly what is in them, whatever
else the object has. One field of another type voids them all. What is written of metadata says them.

* `Tells` — the metadata that an object says.
* `ofJson_eq_ok` — a value is read as metadata exactly if it is an object that says them.
* `ofText_faithful` — the metadata of a text, in either case, and of what is written of metadata.
-/

namespace Showcase.Component.GivenMetadata

open Json (IsDocument Spelling member?)

/-! ## What an object says -/

/-- The members of an object say metadata. A field that is not there counts as null, or as the empty list. -/
structure Tells (members : List (JsonString × Json)) (metadata : GivenMetadata) : Prop where
  name : (member? members "name").getD .null = .ofNullable metadata.name
  category : (member? members "category").getD .null = .ofNullable metadata.category
  description : (member? members "description").getD .null = .ofNullable metadata.description
  labels : (member? members "variables").getD .null = (metadata.labels.map .ofEntries).getD .null
  thumbnail : (member? members "thumbnail").getD .null = .ofNullable metadata.thumbnail
  dependencies : (member? members "dependencies").getD (.arr []) = .arr (metadata.dependencies.map .str)

theorem ofJson_eq_ok {value : Json} {metadata : GivenMetadata} :
    ofJson value = .ok metadata ↔ ∃ members, value = .obj members ∧ Tells members metadata := by
  have hstrings : ∀ (value : Json) (strings : List JsonString),
      Field.list Field.string value = .ok strings ↔ value = .arr (strings.map .str) :=
    fun _ _ => Field.list_eq_ok fun _ _ => Field.string_eq_ok
  have htable : ∀ {members : List (JsonString × Json)} {labels : Option (List (JsonString × JsonString))},
      Field.optional members "variables" Field.stringTable = .ok labels ↔
        (member? members "variables").getD .null = (labels.map .ofEntries).getD .null :=
    Field.optional_eq_ok (fun _ _ => Field.stringTable_eq_ok) fun _ => nofun
  cases value with
  | obj members =>
    simp only [ofJson, Checked.field_eq_ok, Checked.record_eq_ok, Field.optional_string_eq_ok, htable,
      Field.withDefault_eq_ok hstrings, List.map_nil]
    constructor
    · rintro ⟨_, dependencies, ⟨_, thumbnail, ⟨_, labels, ⟨_, description, ⟨_, category, ⟨_, name, rfl, hname, rfl⟩,
        hcategory, rfl⟩, hdescription, rfl⟩, hlabels, rfl⟩, hthumbnail, rfl⟩, hdependencies, rfl⟩
      exact ⟨members, rfl, hname, hcategory, hdescription, hlabels, hthumbnail, hdependencies⟩
    · rintro ⟨_, ⟨⟩, hname, hcategory, hdescription, hlabels, hthumbnail, hdependencies⟩
      exact ⟨_, _, ⟨_, _, ⟨_, _, ⟨_, _, ⟨_, _, ⟨_, _, rfl, hname, rfl⟩, hcategory, rfl⟩, hdescription, rfl⟩, hlabels, rfl⟩,
        hthumbnail, rfl⟩, hdependencies, rfl⟩
  | null | bool | int | decimal | str | arr => simp [ofJson]

/-! ## The metadata of a text -/

/-- A text with an object that says metadata has these metadata. -/
theorem ofText_of_tells {text : String} {members : List (JsonString × Json)} {metadata : GivenMetadata}
    (hdocument : IsDocument text.toList (.obj members)) (htells : Tells members metadata) : ofText text = metadata := by
  rw [ofText, Json.read_eq_ok_iff.mpr hdocument]
  dsimp only
  rw [ofJson_eq_ok.mpr ⟨members, rfl, htells⟩]

/-- A text without an object that says metadata has none of them. -/
theorem ofText_eq_none {text : String}
    (h : ¬∃ members metadata, IsDocument text.toList (.obj members) ∧ Tells members metadata) : ofText text = .none := by
  unfold ofText
  split
  · rfl
  · rename_i value hread
    split
    · rename_i metadata hmetadata
      obtain ⟨members, rfl, htells⟩ := ofJson_eq_ok.mp hmetadata
      exact absurd ⟨members, metadata, Json.read_eq_ok_iff.mp hread, htells⟩ h
    · rfl

/-! ## What is written of metadata -/

/-- The fields of metadata as members of an object. -/
def fields (metadata : GivenMetadata) : List (String × Json) :=
  [("name", .ofNullable metadata.name), ("category", .ofNullable metadata.category),
    ("description", .ofNullable metadata.description), ("variables", (metadata.labels.map .ofEntries).getD .null),
    ("thumbnail", .ofNullable metadata.thumbnail), ("dependencies", .arr (metadata.dependencies.map .str))]

/-- Metadata as a JSON value. -/
def toJson (metadata : GivenMetadata) : Json := .ofMembers metadata.fields

/-- No variable has two labels. -/
def HasDistinctLabels (metadata : GivenMetadata) : Prop :=
  ∀ labels, metadata.labels = some labels → (labels.map Prod.fst).Nodup

variable {metadata : GivenMetadata}

theorem travels_labels (h : metadata.HasDistinctLabels) :
    Json.Travels ((metadata.labels.map .ofEntries).getD .null) := by
  cases hlabels : metadata.labels with
  | none => exact .null
  | some labels =>
    refine .obj _ ?_ (List.forall_mem_map.mpr fun entry _ => .str entry.2)
    rw [List.map_map]
    exact h labels hlabels

theorem travels_toJson (h : metadata.HasDistinctLabels) : Json.Travels metadata.toJson := by
  refine .ofMembers ?_ ?_
  · simp [fields]
  · simp only [fields, List.forall_mem_cons]
    exact ⟨.ofNullable _, .ofNullable _, .ofNullable _, travels_labels h, .ofNullable _,
      .arr _ (List.forall_mem_map.mpr fun s _ => .str s), nofun⟩

theorem tells_fields (metadata : GivenMetadata) : Tells (metadata.fields.map fun member => (.text member.1, member.2)) metadata :=
  ⟨rfl, rfl, rfl, rfl, rfl, rfl⟩

/-- What is spelt of metadata is read as they are. -/
theorem ofText_spell (h : metadata.HasDistinctLabels) {spelling : Spelling} (hlegible : spelling.IsLegible) :
    ofText (String.ofList (metadata.toJson.spell spelling)) = metadata := by
  have hspelt := ((travels_toJson h).spells hlegible).isDocument
  rw [← String.toList_ofList (l := metadata.toJson.spell spelling)] at hspelt
  exact ofText_of_tells hspelt (tells_fields metadata)

/-! ## Metadata that are read are written again -/

theorem exists_spells {text : List Char} {members : List (JsonString × Json)} (hdocument : IsDocument text (.obj members))
    {name : String} {value : Json} (hmember : member? members name = some value) : ∃ spelt, Json.Spells spelt value := by
  obtain ⟨slot, hslot, -, hobject⟩ := hdocument
  rw [hobject] at hslot
  obtain ⟨before, after, rfl, -⟩ := List.lookup_eq_some_iff.mp hmember
  exact hslot.exists_of_mem (List.mem_append_right before List.mem_cons_self)

/-- The labels of a text are the members of an object in it, so no variable has two. -/
theorem hasDistinctLabels_ofText (text : String) : (ofText text).HasDistinctLabels := by
  by_cases hsaid : ∃ members metadata, IsDocument text.toList (.obj members) ∧ Tells members metadata
  · obtain ⟨members, metadata, hdocument, htells⟩ := hsaid
    rw [ofText_of_tells hdocument htells]
    intro labels hlabels
    have hvalue : (member? members "variables").getD .null = .ofEntries labels := by
      rw [htells.labels, hlabels, Option.map_some, Option.getD_some]
    cases hmember : member? members "variables" with
    | none =>
      rw [hmember] at hvalue
      cases hvalue
    | some value =>
      rw [hmember, Option.getD_some] at hvalue
      obtain ⟨spelt, hspelt⟩ := exists_spells hdocument hmember
      rw [hvalue] at hspelt
      have hnames := hspelt.nodup_names
      rwa [List.map_map] at hnames
  · rw [ofText_eq_none hsaid]
    exact nofun

/-- The metadata of a text are those of what is spelt of them. -/
theorem ofText_spell_ofText (text : String) {spelling : Spelling} (hlegible : spelling.IsLegible) :
    ofText (String.ofList ((ofText text).toJson.spell spelling)) = ofText text :=
  ofText_spell (hasDistinctLabels_ofText text) hlegible

/-! ## Main result -/

/-- The metadata of a text are found without a failure, and shown as they are given. They are what its object says; no text
that has no object, or one with a field of another type, has any. Every text of metadata says them, and so does what is
spelt of them. -/
theorem ofText_faithful (text : String) :
    metadataOf (.ofString text) = .ok (ofText text).shown ∧
    (∀ members metadata, IsDocument text.toList (.obj members) → Tells members metadata → ofText text = metadata) ∧
    ((¬∃ members metadata, IsDocument text.toList (.obj members) ∧ Tells members metadata) → ofText text = .none) ∧
    ∀ metadata : GivenMetadata, (IsDocument text.toList metadata.toJson → ofText text = metadata) ∧
      (metadata.HasDistinctLabels → ∀ spelling : Spelling, spelling.IsLegible →
        ofText (String.ofList (metadata.toJson.spell spelling)) = metadata) := by
  refine ⟨metadataOf_text text, fun _ _ => ofText_of_tells, ofText_eq_none, fun metadata => ⟨?_, ?_⟩⟩
  · exact fun hdocument => ofText_of_tells hdocument (tells_fields metadata)
  · exact fun hdistinct _ hlegible => ofText_spell hdistinct hlegible

/-- A repeated name has its last value in its first place, a field of another name is passed over, and a name that is half
of a surrogate pair is kept; one field of another type leaves nothing of the rest. -/
theorem ofText_faithful_of_texts :
    let half : JsonString := .unpaired [0xD800] (by decide)
    ofText "\x7b\"name\": \"\\ud800\", \"variables\": \x7b\"b\": \"1\", \"a\": \"2\", \"b\": \"3\"\x7d, \"size\": null\x7d" =
      ⟨some half, none, none, some [("b", "3"), ("a", "2")], none, []⟩ ∧
    ofText "\x7b\"name\": \"Hero\", \"dependencies\": [true]\x7d" = .none ∧
    ofText (String.ofList (toJson ⟨some half, none, none, some [("b", "3"), ("a", "2")], none, ["react"]⟩ |>.spell .plain)) =
      ⟨some half, none, none, some [("b", "3"), ("a", "2")], none, ["react"]⟩ := by
  intro half
  refine ⟨?_, ?_, ?_⟩
  · refine (ofText_faithful _).2.1 [(.text "name", .str half),
      (.text "variables", .ofEntries [("b", "3"), ("a", "2")]), (.text "size", .null)] _ ?_ ⟨rfl, rfl, rfl, rfl, rfl, rfl⟩
    rw [← Json.read_eq_ok_iff]
    simp only [String.reduceToList]
    rfl
  · refine (ofText_faithful _).2.2.1 ?_
    rintro ⟨members, metadata, hdocument, htells⟩
    have hread : Json.read "\x7b\"name\": \"Hero\", \"dependencies\": [true]\x7d".toList =
        .ok (.obj [(.text "name", .ofString "Hero"), (.text "dependencies", .arr [.bool true])]) := by
      simp only [String.reduceToList]
      rfl
    rw [Json.read_eq_ok_iff.mpr hdocument] at hread
    cases hread
    -- no list of strings holds a truth value
    have hdependencies : Json.arr [.bool true] = .arr (metadata.dependencies.map .str) := htells.dependencies
    cases hnames : metadata.dependencies <;> rw [hnames] at hdependencies <;> cases hdependencies
  · refine ((ofText_faithful "").2.2.2 _).2 ?_ _ Spelling.isLegible_plain
    rintro _ ⟨⟩
    decide

end Showcase.Component.GivenMetadata
