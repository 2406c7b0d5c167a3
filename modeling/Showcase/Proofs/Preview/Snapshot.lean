import Showcase.Preview.Dynamic
import Showcase.Proofs.Record.Field

/-!
# What a document publishes

A document that runs a component publishes how far it got. A surface that is read again and again answers one snapshot
after the other; each shows a phase, and an error with it is read as it was published, or as an unknown one.

* `Surface.snapshot_after` — the snapshots that are left after so many reads.
* `phaseOf_eq` — every snapshot with a text for its state shows a phase.
* `publishedError_eq_ok` — which errors are read from a snapshot.
-/

namespace Showcase.Preview

/-! ## Reading again -/

namespace Surface

/-- What a surface answers when it was read so many times before. -/
def snapshot (surface : Surface) (index : Nat) : Json :=
  (surface.snapshots[index]?).getD (surface.snapshots.getLast?.getD .null)

/-- A surface that was read so many times more. -/
def after (surface : Surface) : Nat → Surface
  | 0 => surface
  | count + 1 => (surface.after count).read.2

theorem read_eq (surface : Surface) : surface.read.1 = surface.snapshot 0 := by
  unfold read snapshot
  cases surface.snapshots <;> rfl

theorem snapshot_read (surface : Surface) (index : Nat) :
    surface.read.2.snapshot index = surface.snapshot (index + 1) := by
  unfold read snapshot
  dsimp only
  cases surface.snapshots with
  | nil => rfl
  | cons first later =>
    cases later with
    | nil => cases index <;> rfl
    | cons second others => rfl

theorem snapshot_after (surface : Surface) (count index : Nat) :
    (surface.after count).snapshot index = surface.snapshot (count + index) := by
  induction count generalizing index with
  | zero => rw [Nat.zero_add, after]
  | succ count ih => rw [after, snapshot_read, ih, Nat.add_assoc, Nat.add_comm 1]

/-- Reading changes nothing about a surface but what it is going to answer and how often it was read. -/
theorem after_eq (surface : Surface) (count : Nat) :
    surface.after count =
      { surface with snapshots := (surface.after count).snapshots, reads := surface.reads + count } := by
  induction count with
  | zero => rfl
  | succ count ih =>
    rw [after, read, ih]
    rfl

@[simp] theorem after_reads (surface : Surface) (count : Nat) : (surface.after count).reads = surface.reads + count := by
  rw [after_eq]

@[simp] theorem after_writes (surface : Surface) (count : Nat) : (surface.after count).writes = surface.writes := by
  rw [after_eq]

@[simp] theorem after_document (surface : Surface) (count : Nat) : (surface.after count).document = surface.document := by
  rw [after_eq]

/-- A surface whose writes succeed. -/
structure Accepts (surface : Surface) : Prop where
  writable : surface.writable = true
  steady : surface.failing = 0

/-- A surface to which a document was written. -/
def showing (surface : Surface) (document : String) : Surface :=
  { surface with document := some document, writes := surface.writes + 1 }

/-- A write succeeds as a whole. -/
theorem write_eq_ok {surface : Surface} {document : String} :
    (surface.write document).1 = .ok () ↔ surface.write document = (.ok (), surface.showing document) := by
  refine ⟨fun h => ?_, fun h => congrArg Prod.fst h⟩
  unfold write at h ⊢
  split at h
  · cases h
  · split at h
    · cases h
    · rename_i hwritable hsteady
      rw [if_neg hwritable, if_neg hsteady]
      rfl

theorem write_of_accepts {surface : Surface} (h : surface.Accepts) (document : String) :
    surface.write document = (.ok (), surface.showing document) := by
  simp [write, showing, h.writable, h.steady]

theorem Accepts.showing {surface : Surface} (h : surface.Accepts) (document : String) :
    (surface.showing document).Accepts := ⟨h.writable, h.steady⟩

theorem Accepts.after {surface : Surface} (h : surface.Accepts) (count : Nat) : (surface.after count).Accepts := by
  rw [after_eq]
  exact ⟨h.writable, h.steady⟩

end Surface

/-! ## Phases -/

/-- What a document may publish: nothing, or an object with a text for its state. -/
inductive IsSnapshot : Json → Prop where
  | null : IsSnapshot .null
  | state {members : List (JsonString × Json)} {word : JsonString}
      (hstate : Json.member? members "state" = some (.str word)) : IsSnapshot (.obj members)

/-- The phase that a snapshot shows. Without a state, and with a word that is not known, the document still waits. -/
def shownPhase (snapshot : Json) : Phase :=
  match (snapshot.get? "state").bind Json.text? with
  | some word => .ofPublished word
  | none => .waiting

theorem phaseOf_eq {snapshot : Json} (h : IsSnapshot snapshot) : phaseOf snapshot = .ok (shownPhase snapshot) := by
  cases h with
  | null => rfl
  | @state members word hstate =>
    have hfilled : (Json.obj members).isTruthy = true := by
      cases members with
      | nil => cases hstate
      | cons member others => rfl
    simp only [phaseOf, shownPhase, hfilled, hstate, Json.get?, Bool.not_true, Bool.false_eq_true, if_false,
      Option.bind_some, Json.text?]

/-- A document that runs is never idle. -/
theorem shownPhase_cases (snapshot : Json) :
    shownPhase snapshot = .waiting ∨ shownPhase snapshot = .compiling ∨ shownPhase snapshot = .rendered ∨
      shownPhase snapshot = .errored := by
  unfold shownPhase
  split
  · unfold Phase.ofPublished
    grind
  · exact .inl rfl

/-- A snapshot at which the renderer stops looking. -/
def IsFinal (snapshot : Json) : Prop := shownPhase snapshot = .rendered ∨ shownPhase snapshot = .errored

instance (snapshot : Json) : Decidable (IsFinal snapshot) :=
  inferInstanceAs (Decidable (shownPhase snapshot = .rendered ∨ shownPhase snapshot = .errored))

/-- The first snapshot of a surface at which the renderer stops looking. -/
def IsFirstFinal (surface : Surface) (index : Nat) : Prop :=
  IsFinal (surface.snapshot index) ∧ ∀ earlier < index, ¬IsFinal (surface.snapshot earlier)

/-! ## Errors -/

theorem lookup_errorKinds {word : String} {kind : ErrorKind} : errorKinds.lookup word = some kind ↔ word = kind.name := by
  constructor
  · intro h
    simp only [errorKinds, List.map_cons, List.map_nil, List.lookup_cons, List.lookup_nil] at h
    split at h
    · rename_i hword
      cases h
      exact beq_iff_eq.mp hword
    · split at h
      · rename_i hword
        cases h
        exact beq_iff_eq.mp hword
      · split at h
        · rename_i hword
          cases h
          exact beq_iff_eq.mp hword
        · cases h
  · rintro rfl
    cases kind <;> rfl

/-- The members that describe an error: a known word for its kind, strings for title and message, and strings, null or
nothing for stack and excerpt. -/
structure Describes (members : List (JsonString × Json)) (error : PreviewError) : Prop where
  kind : Json.member? members "kind" = some (.ofString error.kind.name)
  title : Json.member? members "title" = some (.str error.title)
  message : Json.member? members "message" = some (.str error.message)
  stack : (Json.member? members "stack").getD .null = .ofNullable error.stack
  excerpt : (Json.member? members "excerpt").getD .null = .ofNullable error.excerpt

theorem ofMembers_eq_ok {members : List (JsonString × Json)} {error : PreviewError} :
    PreviewError.ofMembers members = .ok error ↔ Describes members error := by
  simp only [PreviewError.ofMembers, Fallible.ofChecked_eq_ok, Checked.field_eq_ok, Checked.record_eq_ok,
    Field.required_eq_ok, Field.optional_string_eq_ok, Field.choice_eq_ok, Field.string_eq_ok, lookup_errorKinds]
  constructor
  · rintro ⟨_, excerpt, ⟨_, stack, ⟨_, message, ⟨_, title, ⟨_, kind, rfl, ⟨_, hkind, _, rfl, rfl⟩, rfl⟩,
      ⟨_, htitle, rfl⟩, rfl⟩, ⟨_, hmessage, rfl⟩, rfl⟩, hstack, rfl⟩, hexcerpt, rfl⟩
    exact ⟨hkind, htitle, hmessage, hstack, hexcerpt⟩
  · intro h
    exact ⟨_, error.excerpt, ⟨_, error.stack, ⟨_, error.message, ⟨_, error.title, ⟨_, error.kind, rfl,
      ⟨_, h.kind, _, rfl, rfl⟩, rfl⟩, ⟨_, h.title, rfl⟩, rfl⟩, ⟨_, h.message, rfl⟩, rfl⟩, h.stack, rfl⟩, h.excerpt, rfl⟩

/-- The error that a snapshot reports: the one that it describes, or an unknown one when it holds none or what counts as
false. -/
inductive Reports (snapshot : Json) : PreviewError → Prop where
  | described {members : List (JsonString × Json)} {error : PreviewError}
      (hmember : snapshot.get? "error" = some (.obj members)) (hdescribed : Describes members error) :
      Reports snapshot error
  | unknown (hnone : ∀ value, snapshot.get? "error" = some value → value.isTruthy = false) :
      Reports snapshot unknownError

theorem publishedError_eq_ok {snapshot : Json} {error : PreviewError} :
    publishedError snapshot = .ok error ↔ Reports snapshot error := by
  constructor
  · intro h
    unfold publishedError at h
    split at h
    · rename_i hmember
      cases h
      refine .unknown fun value hvalue => ?_
      rw [hmember] at hvalue
      cases hvalue
      rfl
    · rename_i hmember
      cases h
      refine .unknown fun value hvalue => ?_
      rw [hmember] at hvalue
      cases hvalue
    · rename_i hmember
      exact .described hmember (ofMembers_eq_ok.mp h)
    · rename_i other hmember
      split at h
      · cases h
      · rename_i hfalse
        cases h
        refine .unknown fun value hvalue => ?_
        rw [hmember] at hvalue
        cases hvalue
        exact Bool.eq_false_iff.mpr hfalse
  · rintro (@⟨members, error, hmember, hdescribed⟩ | hnone)
    · -- an object without members counts as false, and describes nothing
      cases members with
      | nil => cases hdescribed.kind
      | cons member others =>
        unfold publishedError
        rw [hmember]
        exact ofMembers_eq_ok.mpr hdescribed
    · unfold publishedError
      split
      · rfl
      · rfl
      · rename_i members hempty hmember
        have hfalse := hnone _ hmember
        cases members with
        | nil => exact absurd rfl hempty
        | cons member others => cases hfalse
      · rename_i other hmember
        rw [hnone _ hmember]
        rfl

/-- An error that is not described is no failure that a caller can act on. -/
theorem publishedError_ne_engine (snapshot : Json) (error : EngineError) :
    publishedError snapshot ≠ .error (.engine error) := by
  intro h
  unfold publishedError at h
  split at h
  · cases h
  · cases h
  · unfold PreviewError.ofMembers Fallible.ofChecked at h
    split at h <;> cases h
  · split at h <;> cases h

end Showcase.Preview
