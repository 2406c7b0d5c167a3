import Showcase.Proofs.Component.Calls

/-!
# Calls that stop at a failure

A directory that does not exist is passed over by whoever reads a project. Every other failure of a listing ends the
reading. Computations that keep to this, and list certain directories only, are composed of such; the styles and the
metadata of a project are read by two of them.
-/

namespace Showcase.Component

open Network

variable {α β : Type} {client : Client} {location : SourceLocation}

/-! ## Failures of listings -/

/-- A listing that fails, and not because there is no such directory. -/
inductive Call.FailsWith : Call → Failure → Prop where
  | listing {path : String} {failure : Failure} (hpresent : ¬IsAbsence failure) :
    FailsWith (.listing path (.error failure)) failure

theorem failsWith_listing {path : String} {made : Fallible (List Entry)} {failure : Failure} :
    (Call.listing path made).FailsWith failure ↔ made = .error failure ∧ ¬IsAbsence failure := by
  constructor
  · intro h
    cases h with
    | listing hpresent => exact ⟨rfl, hpresent⟩
  · rintro ⟨rfl, hpresent⟩
    exact .listing hpresent

theorem not_failsWith_of_orEmpty {made : Fallible (List Entry)} {entries : List Entry} (h : orEmpty made = .ok entries)
    (path : String) (failure : Failure) : ¬(Call.listing path made).FailsWith failure := by
  rw [failsWith_listing]
  intro hfails
  cases h.symm.trans (orEmpty_eq_error.mpr hfails)

theorem not_failsWith_content {url : String} {made : Fallible Json} {failure : Failure} :
    ¬(Call.content url made).FailsWith failure := nofun

/-- A listing that fails so is the last call, and its failure is what the calls come to. -/
def StopsAtFailure : List Call → Fallible α → Prop
  | [], _ => True
  | call :: later, result =>
    (∀ failure, call.FailsWith failure → later = [] ∧ result = .error failure) ∧ StopsAtFailure later result

theorem StopsAtFailure.append {calls later : List Call} {result : Fallible α}
    (hcalls : ∀ call ∈ calls, ∀ failure, ¬call.FailsWith failure) (hlater : StopsAtFailure later result) :
    StopsAtFailure (calls ++ later) result := by
  induction calls with
  | nil => exact hlater
  | cons call calls ih =>
    obtain ⟨hcall, hcalls⟩ := List.forall_mem_cons.mp hcalls
    exact ⟨fun failure hfails => absurd hfails (hcall failure), ih hcalls⟩

theorem stopsAtFailure_listing (path : String) (failure : Failure) :
    StopsAtFailure [.listing path (.error failure)] (.error failure : Fallible α) := by
  refine ⟨fun other hfails => ⟨rfl, ?_⟩, trivial⟩
  rw [Except.error.inj (failsWith_listing.mp hfails).1]

theorem stopsAtFailure_of_not_failsWith {calls : List Call} {result : Fallible α}
    (h : ∀ call ∈ calls, ∀ failure, ¬call.FailsWith failure) : StopsAtFailure calls result := by
  have hstops : StopsAtFailure (calls ++ []) result := StopsAtFailure.append h trivial
  rwa [List.append_nil] at hstops

/-- Where calls come to a value, no listing has failed so. -/
theorem StopsAtFailure.not_failsWith {calls : List Call} {value : α} (h : StopsAtFailure calls (.ok value)) :
    ∀ call ∈ calls, ∀ failure, ¬call.FailsWith failure := by
  induction calls with
  | nil => exact nofun
  | cons call calls ih =>
    refine List.forall_mem_cons.mpr ⟨fun failure hfails => ?_, ih h.2⟩
    cases (h.1 failure hfails).2

/-! ## Orderly calls -/

/-- Calls that list certain directories only, stop at a failure, and come to no failure of parsing of their own. -/
structure Orderly (lists : String → Prop) (calls : List Call) (result : Fallible α) : Prop where
  lists : ∀ path made, .listing path made ∈ calls → lists path
  stops : StopsAtFailure calls result
  unparsed : (∀ call ∈ calls, call.IsUnparsed) → ¬IsParseFailure result

section

variable {lists : String → Prop}

theorem orderly_nil {result : Fallible α} (hresult : ¬IsParseFailure result) : Orderly lists [] result :=
  ⟨nofun, trivial, fun _ => hresult⟩

theorem Orderly.append {calls later : List Call} {value : α} {result : Fallible β}
    (hcalls : Orderly lists calls (.ok value)) (hlater : Orderly lists later result) :
    Orderly lists (calls ++ later) result where
  lists path made hmem := (List.mem_append.mp hmem).elim (hcalls.lists path made) (hlater.lists path made)
  -- a listing that fails would keep the first calls from coming to a value
  stops := hlater.stops.append hcalls.stops.not_failsWith
  unparsed hunparsed := hlater.unparsed fun call hcall => hunparsed call (List.mem_append_right _ hcall)

theorem StopsAtFailure.cast {calls : List Call} {failure : Failure}
    (h : StopsAtFailure calls (.error failure : Fallible α)) : StopsAtFailure calls (.error failure : Fallible β) := by
  induction calls with
  | nil => trivial
  | cons call calls ih =>
    refine ⟨fun other hfails => ?_, ih h.2⟩
    obtain ⟨hlast, heq⟩ := h.1 other hfails
    cases heq
    exact ⟨hlast, rfl⟩

theorem Orderly.cast {calls : List Call} {failure : Failure} (h : Orderly lists calls (.error failure : Fallible α)) :
    Orderly lists calls (.error failure : Fallible β) :=
  ⟨h.lists, h.stops.cast, fun hunparsed hparse => h.unparsed hunparsed hparse.cast⟩

theorem proceeds_orderly_andThen {work : Remote α} {next : α → Remote β}
    (hwork : Proceeds client location work (Orderly lists))
    (hnext : ∀ value, Proceeds client location (next value) (Orderly lists)) :
    Proceeds client location (work.andThen next) (Orderly lists) := by
  refine hwork.andThen (fun calls failure h => h.cast) fun calls value hcalls => ?_
  exact (hnext value).mono fun later result hlater => hcalls.append hlater

theorem proceeds_orderly_done {result : Fallible α} (hresult : FailsWithin (fun error => error.cause ≠ .parse) result) :
    Proceeds client location (.done result) (Orderly lists) :=
  .done (orderly_nil hresult.not_isParseFailure)

theorem proceeds_orderly_fetch (url : String) :
    Proceeds client location (client.fetch url).toRemote (Orderly lists) := by
  refine (proceeds_fetch client location url).mono ?_
  rintro calls result rfl
  refine ⟨?_, ⟨?_, trivial⟩, fun hunparsed => hunparsed _ (List.mem_singleton.mpr rfl)⟩
  · intro path made hmem
    cases List.mem_singleton.mp hmem
  · intro failure hfails
    cases hfails

/-- An attempt to fetch a content comes to a value, whatever becomes of the content. -/
theorem proceeds_orderly_attempt (url : String) :
    Proceeds client location (client.fetch url).toRemote.attempt (Orderly lists) := by
  refine (proceeds_fetch client location url).attempt.mono ?_
  rintro calls result ⟨made, rfl, rfl⟩
  refine ⟨?_, ⟨?_, trivial⟩, fun _ => (failsWithin_ok made).not_isParseFailure⟩
  · intro path entries hmem
    cases List.mem_singleton.mp hmem
  · intro failure hfails
    cases hfails

theorem proceeds_orderly_listOrEmpty {path : String} (hpath : lists path) :
    Proceeds client location (listOrEmpty client location path) (Orderly lists) := by
  refine (proceeds_listOrEmpty client location path).mono ?_
  rintro calls result ⟨made, rfl, rfl⟩
  refine ⟨?_, ⟨?_, trivial⟩, fun hunparsed => ?_⟩
  · intro other entries hmem
    cases List.mem_singleton.mp hmem
    exact hpath
  · intro failure hfails
    cases hfails with
    | listing hpresent => exact ⟨rfl, orEmpty_eq_error.mpr ⟨rfl, hpresent⟩⟩
  · -- a failure that is left is the one that the listing came to
    have hmade : ¬IsParseFailure made := hunparsed _ (List.mem_singleton.mpr rfl)
    rintro ⟨error, herror, hcause⟩
    exact hmade ⟨error, (orEmpty_eq_error.mp herror).1, hcause⟩

end

/-! ## Styles and metadata -/

section

variable {errors : EngineError → Prop}

theorem failsWithin_joinable (index : Nat) (contents : List Json) : FailsWithin errors (joinable index contents) := by
  induction contents generalizing index with
  | nil => exact failsWithin_ok _
  | cons content contents ih =>
    unfold joinable
    split
    · exact (ih _).bind fun _ => failsWithin_ok _
    · exact failsWithin_of_ne_engine nofun

theorem failsWithin_metadataOf (content : Json) : FailsWithin errors (metadataOf content) := by
  unfold metadataOf
  split
  · exact failsWithin_ok _
  · split
    · exact failsWithin_of_ne_engine nofun
    · exact failsWithin_ok _

theorem failsWithin_scannedText (content : Json) : FailsWithin errors (scannedText content) := by
  unfold scannedText
  split
  · exact failsWithin_ok _
  · split
    · exact failsWithin_of_ne_engine nofun
    · exact failsWithin_ok _

theorem failsWithin_labelsOf (source : String) : FailsWithin errors (Variables.ofSource source) := by
  have hwords : FailsWithin errors (Variables.words source) := by
    refine failsWithin_mapM (fun found => failsWithin_of_ne_engine fun error h => ?_) _
    unfold Variables.canonical at h
    split at h <;> cases h
  exact hwords.bind fun found => failsWithin_ok _

theorem failsWithin_checkedTexts (contents : List (String × Json)) : FailsWithin errors (checkedTexts contents) := by
  refine failsWithin_of_ne_engine fun error h => ?_
  unfold checkedTexts Fallible.ofChecked at h
  split at h <;> cases h

/-- What is made of a source that was read fails by no error with a cause. -/
theorem failsWithin_ofSource (entry : Entry) (source : Json) (css : String) (metadata : Metadata) :
    FailsWithin errors (ofSource entry source css metadata) := by
  refine (failsWithin_scannedText source).bind fun text => ?_
  have hscript : ∀ content, FailsWithin errors ((checkedTexts [("script", content)]).map List.head?) :=
    fun content => (failsWithin_checkedTexts _).map _
  dsimp only
  -- the labels are given or found, and either way a script follows or none
  cases metadata.labels with
  | some given =>
    refine (failsWithin_ok given).bind fun labels => ?_
    split
    · exact failsWithin_ok _
    · exact (hscript _).bind fun script => failsWithin_ok _
  | none =>
    refine (failsWithin_labelsOf text).bind fun labels => ?_
    split
    · exact failsWithin_ok _
    · exact (hscript _).bind fun script => failsWithin_ok _

end

theorem proceeds_fetchEach {lists : String → Prop} (urls : List String) :
    Proceeds client location (fetchEach client urls) (Orderly lists) := by
  induction urls with
  | nil => exact proceeds_orderly_done (failsWithin_ok _)
  | cons url urls ih =>
    refine proceeds_orderly_andThen (proceeds_orderly_fetch url) fun content => ?_
    exact proceeds_orderly_andThen ih fun contents => proceeds_orderly_done (failsWithin_ok _)

/-- Where styles and metadata of a project are looked for: in a directory of styles among the sources, and at the root. -/
inductive IsBeside (location : SourceLocation) (sources : List Entry) : String → Prop where
  | styles {entry : Entry} (hmem : entry ∈ sources) (hdirectory : entry.isDirectory = true)
    (hname : entry.name = stylesDirectory) : IsBeside location sources entry.path
  | root : IsBeside location sources location.path

theorem proceeds_collectStyles (sources : List Entry) :
    Proceeds client location (collectStyles client location sources) (Orderly (IsBeside location sources)) := by
  unfold collectStyles
  split
  · exact proceeds_orderly_done (failsWithin_ok _)
  · rename_i directory hfound
    have hwanted := List.find?_some hfound
    rw [Bool.and_eq_true, beq_iff_eq] at hwanted
    have hbeside : IsBeside location sources directory.path :=
      .styles (List.mem_of_find?_eq_some hfound) hwanted.1 hwanted.2
    refine proceeds_orderly_andThen (proceeds_orderly_listOrEmpty hbeside) fun entries => ?_
    refine proceeds_orderly_andThen (proceeds_fetchEach _) fun contents => proceeds_orderly_done ?_
    exact (failsWithin_joinable 0 contents).map _

theorem proceeds_rootMetadata (sources : List Entry) :
    Proceeds client location (rootMetadata client location) (Orderly (IsBeside location sources)) := by
  refine proceeds_orderly_andThen (proceeds_orderly_listOrEmpty .root) fun entries => ?_
  split
  · exact proceeds_orderly_done (failsWithin_ok _)
  · rename_i url _
    refine proceeds_orderly_andThen (proceeds_orderly_attempt url) fun made => ?_
    split
    · exact proceeds_orderly_done (failsWithin_metadataOf _)
    · exact proceeds_orderly_done (failsWithin_ok _)
    · rename_i failure hengine
      exact proceeds_orderly_done (failsWithin_of_ne_engine fun error h => hengine error (Except.error.inj h))

end Showcase.Component
