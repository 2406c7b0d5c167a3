import Showcase.Proofs.Template.Pieces
import Showcase.Service.Builder
import Showcase.Session.Basic

/-!
# Filling in a template by stages

A template may be filled in with some values now and others later. Values that are not empty and hold no braces leave the
rest of the template as it was read: no placeholder comes about beside them, and none is lost. So filling in by stages is
filling in at once, and the names that are told to be open are the placeholders that are still to be seen.
-/

namespace Showcase

/-- Every text that a name has is filled and without braces. -/
def Bindings.AreBraceless (bindings : Bindings) : Prop :=
  ∀ name text, bindings.get? name = some text → text ≠ "" ∧ '{' ∉ text.toList ∧ '}' ∉ text.toList

/-- Of two tables, one after the other, the first goes before the second. -/
theorem Bindings.get?_append (first second : Bindings) (name : String) :
    Bindings.get? (first ++ second) name = (first.get? name).or (second.get? name) := List.lookup_append

namespace Template

variable {bindings : Bindings}

/-! ## Filling in piece by piece -/

/-- The pieces that a piece becomes under bindings: a bound placeholder becomes the letters of its text. -/
def refill (bindings : Bindings) : Piece → List Piece
  | .letter c => [.letter c]
  | .placeholder body =>
    match bindings.get? (nameOf body) with
    | some text => text.toList.map .letter
    | none => [.placeholder body]

@[simp] theorem refill_letter (bindings : Bindings) (c : Char) : refill bindings (.letter c) = [.letter c] := rfl

theorem refill_bound {body : List Char} {text : String} (h : bindings.get? (nameOf body) = some text) :
    refill bindings (.placeholder body) = text.toList.map .letter := by
  simp only [refill, h]

theorem refill_open {body : List Char} (h : bindings.get? (nameOf body) = none) :
    refill bindings (.placeholder body) = [.placeholder body] := by
  simp only [refill, h]

@[simp] theorem written_letters (s : List Char) : written (s.map .letter) = s := by
  induction s with
  | nil => rfl
  | cons c rest ih => rw [List.map_cons, written_letter, ih]

/-- What is filled in is what the pieces become. -/
theorem written_refill (bindings : Bindings) (division : List Piece) :
    written (division.flatMap (refill bindings)) = division.flatMap (fill bindings) := by
  induction division with
  | nil => rfl
  | cons piece later ih =>
    rw [List.flatMap_cons, List.flatMap_cons, written_append, ih]
    cases piece with
    | letter c => rfl
    | placeholder body =>
      cases hbound : bindings.get? (nameOf body) with
      | none => simp [refill, fill, hbound, Piece.text]
      | some text => simp only [refill, fill, hbound, written_letters]

theorem toList_substitute (html : String) (bindings : Bindings) :
    (substitute html bindings).toList = written ((pieces html.toList).flatMap (refill bindings)) := by
  unfold substitute
  split
  · -- without bindings every placeholder stays as it is written
    rename_i hempty
    obtain rfl : bindings = [] := List.isEmpty_iff.mp hempty
    have hkept : refill [] = fun piece => [piece] := by
      funext piece
      cases piece <;> rfl
    rw [hkept, List.flatMap_singleton', (isReading_pieces html.toList).2]
  · rw [String.toList_ofList, written_refill]

/-! ## Reading what was filled in -/

/-- What is filled in begins with a closing brace where the template does. -/
theorem head_written_refill (bindings : Bindings) {division : List Piece} (h : (written division).head? = some '}') :
    (written (division.flatMap (refill bindings))).head? = some '}' := by
  cases division with
  | nil => cases h
  | cons piece later =>
    cases piece with
    | letter c => exact h
    | placeholder body =>
      rw [written_placeholder] at h
      cases h

theorem closing_of_refill (hplain : bindings.AreBraceless) {division : List Piece} (hreading : IsReading division)
    (h : (written (division.flatMap (refill bindings))).head? = some '}') : (written division).head? = some '}' := by
  cases hreading with
  | nil => cases h
  | letter hfree hlater => exact h
  | @placeholder body later hbody hlater =>
    rw [List.flatMap_cons, written_append] at h
    cases hbound : bindings.get? (nameOf body) with
    | none =>
      rw [refill_open hbound, written_placeholder] at h
      cases h
    | some text =>
      -- a text that is filled and without braces begins with no brace
      obtain ⟨hfilled, -, hclosing⟩ := hplain _ _ hbound
      rw [refill_bound hbound, written_letters] at h
      rcases htext : text.toList with _ | ⟨c, rest⟩
      · exact absurd (String.toList_eq_nil_iff.mp htext) hfilled
      · rw [htext] at h hclosing
        obtain rfl : c = '}' := Option.some.inj h
        exact absurd List.mem_cons_self hclosing

/-- A text has a pair of closing braces before any single one. -/
def Closes (s : List Char) : Prop := ∃ body rest, '}' ∉ body ∧ s = body ++ '}' :: '}' :: rest

theorem closes_cons_of_ne {c : Char} (hc : c ≠ '}') {s : List Char} : Closes (c :: s) ↔ Closes s := by
  constructor
  · rintro ⟨body, rest, hbody, hs⟩
    cases body with
    | nil =>
      obtain ⟨rfl, -⟩ := List.cons.inj hs
      exact absurd rfl hc
    | cons d body =>
      obtain ⟨-, rfl⟩ := List.cons.inj hs
      exact ⟨body, rest, fun hmem => hbody (List.mem_cons_of_mem d hmem), rfl⟩
  · rintro ⟨body, rest, hbody, rfl⟩
    exact ⟨c :: body, rest, by simp [hbody, Ne.symm hc], rfl⟩

theorem closes_closing {s : List Char} : Closes ('}' :: s) ↔ s.head? = some '}' := by
  constructor
  · rintro ⟨body, rest, hbody, hs⟩
    cases body with
    | nil =>
      obtain ⟨-, rfl⟩ := List.cons.inj hs
      rfl
    | cons d body =>
      obtain ⟨rfl, -⟩ := List.cons.inj hs
      exact absurd List.mem_cons_self hbody
  · intro h
    obtain ⟨rest, rfl⟩ := List.head?_eq_some_iff.mp h
    exact ⟨[], rest, List.not_mem_nil, rfl⟩

theorem closes_placeholder {body : List Char} (hbody : IsBody body) (rest : List Char) :
    Closes ('{' :: '{' :: (body ++ '}' :: '}' :: rest)) :=
  ⟨'{' :: '{' :: body, rest, by simp [hbody.2], rfl⟩

/-- A pair of closing braces that comes first after filling in came first before. -/
theorem closes_of_refill (hplain : bindings.AreBraceless) {division : List Piece} (hreading : IsReading division)
    (h : Closes (written (division.flatMap (refill bindings)))) : Closes (written division) := by
  induction hreading with
  | nil => exact h
  | @letter c later hfree hlater ih =>
    rw [List.flatMap_cons, refill_letter, List.singleton_append, written_letter] at h
    rw [written_letter]
    by_cases hc : c = '}'
    · subst hc
      exact closes_closing.mpr (closing_of_refill hplain hlater (closes_closing.mp h))
    · exact (closes_cons_of_ne hc).mpr (ih ((closes_cons_of_ne hc).mp h))
  | @placeholder body later hbody hlater ih =>
    -- whatever is filled in, a placeholder closes by itself
    rw [written_placeholder]
    exact closes_placeholder hbody _

/-- A placeholder begins where a pair of opening braces is closed, with something between. -/
theorem opens_cons {c : Char} {s : List Char} :
    Opens (c :: s) ↔ c = '{' ∧ ∃ t, s = '{' :: t ∧ Closes t ∧ t.head? ≠ some '}' := by
  constructor
  · rintro ⟨body, rest, ⟨hfilled, hbody⟩, hs⟩
    obtain ⟨rfl, rfl⟩ := List.cons.inj hs
    refine ⟨rfl, _, rfl, ⟨body, rest, hbody, rfl⟩, fun hhead => ?_⟩
    cases body with
    | nil => exact hfilled rfl
    | cons d body =>
      obtain rfl : d = '}' := Option.some.inj hhead
      exact hbody List.mem_cons_self
  · rintro ⟨rfl, _, rfl, ⟨body, rest, hbody, rfl⟩, hhead⟩
    refine ⟨body, rest, ⟨fun hnil => hhead ?_, hbody⟩, rfl⟩
    rw [hnil]
    rfl

/-- No placeholder comes about where a letter stood. -/
theorem opens_of_refill (hplain : bindings.AreBraceless) {c : Char} {later : List Piece} (hlater : IsReading later)
    (h : Opens (c :: written (later.flatMap (refill bindings)))) : Opens (c :: written later) := by
  obtain ⟨rfl, t, ht, hcloses, hhead⟩ := opens_cons.mp h
  refine opens_cons.mpr ⟨rfl, ?_⟩
  cases hlater with
  | nil => cases ht
  | @letter d later hfree hlater =>
    rw [List.flatMap_cons, refill_letter, List.singleton_append, written_letter] at ht
    obtain ⟨rfl, rfl⟩ := List.cons.inj ht
    exact ⟨written later, rfl, closes_of_refill hplain hlater hcloses,
      fun hclosing => hhead (head_written_refill bindings hclosing)⟩
  | @placeholder body later hbody hlater =>
    rw [written_placeholder]
    refine ⟨_, rfl, ?_, by simp⟩
    exact (closes_cons_of_ne (by decide)).mp (closes_placeholder hbody _)

theorem isReading_letters {s : List Char} (hs : '{' ∉ s) {later : List Piece} (hlater : IsReading later) :
    IsReading (s.map .letter ++ later) := by
  induction s with
  | nil => exact hlater
  | cons c rest ih =>
    refine .letter (fun hopens => ?_) (ih fun hmem => hs (List.mem_cons_of_mem c hmem))
    obtain ⟨rfl, -⟩ := opens_cons.mp hopens
    exact hs List.mem_cons_self

/-- The pieces of what was filled in are what the pieces became. -/
theorem IsReading.refill (hplain : bindings.AreBraceless) {division : List Piece} (h : IsReading division) :
    IsReading (division.flatMap (Template.refill bindings)) := by
  induction h with
  | nil => exact .nil
  | letter hfree hlater ih => exact .letter (fun hopens => hfree (opens_of_refill hplain hlater hopens)) ih
  | @placeholder body later hbody hlater ih =>
    rw [List.flatMap_cons]
    cases hbound : bindings.get? (nameOf body) with
    | none =>
      rw [refill_open hbound]
      exact .placeholder hbody ih
    | some text =>
      rw [refill_bound hbound]
      exact isReading_letters (hplain _ _ hbound).2.1 ih

theorem pieces_substitute (hplain : bindings.AreBraceless) (html : String) :
    pieces (substitute html bindings).toList = (pieces html.toList).flatMap (refill bindings) := by
  rw [toList_substitute]
  exact ((isReading_pieces html.toList).1.refill hplain).pieces_written

/-! ## Names -/

/-- The name that a piece asks for, unless it is blank. -/
def Piece.name? : Piece → Option String
  | .letter _ => none
  | .placeholder body => if (Text.trim body).isEmpty then none else some (nameOf body)

theorem occurringNames_eq (html : String) : occurringNames html = (pieces html.toList).filterMap Piece.name? := by
  unfold occurringNames
  congr 1

theorem filterMap_name_letters (s : List Char) : (s.map Piece.letter).filterMap Piece.name? = [] := by
  simp [List.filterMap_map, Function.comp_def, Piece.name?]

/-- The names that pieces still ask for are those without a binding. -/
theorem filterMap_name_refill (bindings : Bindings) (division : List Piece) :
    (division.flatMap (refill bindings)).filterMap Piece.name? =
      (division.filterMap Piece.name?).filter fun name => !bindings.has name := by
  induction division with
  | nil => rfl
  | cons piece later ih =>
    rw [List.flatMap_cons, List.filterMap_append, ih]
    cases piece with
    | letter c => rfl
    | placeholder body =>
      cases hbound : bindings.get? (nameOf body) with
      | none =>
        rw [refill_open hbound]
        by_cases hblank : (Text.trim body).isEmpty = true
        · simp [Piece.name?, hblank]
        · simp [Piece.name?, hblank, Bindings.has, hbound]
      | some text =>
        rw [refill_bound hbound, filterMap_name_letters]
        by_cases hblank : (Text.trim body).isEmpty = true
        · simp [Piece.name?, hblank]
        · simp [Piece.name?, hblank, Bindings.has, hbound]

/-- Leaving out names does not change which occurrences of the others are the first. -/
theorem firstOccurrences_filter (keeps : String → Bool) (names : List String) :
    firstOccurrences (names.filter keeps) = (firstOccurrences names).filter keeps := by
  suffices h : ∀ seen : List String,
      (names.filter keeps).foldl (fun seen name => if seen.contains name then seen else seen ++ [name])
          (seen.filter keeps) =
        (names.foldl (fun seen name => if seen.contains name then seen else seen ++ [name]) seen).filter keeps by
    exact h []
  induction names with
  | nil => exact fun _ => rfl
  | cons name others ih =>
    intro seen
    rw [List.foldl_cons, ← ih]
    by_cases hkept : keeps name = true
    · rw [List.filter_cons_of_pos hkept, List.foldl_cons]
      by_cases hseen : name ∈ seen <;> simp [hseen, hkept]
    · rw [List.filter_cons_of_neg hkept]
      by_cases hseen : name ∈ seen <;> simp [hseen, hkept]

/-- The placeholders that are still to be seen are those without a binding. -/
theorem placeholders_substitute (hplain : bindings.AreBraceless) (html : String) :
    placeholders (substitute html bindings) = unresolved html bindings := by
  rw [placeholders, occurringNames_eq, pieces_substitute hplain, filterMap_name_refill, firstOccurrences_filter,
    ← occurringNames_eq]
  rfl

/-! ## Stages -/

/-- What a piece becomes by two stages. -/
theorem flatMap_fill_refill {first second merged : Bindings}
    (hmerged : ∀ name, merged.get? name = (first.get? name).or (second.get? name)) (piece : Piece) :
    (refill first piece).flatMap (fill second) = fill merged piece := by
  cases piece with
  | letter c => rfl
  | placeholder body =>
    cases hbound : first.get? (nameOf body) with
    | none => simp [refill, fill, hbound, hmerged]
    | some text => simp [refill, fill, hbound, hmerged, List.flatMap_map]

theorem substitute_eq (html : String) (bindings : Bindings) :
    substitute html bindings = String.ofList ((pieces html.toList).flatMap (fill bindings)) := by
  rw [← String.toList_inj, toList_substitute, written_refill, String.toList_ofList]

/-- Filling in by two stages is filling in at once, where the first stage goes before the second. -/
theorem substitute_substitute {first second merged : Bindings} (hplain : first.AreBraceless)
    (hmerged : ∀ name, merged.get? name = (first.get? name).or (second.get? name)) (html : String) :
    substitute (substitute html first) second = substitute html merged := by
  rw [substitute_eq _ second, pieces_substitute hplain, List.flatMap_assoc, substitute_eq html merged]
  simp only [flatMap_fill_refill hmerged]

/-- For a template and values that are filled and without braces: what is told to be open are exactly the placeholders
that are still to be seen, in their order; other values fill them in later as they would have at once; and that is what
the service tells beside a text or a preview, and what a session tells about its component. -/
theorem staged_substitution (html : String) (first : Bindings) (hplain : first.AreBraceless) :
    let shown := substitute html first
    placeholders shown = unresolved html first ∧
    (∀ second merged : Bindings, (∀ name, merged.get? name = (first.get? name).or (second.get? name)) →
      substitute shown second = substitute html merged) ∧
    Service.substitute ⟨html, first⟩ =
      .success [("html", .ofString shown), ("unresolved", .ofStrings (placeholders shown))] ∧
    (∀ css, Service.staticPreview ⟨html, css, first⟩ = (Preview.staticDocument html css first).map fun document =>
      .success [("document", .ofString document), ("sandbox", .ofString Preview.sandboxPolicy),
        ("unresolved", .ofStrings (placeholders shown))]) ∧
    ∀ {σ : Type} (session : Session σ) (component : Component), session.component = some component →
      component.html = html → session.bindings = first → session.unresolved = placeholders shown := by
  intro shown
  have hopen : placeholders shown = unresolved html first := placeholders_substitute hplain html
  refine ⟨hopen, fun second merged hmerged => substitute_substitute hplain hmerged html, ?_, fun css => ?_, ?_⟩
  · rw [hopen]
    rfl
  · rw [hopen, Service.staticPreview, Preview.StaticRenderer.render]
    cases Preview.staticDocument html css first <;> rfl
  · rintro σ session component hcomponent rfl rfl
    rw [hopen, Session.unresolved, hcomponent]

/-- A template of which one placeholder is filled in at first, between stray braces. -/
theorem staged_substitution_of_title :
    let html := "\x7b\x7b\x7b\x7d\x7b\x7btitle\x7d\x7d\x7d\x7b\x7b text \x7d\x7d"
    let first := [("title", "Hello")]
    Bindings.AreBraceless first ∧ placeholders (substitute html first) = ["text"] ∧
      substitute (substitute html first) [("text", "\x7b\x7bx\x7d\x7d")] =
        substitute html [("title", "Hello"), ("text", "\x7b\x7bx\x7d\x7d")] := by
  intro html first
  have hplain : Bindings.AreBraceless first := by
    intro name text htext
    by_cases hname : name = "title"
    · subst hname
      obtain rfl : "Hello" = text := Option.some.inj htext
      decide
    · have hother : (name == "title") = false := beq_false_of_ne hname
      simp [first, Bindings.get?, List.lookup_cons, hother] at htext
  obtain ⟨hopen, hstages, -⟩ := staged_substitution html first hplain
  exact ⟨hplain, hopen.trans (by decide +kernel), hstages _ _ (Bindings.get?_append first _)⟩

end Template

end Showcase
