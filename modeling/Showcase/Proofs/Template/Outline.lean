import Mathlib.Data.List.Basic
import Mathlib.Data.Nat.Find
import Showcase.Proofs.Template.Staged

/-!
# Outlines of templates

A template is outlined by its placeholders and by the literal stretches before, between and after them. An outline says of
itself that each placeholder begins at the earliest place possible, and every template has exactly one. Filling in is
told by the outline alone: the stretches stay as they are and in their order, and each placeholder gives way to the text
that its name has, or stays. A text that is filled in is no part of the outline, whatever braces it holds.
-/

namespace Showcase.Template

/-! ## What an outline is -/

/-- A placeholder in its place: the literal stretch before it, and its body. -/
structure Slot where
  before : List Char
  body : List Char
deriving DecidableEq, Repr

/-- A text has these slots, and nothing but a literal stretch after the last of them. No placeholder begins within a
stretch, so each slot is as early as it can be. -/
inductive Outlines : List Char → List Slot → List Char → Prop where
  | last {s : List Char} (hfree : ∀ place, ¬Opens (s.drop place)) : Outlines s [] s
  | slot {before body rest : List Char} {slots : List Slot} {last : List Char} (hbody : IsBody body)
      (hfree : ∀ place < before.length,
        ¬Opens ((before ++ '{' :: '{' :: (body ++ '}' :: '}' :: rest)).drop place))
      (hrest : Outlines rest slots last) :
      Outlines (before ++ '{' :: '{' :: (body ++ '}' :: '}' :: rest)) (⟨before, body⟩ :: slots) last

/-- What stands in place of a placeholder: the text of its name, or the placeholder as it is written. -/
def standIn (textOf : String → Option String) (body : List Char) : List Char :=
  match textOf (nameOf body) with
  | some text => text.toList
  | none => '{' :: '{' :: (body ++ ['}', '}'])

/-- The stretches of an outline in their order, with what stands in place of each placeholder between them. -/
def replaced (textOf : String → Option String) (slots : List Slot) (last : List Char) : List Char :=
  slots.flatMap (fun slot => slot.before ++ standIn textOf slot.body) ++ last

/-! ## Every text has one outline -/

theorem opens_of_body {body : List Char} (hbody : IsBody body) (rest : List Char) :
    Opens ('{' :: '{' :: (body ++ '}' :: '}' :: rest)) := ⟨body, rest, hbody, rfl⟩

/-- No placeholder begins within a stretch without an opening brace. -/
theorem not_opens_of_braceless {before : List Char} (hbefore : '{' ∉ before) {place : Nat} (hplace : place < before.length)
    (t : List Char) : ¬Opens ((before ++ t).drop place) := by
  rintro ⟨body, rest, -, hopens⟩
  rw [List.drop_append_of_le_length hplace.le, List.drop_eq_getElem_cons hplace, List.cons_append] at hopens
  exact hbefore ((List.cons.inj hopens).1 ▸ List.getElem_mem hplace)

/-- A stretch without an opening brace is a slot with the placeholder behind it. -/
theorem Outlines.slot_of_braceless {before body rest : List Char} {slots : List Slot} {last : List Char}
    (hbefore : '{' ∉ before) (hbody : IsBody body) (hrest : Outlines rest slots last) :
    Outlines (before ++ '{' :: '{' :: (body ++ '}' :: '}' :: rest)) (⟨before, body⟩ :: slots) last :=
  .slot hbody (fun _ hplace => not_opens_of_braceless hbefore hplace _) hrest

/-- A text without an opening brace has no slot. -/
theorem Outlines.last_of_braceless {s : List Char} (hs : '{' ∉ s) : Outlines s [] s := by
  refine .last fun place hopens => ?_
  obtain ⟨body, rest, -, hopens⟩ := hopens
  have hbrace : '{' ∈ s.drop place := hopens ▸ List.mem_cons_self
  exact hs (List.mem_of_mem_drop hbrace)

theorem exists_outlines (s : List Char) : ∃ slots last, Outlines s slots last := by
  classical
  induction hlength : s.length using Nat.strong_induction_on generalizing s with
  | _ length ih =>
    subst hlength
    by_cases hsome : ∃ place, Opens (s.drop place)
    · -- the first slot is at the first place where a placeholder begins
      obtain ⟨body, rest, hbody, hs⟩ := Nat.find_spec hsome
      obtain ⟨before, hbefore⟩ : ∃ before, before = s.take (Nat.find hsome) := ⟨_, rfl⟩
      have hwhole : s = before ++ '{' :: '{' :: (body ++ '}' :: '}' :: rest) := by
        rw [hbefore, ← hs, List.take_append_drop]
      obtain ⟨slots, last, hrest⟩ := ih rest.length (by simp [hwhole]; omega) rest rfl
      refine ⟨⟨before, body⟩ :: slots, last, ?_⟩
      have hfree : ∀ place < before.length, ¬Opens (s.drop place) := by
        intro place hplace
        rw [hbefore, List.length_take] at hplace
        exact Nat.find_min hsome (by omega)
      rw [hwhole] at hfree ⊢
      exact .slot hbody hfree hrest
    · exact ⟨[], s, .last fun place hopens => hsome ⟨place, hopens⟩⟩

/-- A body ends where its placeholder does. -/
theorem body_unique {body body' rest rest' : List Char} (hbody : IsBody body) (hbody' : IsBody body')
    (h : body ++ '}' :: '}' :: rest = body' ++ '}' :: '}' :: rest') : body = body' ∧ rest = rest' := by
  have hread := placeholderAt?_eq_some.mpr ⟨hbody, rest, rfl⟩
  rw [h, placeholderAt?_eq_some.mpr ⟨hbody', rest', rfl⟩] at hread
  obtain rfl := Option.some.inj hread
  have hrest := List.append_cancel_left h
  exact ⟨rfl, List.cons.inj (List.cons.inj hrest).2 |>.2⟩

/-- Of two divisions of a text, one that passes over no placeholder is not longer before its first placeholder. -/
theorem length_le_of_free {before before' body' t rest' : List Char} (hbody' : IsBody body')
    (hfree : ∀ place < before.length, ¬Opens ((before ++ t).drop place))
    (h : before ++ t = before' ++ '{' :: '{' :: (body' ++ '}' :: '}' :: rest')) : before.length ≤ before'.length := by
  by_contra hlonger
  refine hfree before'.length (by omega) ?_
  rw [h, List.drop_left]
  exact opens_of_body hbody' rest'

theorem Outlines.unique {s : List Char} {slots slots' : List Slot} {last last' : List Char}
    (h : Outlines s slots last) (h' : Outlines s slots' last') : slots' = slots ∧ last' = last := by
  induction h generalizing slots' last' with
  | last hfree =>
    cases h' with
    | last => exact ⟨rfl, rfl⟩
    | @slot before body rest _ _ hbody _ _ =>
      refine absurd ?_ (hfree before.length)
      rw [List.drop_left]
      exact opens_of_body hbody rest
  | @slot before body rest slots last hbody hfree hrest ih =>
    generalize hs : before ++ '{' :: '{' :: (body ++ '}' :: '}' :: rest) = s at h'
    cases h' with
    | last hfree' =>
      refine absurd ?_ (hfree' before.length)
      rw [← hs, List.drop_left]
      exact opens_of_body hbody rest
    | @slot before' body' rest' _ _ hbody' hfree' hrest' =>
      -- neither first slot is later than the other, so they are at one place
      have hlength : before.length = before'.length :=
        Nat.le_antisymm (length_le_of_free hbody' hfree hs) (length_le_of_free hbody hfree' hs.symm)
      obtain ⟨rfl, hlater⟩ := List.append_inj hs hlength
      obtain ⟨rfl, rfl⟩ := body_unique hbody hbody' (List.cons.inj (List.cons.inj hlater).2).2
      obtain ⟨rfl, rfl⟩ := ih hrest'
      exact ⟨rfl, rfl⟩

/-! ## What is read and filled in -/

/-- A stretch in which no placeholder begins is read letter by letter. -/
theorem pieces_stretch {before : List Char} {t : List Char}
    (hfree : ∀ place < before.length, ¬Opens ((before ++ t).drop place)) :
    pieces (before ++ t) = before.map .letter ++ pieces t := by
  induction before with
  | nil => rfl
  | cons c before ih =>
    have hlater : ∀ place < before.length, ¬Opens ((before ++ t).drop place) := by
      intro place hplace
      exact hfree (place + 1) (by simpa using hplace)
    have hfirst : ¬Opens (c :: (before ++ t)) := hfree 0 (Nat.zero_lt_succ _)
    rw [List.cons_append, pieces_letter hfirst, ih hlater, List.map_cons, List.cons_append]

/-- The pieces of a text follow its outline. -/
theorem Outlines.pieces_eq {s : List Char} {slots : List Slot} {last : List Char} (h : Outlines s slots last) :
    pieces s = slots.flatMap (fun slot => slot.before.map .letter ++ [.placeholder slot.body]) ++
      last.map .letter := by
  induction h with
  | @last s hfree =>
    have hnone : ∀ place < s.length, ¬Opens ((s ++ []).drop place) := by
      intro place _
      rw [List.append_nil]
      exact hfree place
    have hread := pieces_stretch hnone
    rw [List.append_nil, pieces_nil, List.append_nil] at hread
    exact hread
  | @slot before body rest slots last hbody hfree hrest ih =>
    rw [pieces_stretch hfree, pieces_placeholder hbody, ih]
    simp

theorem flatMap_fill_letters (bindings : Bindings) (s : List Char) :
    (s.map Piece.letter).flatMap (fill bindings) = s := by
  rw [List.flatMap_map]
  exact List.flatMap_singleton' s

theorem fill_placeholder (bindings : Bindings) (body : List Char) :
    fill bindings (.placeholder body) = standIn bindings.get? body := by
  cases hbound : bindings.get? (nameOf body) <;> simp [fill, standIn, hbound, Piece.text]

/-- What the pieces become under bindings is the outline with the bound placeholders replaced. -/
theorem Outlines.flatMap_fill {s : List Char} {slots : List Slot} {last : List Char} (h : Outlines s slots last)
    (bindings : Bindings) : (pieces s).flatMap (fill bindings) = replaced bindings.get? slots last := by
  have hslot : ∀ slot : Slot,
      (slot.before.map Piece.letter ++ [Piece.placeholder slot.body]).flatMap (fill bindings) =
        slot.before ++ standIn bindings.get? slot.body := by
    intro slot
    rw [List.flatMap_append, flatMap_fill_letters, List.flatMap_singleton, fill_placeholder]
  rw [h.pieces_eq, List.flatMap_append, flatMap_fill_letters, List.flatMap_assoc, replaced]
  simp only [hslot]

theorem Outlines.substitute_eq {html : String} {slots : List Slot} {last : List Char}
    (h : Outlines html.toList slots last) (bindings : Bindings) :
    substitute html bindings = String.ofList (replaced bindings.get? slots last) := by
  rw [Template.substitute_eq, h.flatMap_fill]

/-- Only the names of the placeholders matter to what stands in their place. -/
theorem replaced_congr {textOf textOf' : String → Option String} {slots : List Slot}
    (h : ∀ slot ∈ slots, textOf (nameOf slot.body) = textOf' (nameOf slot.body)) (last : List Char) :
    replaced textOf slots last = replaced textOf' slots last := by
  have hslot : ∀ slot ∈ slots,
      slot.before ++ standIn textOf slot.body = slot.before ++ standIn textOf' slot.body := by
    intro slot hmem
    rw [standIn, standIn, h slot hmem]
  rw [replaced, replaced, List.flatMap_congr hslot]

/-- An outline is the outline of its text: with every placeholder in its own place, it is the text. -/
theorem Outlines.replaced_none {s : List Char} {slots : List Slot} {last : List Char} (h : Outlines s slots last) :
    replaced (fun _ => none) slots last = s := by
  induction h with
  | last => rfl
  | slot _ _ _ ih =>
    rw [← ih]
    simp [replaced, standIn]

/-- A template has exactly one outline, and filling in is what the outline says: the stretches as they are and in their
order, and for each placeholder the text that its name has, a blank name included, or else the placeholder as it is
written. So filling in without bindings at once and piece by piece give the same, a template none of whose names is bound
stays as it is, and bindings that give the names of a template the same texts give the same result. -/
theorem substitute_outlined (html : String) :
    ∃ slots last, Outlines html.toList slots last ∧
      (∀ slots' last', Outlines html.toList slots' last' → slots' = slots ∧ last' = last) ∧
      (∀ bindings : Bindings, substitute html bindings = String.ofList (replaced bindings.get? slots last)) ∧
      (substitute html [] = html ∧ String.ofList ((pieces html.toList).flatMap (fill [])) = html) ∧
      (∀ bindings : Bindings, (∀ slot ∈ slots, bindings.get? (nameOf slot.body) = none) →
        substitute html bindings = html) ∧
      ∀ first second : Bindings,
        (∀ slot ∈ slots, first.get? (nameOf slot.body) = second.get? (nameOf slot.body)) →
          substitute html first = substitute html second := by
  obtain ⟨slots, last, houtlines⟩ := exists_outlines html.toList
  have hfilled := houtlines.substitute_eq
  have hunbound : ∀ bindings : Bindings, (∀ slot ∈ slots, bindings.get? (nameOf slot.body) = none) →
      substitute html bindings = html := by
    intro bindings hnone
    have hkept : replaced bindings.get? slots last = replaced (fun _ => none) slots last := replaced_congr hnone last
    rw [hfilled, hkept, houtlines.replaced_none, String.ofList_toList]
  refine ⟨slots, last, houtlines, fun _ _ hother => houtlines.unique hother, hfilled, ⟨rfl, ?_⟩, hunbound, ?_⟩
  · rw [← Template.substitute_eq]
    exact hunbound [] fun _ _ => rfl
  · intro first second hsame
    rw [hfilled, hfilled, replaced_congr hsame]

end Showcase.Template
