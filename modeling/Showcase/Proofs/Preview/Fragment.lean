import Showcase.Preview.Static
import Showcase.Proofs.Html.Whole
import Showcase.Proofs.Template.Outline
import Showcase.Proofs.Text.LetterCase

/-!
# Fragments in a static preview

Whether a template is a whole document is decided after its placeholders are filled in. A fragment is shown as it is, with
the base style and the style of the component alone, as long as what is filled in brings no body into it: no text has a
body's start tag in it, and none has a part of one at a seam. But a placeholder that stands in the text of a fragment has a
value for which nothing of the fragment is shown.
-/

namespace Showcase.Preview

open Template (Outlines Slot exists_outlines nameOf replaced replaced_congr standIn substitute)

/-! ## The beginning of a body -/

/-- A text has the beginning of a body's start tag in it, in any letter case. -/
def OpensBody (s : List Char) : Prop := "<body".toList <:+: s.map Text.lowerChar

theorem opensBody_iff {s : List Char} : Text.occursIn "<body".toList (Text.lower s) = true ↔ OpensBody s := by
  rw [Text.occursIn_iff]
  apply Text.infix_lower_iff (by decide)
  unfold Text.IsForeign
  exact Text.forall_mem_of_all (by decide)

/-- A text ends with a beginning of `<body`, in any letter case. -/
def EndsOpening (s : List Char) : Prop :=
  ∃ opening, opening ≠ [] ∧ opening <+: "<bod".toList ∧ opening <:+ s.map Text.lowerChar

/-- A text does not end with a beginning of the tag if its last character is in none. -/
theorem not_endsOpening_concat {s : List Char} {c : Char} (hc : Text.lowerChar c ∉ "<bod".toList) :
    ¬EndsOpening (s ++ [c]) := by
  rintro ⟨opening, hopening, hbegins, hends⟩
  obtain ⟨others, d, rfl⟩ := (List.eq_nil_or_concat' opening).resolve_left hopening
  rw [List.map_append, List.map_singleton] at hends
  obtain ⟨lead, hlead⟩ := hends
  rw [← List.append_assoc] at hlead
  obtain ⟨-, hlast⟩ := List.append_inj' hlead rfl
  obtain rfl : d = Text.lowerChar c := (List.cons.inj hlast).1
  exact hc (hbegins.subset (by simp))

/-- What is filled into an outline brings no body's start tag: no text has one in it, and none begins such a tag for what
follows or comes right behind the beginning of one. -/
structure IsHarmless (textOf : String → Option String) (slots : List Slot) : Prop where
  within : ∀ slot ∈ slots, ∀ text, textOf (nameOf slot.body) = some text → ¬OpensBody text.toList
  ahead : ∀ slot ∈ slots, ∀ text, textOf (nameOf slot.body) = some text → ¬EndsOpening text.toList
  behind : ∀ slot ∈ slots, (textOf (nameOf slot.body)).isSome = true → ¬EndsOpening slot.before

namespace OpensBody

variable {s t : List Char}

theorem append_left (h : OpensBody s) (t : List Char) : OpensBody (s ++ t) := by
  rw [OpensBody, List.map_append]
  exact List.infix_append_of_infix_left h

theorem append_right (h : OpensBody t) (s : List Char) : OpensBody (s ++ t) := by
  rw [OpensBody, List.map_append]
  exact List.infix_append_of_infix_right h

/-- In two texts put together the tag begins in one of them, or in the first and goes on in the second. -/
theorem append_cases (h : OpensBody (s ++ t)) : OpensBody s ∨ OpensBody t ∨
    ∃ first second, "<body".toList = first ++ second ∧ first ≠ [] ∧ second ≠ [] ∧ first <:+ s.map Text.lowerChar ∧
      second <+: t.map Text.lowerChar := by
  rw [OpensBody, List.map_append] at h
  exact Text.infix_append_cases h

/-- The tag does not go on across an opening brace. -/
theorem of_append_brace (h : OpensBody (s ++ '\x7b' :: t)) : OpensBody s ∨ OpensBody ('\x7b' :: t) := by
  rcases h.append_cases with hs | ht | ⟨first, second, hsplit, -, hsecond, -, hbegins⟩
  · exact .inl hs
  · exact .inr ht
  · obtain ⟨c, second, rfl⟩ := List.exists_cons_of_ne_nil hsecond
    obtain ⟨rfl, -⟩ := List.cons_prefix_cons.mp hbegins
    have hbrace : '\x7b' ∈ "<body".toList := hsplit ▸ List.mem_append_right first List.mem_cons_self
    exact absurd hbrace (by decide)

/-- The tag does not go on behind a text that ends with no beginning of it. -/
theorem of_append_apart (hs : ¬EndsOpening s) (h : OpensBody (s ++ t)) : OpensBody s ∨ OpensBody t := by
  rcases h.append_cases with hs' | ht | ⟨first, second, hsplit, hfirst, hsecond, hends, -⟩
  · exact .inl hs'
  · exact .inr ht
  · refine absurd ⟨first, hfirst, ?_, hends⟩ hs
    -- something of the tag is left for the second text
    obtain ⟨others, c, rfl⟩ := (List.eq_nil_or_concat' second).resolve_left hsecond
    rw [show "<body".toList = "<bod".toList ++ ['y'] from rfl, ← List.append_assoc] at hsplit
    obtain ⟨hbeginning, -⟩ := List.append_inj' hsplit rfl
    exact ⟨others, hbeginning.symm⟩

/-- The tag does not go on across a closing brace. -/
theorem of_brace_append (h : OpensBody ((s ++ ['\x7d']) ++ t)) : OpensBody (s ++ ['\x7d']) ∨ OpensBody t :=
  of_append_apart (not_endsOpening_concat (by decide)) h

end OpensBody

theorem replaced_cons (textOf : String → Option String) (slot : Slot) (slots : List Slot) (last : List Char) :
    replaced textOf (slot :: slots) last = slot.before ++ (standIn textOf slot.body ++ replaced textOf slots last) := by
  simp [replaced]

theorem standIn_of_none {textOf : String → Option String} {body : List Char} (h : textOf (nameOf body) = none) :
    standIn textOf body = '\x7b' :: '\x7b' :: (body ++ ['\x7d']) ++ ['\x7d'] := by
  rw [standIn, h]
  simp

/-- Harmless texts bring no body's start tag into a template that has none. -/
theorem IsHarmless.opensBody {textOf : String → Option String} {slots : List Slot} (h : IsHarmless textOf slots)
    {last : List Char} (hopens : OpensBody (replaced textOf slots last)) :
    OpensBody (replaced (fun _ => none) slots last) := by
  induction slots with
  | nil => exact hopens
  | cons slot slots ih =>
    have hlater : IsHarmless textOf slots :=
      ⟨fun other hother => h.within other (List.mem_cons_of_mem slot hother),
        fun other hother => h.ahead other (List.mem_cons_of_mem slot hother),
        fun other hother => h.behind other (List.mem_cons_of_mem slot hother)⟩
    rw [replaced_cons] at hopens ⊢
    cases hbound : textOf (nameOf slot.body) with
    | none =>
      -- the placeholder stays, and the tag goes on neither into it nor out of it
      rw [standIn_of_none hbound] at hopens
      rw [standIn_of_none rfl]
      rcases hopens.of_append_brace with hbefore | hbehind
      · exact hbefore.append_left _
      · have hplaceholder : OpensBody (('\x7b' :: '\x7b' :: (slot.body ++ ['\x7d']) ++ ['\x7d']) ++
            replaced textOf slots last) := hbehind
        rcases hplaceholder.of_brace_append with hinside | hrest
        · exact (hinside.append_left _).append_right _
        · exact ((ih hlater hrest).append_right _).append_right _
    | some text =>
      rw [standIn, hbound] at hopens
      have hbehind := h.behind slot List.mem_cons_self (by rw [hbound]; rfl)
      rcases OpensBody.of_append_apart hbehind hopens with hbefore | hlate
      · exact hbefore.append_left _
      · rcases OpensBody.of_append_apart (h.ahead slot List.mem_cons_self text hbound) hlate with htext | hrest
        · exact absurd htext (h.within slot List.mem_cons_self text hbound)
        · exact ((ih hlater hrest).append_right _).append_right _

/-! ## The document of a static preview -/

/-- A document with styles, as far as they are not empty, and a body. -/
def framed (styles : List String) (body : String) : String :=
  "<!DOCTYPE html>\n<html>\n<head>\n<meta charset=\"UTF-8\">\n<style>\n"
    ++ "\n".intercalate (styles.filter fun part => !part.isEmpty) ++ "\n</style>\n</head>\n<body>\n" ++ body
    ++ "\n</body>\n</html>\n"

theorem staticDocument_eq (html css : String) (bindings : Bindings) :
    staticDocument html css bindings = (Html.splitBody (substitute html bindings)).map fun split =>
      framed [baseReset, css, split.2] split.1 := by
  unfold staticDocument
  generalize Html.splitBody (substitute html bindings) = split
  cases split with
  | error failure => dsimp only [bind, Except.bind, Except.map]
  | ok split => dsimp only [bind, Except.bind, pure, Except.pure, Except.map, framed]

/-- An empty style is left out. -/
theorem framed_append_empty (styles : List String) (body : String) : framed (styles ++ [""]) body = framed styles body := by
  have hempty : [""].filter (fun part : String => !part.isEmpty) = [] := rfl
  unfold framed
  rw [List.filter_append, hempty, List.append_nil]

/-- A text in which no body is found is shown as it is. -/
theorem staticDocument_verbatim {html css : String} {bindings : Bindings}
    (h : Html.splitBody (substitute html bindings) = .ok (substitute html bindings, "")) :
    staticDocument html css bindings = .ok (framed [baseReset, css] (substitute html bindings)) := by
  rw [staticDocument_eq, h]
  exact congrArg Except.ok (framed_append_empty [baseReset, css] _)

theorem splitBody_of_not_opensBody {html : String} (h : ¬OpensBody html.toList) : Html.splitBody html = .ok (html, "") := by
  rw [Html.splitBody, if_pos]
  rw [Bool.not_eq_true', ← Bool.not_eq_true, opensBody_iff]
  exact h

theorem splitBody_of_no_body {html : String} {found : List Html.Node} (hnodes : Html.nodes html = .ok found)
    (hnone : Html.findAmong "body" found = none) : Html.splitBody html = .ok (html, "") := by
  rw [Html.splitBody]
  split
  · rfl
  · rw [hnodes]
    dsimp only
    rw [hnone]

/-! ## A body that is filled in -/

/-- A place among the text of markup: what is before it are whole pieces without a body, and plain text. -/
def StandsFree (ahead : List Char) : Prop :=
  ∃ markup plain found, ahead = markup ++ plain ∧ Html.ReadsWhole markup found ∧ Html.IsPlainText plain ∧
    ∀ token ∈ found, token.opens "body" = false

theorem isSmallName_body : Html.IsSmallName "body" := ⟨by decide, by decide⟩

/-- With an empty body behind it, such a place is markup that is read whole, and the body is the first one. -/
theorem StandsFree.readsWhole {ahead : List Char} (h : StandsFree ahead) : ∃ tokens,
    Html.ReadsWhole (ahead ++ "<body></body>".toList) (tokens ++ [.startTag "body" [] false, .endTag "body"]) ∧
      ∀ token ∈ tokens, token.opens "body" = false := by
  obtain ⟨markup, plain, found, rfl, hmarkup, hplain, hbody⟩ := h
  have hstart : Html.ReadsWhole (plain ++ "<body>".toList) (Html.textTokens plain ++ [.startTag "body" [] false]) :=
    @Html.ReadsWhole.startTag plain hplain "body" isSmallName_body (by decide) [] nofun
  have hend : Html.ReadsWhole "</body>".toList [.endTag "body"] := @Html.ReadsWhole.endTag [] nofun "body" isSmallName_body
  refine ⟨found ++ Html.textTokens plain, ?_, ?_⟩
  · have hwhole := (hmarkup.append hstart).append hend
    rw [show "<body></body>".toList = "<body>".toList ++ "</body>".toList from rfl]
    simpa only [List.append_assoc, List.singleton_append] using hwhole
  · intro token htoken
    rcases List.mem_append.mp htoken with hfound | htext
    · exact hbody token hfound
    · unfold Html.textTokens at htext
      split at htext
      · cases htext
      · obtain rfl := List.mem_singleton.mp htext
        rfl

/-- A body without contents at such a place is all that is left of a text. -/
theorem splitBody_of_empty_body {ahead : List Char} (hfree : StandsFree ahead) {html : String} {rest : List Char}
    (hhtml : html.toList = ahead ++ ("<body></body>".toList ++ rest)) :
    (∃ reason, Html.splitBody html = .error (.rejectedMarkup reason)) ∨
      ∃ styles, Html.splitBody html = .ok ("", styles) := by
  have hopens : OpensBody html.toList := by
    rw [hhtml]
    exact OpensBody.append_right (.append_left (by unfold OpensBody; decide) rest) _
  rw [← List.append_assoc] at hhtml
  obtain ⟨tokens, hwhole, hbefore⟩ := hfree.readsWhole
  unfold Html.splitBody
  rw [if_neg (by simpa using opensBody_iff.mpr hopens)]
  rcases hwhole.nodes_append (by decide) hbefore hhtml with ⟨message, hnodes⟩ | ⟨nodes, hnodes, hfind⟩
  · rw [hnodes]
    exact .inl ⟨_, rfl⟩
  · rw [hnodes]
    dsimp only
    rw [hfind]
    exact .inr ⟨_, rfl⟩

/-! ## Fragments -/

section Fragment

variable {html : String} {slots : List Slot} {last : List Char}

/-- What harmless bindings fill into a fragment is shown as it is. -/
theorem staticDocument_of_harmless (houtlines : Outlines html.toList slots last) (hfragment : ¬OpensBody html.toList)
    {bindings : Bindings} (hharmless : IsHarmless bindings.get? slots) (css : String) :
    staticDocument html css bindings = .ok (framed [baseReset, css] (substitute html bindings)) := by
  apply staticDocument_verbatim
  apply splitBody_of_not_opensBody
  intro hopens
  rw [houtlines.substitute_eq, String.toList_ofList] at hopens
  have htemplate := hharmless.opensBody hopens
  rw [houtlines.replaced_none] at htemplate
  exact hfragment htemplate

/-- Bindings that put a body without contents into the text of a template leave nothing else of it. -/
theorem staticDocument_of_empty_body (houtlines : Outlines html.toList slots last) {earlier later : List Slot}
    {slot : Slot} (hslots : slots = earlier ++ slot :: later)
    (hfirst : ∀ other ∈ earlier, nameOf other.body ≠ nameOf slot.body)
    (hfree : StandsFree (replaced (fun _ => none) earlier slot.before)) (css : String) :
    (∃ reason, staticDocument html css [(nameOf slot.body, "<body></body>")] = .error (.rejectedMarkup reason)) ∨
      ∃ styles, staticDocument html css [(nameOf slot.body, "<body></body>")] = .ok (framed [baseReset, css, styles] "") := by
  set bindings : Bindings := [(nameOf slot.body, "<body></body>")] with hbindings
  have hunbound : ∀ other ∈ earlier, bindings.get? (nameOf other.body) = none := by
    intro other hother
    simp [hbindings, Bindings.get?, hfirst other hother]
  have hbound : standIn bindings.get? slot.body = "<body></body>".toList := by
    simp [standIn, hbindings, Bindings.get?]
  -- nothing is filled in before the placeholder; what is behind it does not matter
  have hfilled : (substitute html bindings).toList = replaced (fun _ => none) earlier slot.before ++
      ("<body></body>".toList ++ replaced bindings.get? later last) := by
    have hkept : replaced bindings.get? earlier slot.before = replaced (fun _ => none) earlier slot.before :=
      replaced_congr hunbound slot.before
    rw [houtlines.substitute_eq, String.toList_ofList, hslots, ← hkept, ← hbound]
    simp [replaced]
  rw [staticDocument_eq]
  rcases splitBody_of_empty_body hfree hfilled with ⟨reason, hsplit⟩ | ⟨styles, hsplit⟩
  · rw [hsplit]
    exact .inl ⟨reason, rfl⟩
  · rw [hsplit]
    exact .inr ⟨styles, rfl⟩

end Fragment

/-- A fragment, whatever its placeholders, is shown with the base style and the style of the component around what it
becomes under bindings: if these bring no body into it, and also if what it becomes can be read and no body is found
there. But a placeholder in the text of the fragment, the first of its name, has a value for which none of the fragment
is shown: either the preview fails, or its body is empty. -/
theorem fragment_preview (html css : String)
    (hfragment : Text.occursIn "<body".toList (Text.lower html.toList) = false) :
    ∃ slots last, Outlines html.toList slots last ∧
      (∀ bindings : Bindings, IsHarmless bindings.get? slots →
        staticDocument html css bindings = .ok (framed [baseReset, css] (substitute html bindings))) ∧
      (∀ (bindings : Bindings) (found : List Html.Node), Html.nodes (substitute html bindings) = .ok found →
        Html.findAmong "body" found = none →
          staticDocument html css bindings = .ok (framed [baseReset, css] (substitute html bindings))) ∧
      ∀ earlier slot later, slots = earlier ++ slot :: later →
        (∀ other ∈ earlier, nameOf other.body ≠ nameOf slot.body) →
        StandsFree (replaced (fun _ => none) earlier slot.before) →
          (∃ reason, staticDocument html css [(nameOf slot.body, "<body></body>")] = .error (.rejectedMarkup reason)) ∨
            ∃ styles,
              staticDocument html css [(nameOf slot.body, "<body></body>")] = .ok (framed [baseReset, css, styles] "") := by
  have hopens : ¬OpensBody html.toList := by
    rw [← opensBody_iff, hfragment]
    exact Bool.false_ne_true
  obtain ⟨slots, last, houtlines⟩ := exists_outlines html.toList
  refine ⟨slots, last, houtlines, ?_, ?_, ?_⟩
  · intro bindings hharmless
    exact staticDocument_of_harmless houtlines hopens hharmless css
  · intro bindings found hnodes hnone
    exact staticDocument_verbatim (splitBody_of_no_body hnodes hnone)
  · intro earlier slot later hslots hfirst hfree
    exact staticDocument_of_empty_body houtlines hslots hfirst hfree css

theorem fragment_preview_of_letter :
    Text.occursIn "<body".toList (Text.lower "<p>Dear \x7b\x7bname\x7d\x7d</p>".toList) = false ∧
      staticDocument "<p>Dear \x7b\x7bname\x7d\x7d</p>" "p \x7b\x7d" [("name", "<b>Ada</b>")] =
        .ok (framed [baseReset, "p \x7b\x7d"] "<p>Dear <b>Ada</b></p>") ∧
      ((∃ reason, staticDocument "<p>Dear \x7b\x7bname\x7d\x7d</p>" "p \x7b\x7d" [("name", "<body></body>")] =
          .error (.rejectedMarkup reason)) ∨
        ∃ styles, staticDocument "<p>Dear \x7b\x7bname\x7d\x7d</p>" "p \x7b\x7d" [("name", "<body></body>")] =
          .ok (framed [baseReset, "p \x7b\x7d", styles] "")) := by
  have hfragment : Text.occursIn "<body".toList (Text.lower "<p>Dear \x7b\x7bname\x7d\x7d</p>".toList) = false := by
    decide +kernel
  obtain ⟨slots, last, houtlines, hharmless, -, hempty⟩ :=
    fragment_preview "<p>Dear \x7b\x7bname\x7d\x7d</p>" "p \x7b\x7d" hfragment
  have hletter : Outlines "<p>Dear \x7b\x7bname\x7d\x7d</p>".toList [⟨"<p>Dear ".toList, "name".toList⟩] "</p>".toList :=
    @Outlines.slot_of_braceless "<p>Dear ".toList "name".toList "</p>".toList [] "</p>".toList (by decide)
      ⟨by decide, by decide⟩ (.last_of_braceless (by decide))
  -- a template has one outline, so the slots are those that are seen here
  obtain ⟨rfl, rfl⟩ := hletter.unique houtlines
  have hname : nameOf "name".toList = "name" := by decide +kernel
  have hfilled : substitute "<p>Dear \x7b\x7bname\x7d\x7d</p>" [("name", "<b>Ada</b>")] = "<p>Dear <b>Ada</b></p>" := by
    decide +kernel
  have hgreeting : IsHarmless (Bindings.get? [("name", "<b>Ada</b>")]) [⟨"<p>Dear ".toList, "name".toList⟩] := by
    have hbound : ∀ {text : String}, Bindings.get? [("name", "<b>Ada</b>")] "name" = some text → text = "<b>Ada</b>" :=
      fun htext => (Option.some.inj htext).symm
    refine ⟨?_, ?_, ?_⟩ <;> simp only [List.forall_mem_singleton, hname]
    · intro text htext
      obtain rfl := hbound htext
      unfold OpensBody
      decide +kernel
    · intro text htext
      obtain rfl := hbound htext
      exact @not_endsOpening_concat "<b>Ada</b".toList '>' (by decide)
    · intro _
      exact @not_endsOpening_concat "<p>Dear".toList ' ' (by decide)
  have hfree : StandsFree (replaced (fun _ => none) [] "<p>Dear ".toList) :=
    ⟨"<p>".toList, "Dear ".toList, [.startTag "p" [] false], rfl,
      @Html.ReadsWhole.startTag [] nofun "p" ⟨by decide, by decide⟩ (by decide) [] nofun,
      Text.forall_mem_of_all (by decide), by decide⟩
  have hshown := hharmless _ hgreeting
  have hlost := hempty [] _ [] rfl nofun hfree
  rw [hfilled] at hshown
  rw [hname] at hlost
  exact ⟨hfragment, hshown, hlost⟩

/-- A body in a text that is filled in takes the place of the fragment. -/
theorem not_fragment_preview : ¬∀ (html css : String) (bindings : Bindings),
    Text.occursIn "<body".toList (Text.lower html.toList) = false →
      staticDocument html css bindings = .ok (framed [baseReset, css] (substitute html bindings)) := by
  intro hall
  have hshown := hall "<p>\x7b\x7bnote\x7d\x7d</p>" "" [("note", "<body>x</body>")] (by decide +kernel)
  have hfilled : substitute "<p>\x7b\x7bnote\x7d\x7d</p>" [("note", "<body>x</body>")] = "<p><body>x</body></p>" := by
    decide +kernel
  have hsplit : Html.splitBody "<p><body>x</body></p>" = .ok ("x", "") := by
    decide +kernel
  rw [staticDocument_eq, hfilled, hsplit] at hshown
  have hsame := Except.ok.inj hshown
  revert hsame
  decide +kernel

end Showcase.Preview
