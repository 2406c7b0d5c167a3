import Showcase.Proofs.Html.Styles
import Showcase.Proofs.Preview.Fragment

/-!
# Documents reduced to their bodies

A text with a body is reduced to the contents of its first body without the styles in it, and the styles of the whole text
make up one style sheet. Whether there is a body is a matter of the tree alone, since the start tag of a body is written in
the text; only where the text cannot be read at all does it matter whether the tag seems to be there.
-/

namespace Showcase.Preview

open Html (Node Place Token documentOrder findAmong nodes rejection splitBody stylesAmong withoutStyles writeNodes)

variable {html : String} {found : List Node}

/-! ## Bodies are written -/

/-- A start tag of a body in a text is the beginning of a body there. -/
theorem opensBody_of_isIn {text : List Char} {token : Token} (hin : token.IsIn text) (hopens : token.opens "body" = true) :
    OpensBody text := by
  cases token with
  | startTag name attributes selfClosed =>
    obtain ⟨written, hwritten, hname⟩ := hin
    have hbody : Text.lower written = "body".toList := by
      rw [← beq_iff_eq.mp (show (name == "body") = true from hopens), ← hname, String.toList_ofList]
    have hforeign : ∀ c ∈ "body".toList, ¬Text.IsForeign c := by
      unfold Text.IsForeign
      exact Text.forall_mem_of_all (by decide)
    -- the name in lower case is the word, and so it is with each character in lower case
    have hletters : "body".toList <+: written.map Text.lowerChar :=
      (Text.agrees_lowerAfter [] written).prefix_of hforeign (hbody ▸ List.prefix_refl _)
    have htag : "<body".toList <+: ('<' :: written).map Text.lowerChar := List.cons_prefix_cons.mpr ⟨rfl, hletters⟩
    exact htag.isInfix.trans (hwritten.map Text.lowerChar)
  | text | endTag | comment | doctype | cdata | declaration | instruction => cases hopens

/-- Where no body seems to begin, none is found. -/
theorem findAmong_of_not_opensBody (hopens : ¬OpensBody html.toList) (h : nodes html = .ok found) :
    findAmong "body" found = none := by
  obtain ⟨read, next, hread, rfl⟩ := Html.exists_areRead_of_nodes h
  have hnever : ∀ token ∈ read, token.opens "body" = false := by
    intro token htoken
    rw [← Bool.not_eq_true]
    exact fun hbody => hopens (opensBody_of_isIn (hread.isIn token htoken) hbody)
  have hclosed : Html.Builder.IsClosed none := (Option.some_ne_none _).symm
  have hsought : (read.foldl Html.Builder.take Html.Builder.empty).sought "body" = none :=
    Html.Builder.sought_foldl hclosed fun _ => hnever
  have hfind := Html.Builder.findAmong_finish (hsought.symm ▸ hclosed)
  rw [hsought] at hfind
  exact Option.map_eq_none_iff.mp hfind

/-! ## The reduction -/

/-- A text that can be read is reduced by its tree alone. -/
theorem splitBody_of_nodes (h : nodes html = .ok found) : splitBody html =
    match findAmong "body" found with
    | none => .ok (html, "")
    | some children => .ok (writeNodes false (withoutStyles children), "\n".intercalate (stylesAmong found)) := by
  by_cases hopens : OpensBody html.toList
  · have hbegins := opensBody_iff.mpr hopens
    cases hbody : findAmong "body" found with
    | none | some => simp only [splitBody, hbegins, h, hbody, Bool.not_true, Bool.false_eq_true, if_false]
  · rw [findAmong_of_not_opensBody hopens h]
    exact splitBody_of_not_opensBody hopens

/-- A text that cannot be read is rejected where a body seems to begin in it, and stays as it is elsewhere. -/
theorem splitBody_of_rejected {reason : String} (h : nodes html = .error reason) : splitBody html =
    if Text.occursIn "<body".toList (Text.lower html.toList) then .error (.rejectedMarkup (rejection ++ reason))
    else .ok (html, "") := by
  rw [splitBody, h]
  cases Text.occursIn "<body".toList (Text.lower html.toList) <;> rfl

/-- A text that can be read holds styles of nothing but text. Without a body it stays as it is. With a body, the style sheet
is made of the texts of all styles in document order, and what is written are the nodes whose labels are those in the first
body, in their order, but for the styles and what is in them; no other nodes have these labels. A text that cannot be read
stays as it is too, unless a body seems to begin in it: then it is rejected. -/
theorem splitBody_document_order (html : String) :
    match nodes html with
    | .error reason => splitBody html =
      if Text.occursIn "<body".toList (Text.lower html.toList) then .error (.rejectedMarkup (rejection ++ reason))
      else .ok (html, "")
    | .ok found =>
      (∀ place ∈ documentOrder found, place.HoldsText) ∧
      match (documentOrder found).find? fun place => place.node.isNamed "body" with
      | none => splitBody html = .ok (html, "")
      | some body => ∃ kept,
        splitBody html = .ok (writeNodes false kept, "\n".intercalate
          (((documentOrder found).filter fun place => place.node.isNamed "style").map Place.styleText)) ∧
        ∀ other, (documentOrder other).map Place.label =
          ((documentOrder body.node.children).filter fun place => !place.inStyle).map Place.label ↔ other = kept := by
  cases hnodes : nodes html with
  | error reason => exact splitBody_of_rejected hnodes
  | ok found =>
    refine ⟨Html.holdsText_of_nodes hnodes, ?_⟩
    have hsplit := splitBody_of_nodes hnodes
    have hbody : findAmong "body" found = _ := Html.findAmong_eq "body" 0 false found
    have hstyles : stylesAmong found = _ := Html.stylesAmong_eq 0 false found
    rw [hbody] at hsplit
    cases hfind : (documentOrder found).find? fun place => place.node.isNamed "body" with
    | none =>
      rw [← documentOrder, hfind] at hsplit
      exact hsplit
    | some body =>
      rw [← documentOrder, hfind] at hsplit
      refine ⟨withoutStyles body.node.children, ?_, Html.labels_eq_iff body.node.children⟩
      rw [hsplit, hstyles]
      rfl

/-- A paragraph with a comment and a marked section behind it that cannot be read; in the comment a body seems to begin. -/
def unreadableFragment : String := "<p>Hi</p><!-- <body> --><![x y]>"

theorem nodes_unreadableFragment :
    nodes unreadableFragment = .error "unknown status keyword 'x ' in marked section" := by rfl

/-- A fragment need not come back unchanged: without a body in its tree, since there is no tree, it is rejected. -/
theorem not_splitBody_unchanged : ¬∀ html : String,
    (∀ found, nodes html = .ok found → ∀ place ∈ documentOrder found, place.node.isNamed "body" = false) →
      splitBody html = .ok (html, "") := by
  intro h
  have hnone : ∀ found, nodes unreadableFragment = .ok found →
      ∀ place ∈ documentOrder found, place.node.isNamed "body" = false := by
    intro found hfound
    rw [nodes_unreadableFragment] at hfound
    cases hfound
  have hsame := h unreadableFragment hnone
  rw [splitBody_of_rejected nodes_unreadableFragment, if_pos (by decide +kernel)] at hsame
  cases hsame

end Showcase.Preview
