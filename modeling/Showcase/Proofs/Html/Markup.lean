import Showcase.Proofs.Text.Split

/-!
# Pieces of markup

Markup is cut at its opening angle brackets. A piece is a tag with the text behind it, so markup has as many tags as
opening angle brackets. Pieces without angle brackets of their own are written as markup that has just these pieces.
-/

namespace Showcase.Html

/-- A tag, without its angle brackets, and the text behind it. -/
structure Piece where
  tag : String
  text : String
deriving DecidableEq, Repr

/-- The piece that follows an opening angle bracket. -/
def Piece.ofList (inside : List Char) : Piece :=
  ⟨String.ofList (Text.cutAtFirst '>' inside).1, String.ofList ((Text.cutAtFirst '>' inside).2.getD [])⟩

/-- The pieces of markup, one for every opening angle bracket. -/
def pieces (markup : String) : List Piece := (Text.splitAtChar '<' markup.toList).tail.map Piece.ofList

theorem length_pieces (markup : String) : (pieces markup).length = markup.toList.count '<' := by
  rw [pieces, List.length_map, List.length_tail, Text.length_splitAtChar, Nat.add_sub_cancel]

/-- The tags of markup, without their angle brackets. -/
def tags (markup : String) : List String := (pieces markup).map Piece.tag

/-- The texts of the pieces whose tags are given. -/
def textsAmong (tags : List String) (parts : List Piece) : List String :=
  (parts.filter fun piece => tags.contains piece.tag).map Piece.text

/-- The texts of markup behind given tags. -/
def textsBehind (tags : List String) (markup : String) : List String := textsAmong tags (pieces markup)

theorem textsAmong_append (tags : List String) (first second : List Piece) :
    textsAmong tags (first ++ second) = textsAmong tags first ++ textsAmong tags second := by
  rw [textsAmong, List.filter_append, List.map_append, textsAmong, textsAmong]

theorem textsAmong_singleton (tags : List String) (piece : Piece) :
    textsAmong tags [piece] = if tags.contains piece.tag then [piece.text] else [] := by
  rw [textsAmong, List.filter_cons, List.filter_nil]
  cases tags.contains piece.tag <;> rfl

/-- A tag as markup. -/
def writeTag (tag : String) : List Char := '<' :: (tag.toList ++ ['>'])

namespace Piece

/-- A piece as markup. -/
def write (piece : Piece) : List Char := writeTag piece.tag ++ piece.text.toList

theorem write_eq (piece : Piece) : piece.write = '<' :: (piece.tag.toList ++ '>' :: piece.text.toList) := by
  rw [write, writeTag, List.cons_append, List.append_assoc, List.singleton_append]

/-- A piece without angle brackets of its own; the text may have closing ones. -/
structure IsPlain (piece : Piece) : Prop where
  tag_opens : '<' ∉ piece.tag.toList
  tag_closes : '>' ∉ piece.tag.toList
  text_opens : '<' ∉ piece.text.toList

theorem isPlain_iff {tag text : String} :
    IsPlain ⟨tag, text⟩ ↔ ('<' ∉ tag.toList ∧ '>' ∉ tag.toList) ∧ '<' ∉ text.toList :=
  ⟨fun h => ⟨⟨h.tag_opens, h.tag_closes⟩, h.text_opens⟩, fun h => ⟨h.1.1, h.1.2, h.2⟩⟩

theorem ofList_of_isPlain {piece : Piece} (h : piece.IsPlain) :
    ofList (piece.tag.toList ++ '>' :: piece.text.toList) = piece := by
  rw [ofList, Text.cutAtFirst_append h.tag_closes, Option.getD_some, String.ofList_toList, String.ofList_toList]

theorem splitAtChar_of_isPlain {piece : Piece} (h : piece.IsPlain) :
    Text.splitAtChar '<' (piece.tag.toList ++ '>' :: piece.text.toList) =
      [piece.tag.toList ++ '>' :: piece.text.toList] := by
  apply Text.splitAtChar_of_not_mem
  simp [h.tag_opens, h.text_opens]

end Piece

theorem splitAtChar_write {parts : List Piece} (h : ∀ piece ∈ parts, piece.IsPlain) :
    Text.splitAtChar '<' (parts.flatMap Piece.write) =
      [] :: parts.map fun piece => piece.tag.toList ++ '>' :: piece.text.toList := by
  -- splitting cuts an appended piece off at its opening bracket, so the pieces are added at the end
  induction parts using List.reverseRecOn with
  | nil => rfl
  | append_singleton parts piece ih =>
    obtain ⟨hparts, hpiece⟩ := List.forall_mem_append.mp h
    have hpiece : piece.IsPlain := hpiece piece List.mem_cons_self
    rw [List.flatMap_append, List.flatMap_singleton, Piece.write_eq, Text.splitAtChar_append,
      ih hparts, Piece.splitAtChar_of_isPlain hpiece, List.cons_append, List.map_append, List.map_singleton]

/-- Markup has the pieces that it is written of. -/
theorem pieces_write {markup : String} {parts : List Piece} (h : ∀ piece ∈ parts, piece.IsPlain)
    (hmarkup : markup.toList = parts.flatMap Piece.write) : pieces markup = parts := by
  rw [pieces, hmarkup, splitAtChar_write h, List.tail_cons, List.map_map]
  refine (List.map_congr_left fun piece hpiece => ?_).trans (List.map_id parts)
  exact Piece.ofList_of_isPlain (h piece hpiece)

end Showcase.Html
