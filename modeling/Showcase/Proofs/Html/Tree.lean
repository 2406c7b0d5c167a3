import Showcase.Html.Body

/-!
# The first element of a name

While a tree is built, the first element of a name in it is sought through what is closed already and then through the
open elements, from the outermost one on. What has been found closed stays the first one, whatever follows: new nodes come
behind it, and the elements around it keep it when they are closed.
-/

namespace Showcase.Html

variable {name : String}

theorem findAmong_concat (nodes : List Node) (node : Node) :
    findAmong name (nodes ++ [node]) = (findAmong name nodes).or (findIn name node) := by
  induction nodes with
  | nil => cases hnode : findIn name node <;> simp [findAmong, hnode]
  | cons first nodes ih =>
    rw [List.cons_append, findAmong, findAmong, ih]
    cases findIn name first <;> rfl

namespace Builder

/-! ## Seeking an element -/

/-- What is found of the first element of a name: its contents if it is closed, or no contents yet. -/
def soughtIn (name : String) (top : List Node) : List OpenElement → Option (Option (List Node))
  | [] => (findAmong name top.reverse).map some
  | inner :: outer =>
    (soughtIn name top outer).or
      (if inner.name == name then some none else (findAmong name inner.children.reverse).map some)

/-- What is found of the first element of a name in what a builder has built so far. -/
def sought (builder : Builder) (name : String) : Option (Option (List Node)) :=
  soughtIn name builder.top builder.opened

theorem sought_empty : empty.sought name = none := rfl

/-- A new node comes behind what is there. -/
theorem sought_add (builder : Builder) (node : Node) :
    (builder.add node).sought name = (builder.sought name).or ((findIn name node).map some) := by
  unfold add
  split
  · rename_i hnone
    simp only [sought, hnone, soughtIn, List.reverse_cons, findAmong_concat]
    cases findAmong name builder.top.reverse <;> rfl
  · rename_i inner outer hopened
    simp only [sought, hopened, soughtIn, List.reverse_cons, findAmong_concat]
    cases soughtIn name builder.top outer with
    | some found => rfl
    | none =>
      cases inner.name == name with
      | true => rfl
      | false => cases findAmong name inner.children.reverse <;> rfl

theorem sought_flush (builder : Builder) : builder.flush.sought name = builder.sought name := by
  unfold flush
  split
  · rfl
  · rw [sought_add, show findIn name (.text _) = none from rfl, Option.map_none, Option.or_none]
    rfl

theorem sought_addSpecial (builder : Builder) {make : String → Node} (hmake : ∀ s, findIn name (make s) = none)
    (s : List Char) : (builder.addSpecial make s).sought name = builder.sought name := by
  rw [addSpecial, sought_add, hmake, Option.map_none, Option.or_none, sought_flush]

/-- An element that is opened comes behind what is there. -/
theorem sought_openElement (builder : Builder) (other : String) (attributes : List Attribute) :
    (builder.openElement other attributes).sought name =
      (builder.sought name).or (if other == name then some none else none) := by
  rw [← sought_flush builder]
  rfl

/-! ## Closing elements -/

/-- What has been found is not an open element. -/
def IsClosed (found : Option (Option (List Node))) : Prop := found ≠ some none

theorem sought_closeInnermost {builder : Builder} (h : IsClosed (builder.sought name)) :
    builder.closeInnermost.sought name = builder.sought name := by
  unfold closeInnermost
  split
  · rfl
  · rename_i inner outer hopened
    -- the innermost element was sought last, and as a node it comes last too
    rw [sought_add, OpenElement.close, findIn]
    simp only [sought, hopened, soughtIn] at h ⊢
    cases houter : soughtIn name builder.top outer with
    | some found => rfl
    | none =>
      rw [houter] at h
      cases hname : inner.name == name with
      | true =>
        rw [hname] at h
        exact absurd rfl h
      | false => rfl

theorem sought_closeMany {builder : Builder} (h : IsClosed (builder.sought name)) (count : Nat) :
    (closeMany count builder).sought name = builder.sought name := by
  induction count generalizing builder with
  | zero => rfl
  | succ count ih =>
    rw [closeMany, ih (by rwa [sought_closeInnermost h]), sought_closeInnermost h]

theorem sought_closeNamed {builder : Builder} (h : IsClosed (builder.sought name)) (other : String) :
    (builder.closeNamed other).sought name = builder.sought name := by
  rw [← sought_flush builder] at h ⊢
  unfold closeNamed
  dsimp only
  split
  · exact sought_closeMany h _
  · rfl

theorem sought_endTag {builder : Builder} (h : IsClosed (builder.sought name)) (other : String) :
    (builder.endTag other).sought name = builder.sought name := by
  unfold endTag
  split
  · rfl
  · exact sought_closeNamed h other

/-! ## Tokens -/

end Builder

/-- Whether a token is a start tag of a name. -/
def Token.opens (name : String) : Token → Bool
  | .startTag known _ _ => known == name
  | _ => false

namespace Builder

/-- What has been found stays, and nothing is found among tokens that are no start tags of the name. -/
theorem sought_take {builder : Builder} {token : Token} (h : IsClosed (builder.sought name))
    (htoken : builder.sought name = none → token.opens name = false) :
    (builder.take token).sought name = builder.sought name := by
  cases token with
  | text s => rfl
  | startTag known attributes selfClosed =>
    -- the element that is opened counts only if nothing was found before, and then it has another name
    have hopened : (builder.openElement known attributes).sought name = builder.sought name := by
      rw [sought_openElement]
      cases hfound : builder.sought name with
      | some found => rfl
      | none => rw [show (known == name) = false from htoken hfound]; rfl
    have hclosed : IsClosed ((builder.openElement known attributes).sought name) := by rwa [hopened]
    cases selfClosed with
    | true =>
      rw [take, sought_endTag hclosed, hopened]
    | false =>
      rw [take]
      dsimp only
      split
      · rw [← hopened, ← sought_closeNamed hclosed known]
        rfl
      · exact hopened
  | endTag known => exact sought_endTag h known
  | comment s => exact sought_addSpecial builder (fun _ => rfl) s
  | doctype s => exact sought_addSpecial builder (fun _ => rfl) s
  | cdata s => exact sought_addSpecial builder (fun _ => rfl) s
  | declaration s => exact sought_addSpecial builder (fun _ => rfl) s
  | instruction s => exact sought_addSpecial builder (fun _ => rfl) s

theorem sought_foldl {builder : Builder} {found : List Token} (h : IsClosed (builder.sought name))
    (hfound : builder.sought name = none → ∀ token ∈ found, token.opens name = false) :
    (found.foldl take builder).sought name = builder.sought name := by
  induction found generalizing builder with
  | nil => rfl
  | cons token found ih =>
    have htoken : (builder.take token).sought name = builder.sought name :=
      sought_take h fun hnone => hfound hnone token List.mem_cons_self
    rw [List.foldl_cons, ih (by rwa [htoken]), htoken]
    rw [htoken]
    exact fun hnone other hother => hfound hnone other (List.mem_cons_of_mem token hother)

/-! ## The finished tree -/

theorem length_opened_add (builder : Builder) (node : Node) :
    (builder.add node).opened.length = builder.opened.length := by
  unfold add
  split
  · rfl
  · rename_i inner outer hopened
    rw [hopened]
    rfl

theorem length_opened_closeMany (count : Nat) (builder : Builder) :
    (closeMany count builder).opened.length = builder.opened.length - count := by
  induction count generalizing builder with
  | zero => rfl
  | succ count ih =>
    have hinnermost : builder.closeInnermost.opened.length = builder.opened.length - 1 := by
      unfold closeInnermost
      split
      · rename_i hnone
        rw [hnone]
        rfl
      · rename_i inner outer hopened
        rw [length_opened_add, hopened]
        rfl
    rw [closeMany, ih, hinnermost, Nat.sub_sub, Nat.add_comm 1 count]

/-- What has been found is found in the finished tree. -/
theorem findAmong_finish {builder : Builder} (h : IsClosed (builder.sought name)) :
    (findAmong name builder.finish).map some = builder.sought name := by
  rw [← sought_flush builder] at h ⊢
  -- with all elements closed only the nodes at the top are left to seek through
  have hnone : (closeMany builder.flush.opened.length builder.flush).opened = [] := by
    rw [← List.length_eq_zero_iff, length_opened_closeMany, Nat.sub_self]
  rw [← sought_closeMany h builder.flush.opened.length, sought, hnone]
  rfl

/-! ## End tags that are still to come -/

@[simp] theorem ended_add (builder : Builder) (node : Node) : (builder.add node).ended = builder.ended := by
  unfold add
  split <;> rfl

@[simp] theorem ended_flush (builder : Builder) : builder.flush.ended = builder.ended := by
  unfold flush
  split
  · rfl
  · rw [ended_add]

@[simp] theorem ended_closeInnermost (builder : Builder) : builder.closeInnermost.ended = builder.ended := by
  unfold closeInnermost
  split
  · rfl
  · rw [ended_add]

@[simp] theorem ended_closeMany (count : Nat) (builder : Builder) :
    (closeMany count builder).ended = builder.ended := by
  induction count generalizing builder with
  | zero => rfl
  | succ count ih => rw [closeMany, ih, ended_closeInnermost]

@[simp] theorem ended_closeNamed (builder : Builder) (other : String) :
    (builder.closeNamed other).ended = builder.ended := by
  unfold closeNamed
  dsimp only
  split
  · rw [ended_closeMany, ended_flush]
  · exact ended_flush builder

@[simp] theorem ended_openElement (builder : Builder) (other : String) (attributes : List Attribute) :
    (builder.openElement other attributes).ended = builder.ended := ended_flush builder

theorem ended_endTag_subset (builder : Builder) (other : String) : (builder.endTag other).ended ⊆ builder.ended := by
  unfold endTag
  split
  · exact List.erase_subset
  · rw [ended_closeNamed]
    exact List.Subset.refl _

/-- No end tag is to come for an element that has contents. -/
theorem not_mem_ended_take {builder : Builder} (hvoid : name ∉ voidElements) (h : name ∉ builder.ended) (token : Token) :
    name ∉ (builder.take token).ended := by
  cases token with
  | text s => exact h
  | startTag known attributes selfClosed =>
    cases selfClosed with
    | true =>
      intro hin
      rw [take] at hin
      exact h (by simpa using ended_endTag_subset _ known hin)
    | false =>
      rw [take]
      dsimp only
      split
      · -- the element is void, so it is another one
        rename_i hknown
        simp only [ended_openElement, List.mem_append, List.mem_singleton, not_or]
        exact ⟨h, fun hsame => hvoid (hsame ▸ List.contains_iff_mem.mp hknown)⟩
      · rwa [ended_openElement]
  | endTag known => exact fun hin => h (ended_endTag_subset builder known hin)
  | comment s => simpa [take, addSpecial] using h
  | doctype s => simpa [take, addSpecial] using h
  | cdata s => simpa [take, addSpecial] using h
  | declaration s => simpa [take, addSpecial] using h
  | instruction s => simpa [take, addSpecial] using h

theorem not_mem_ended_foldl {builder : Builder} (hvoid : name ∉ voidElements) (h : name ∉ builder.ended)
    (found : List Token) : name ∉ (found.foldl take builder).ended := by
  induction found generalizing builder with
  | nil => exact h
  | cons token found ih => exact ih (not_mem_ended_take hvoid h token)

/-! ## An element without contents -/

theorem pending_flush (builder : Builder) : builder.flush.pending = none := by
  unfold flush
  split
  · assumption
  · unfold add
    split <;> rfl

/-- An element that is closed at once is a node without contents. -/
theorem endTag_openElement {builder : Builder} (hended : name ∉ builder.ended) (attributes : List Attribute) :
    (builder.openElement name attributes).endTag name =
      builder.flush.add (.element name (keptAttributes name attributes) []) := by
  have hflushed : (builder.openElement name attributes).flush = builder.openElement name attributes := by
    rw [flush, show (builder.openElement name attributes).pending = none from pending_flush builder]
  -- the innermost element of the name is the one that was opened just now
  have hinnermost : (builder.openElement name attributes).opened.findIdx? (fun element => element.name == name) =
      some 0 := by
    rw [show (builder.openElement name attributes).opened = ⟨name, keptAttributes name attributes, []⟩ ::
      builder.flush.opened from rfl, List.findIdx?_cons, beq_self_eq_true, if_pos rfl]
  rw [endTag, ended_openElement, if_neg (by simpa using hended), closeNamed, hflushed, hinnermost]
  rfl

/-- The start tag and the end tag of an element, one behind the other, are found as an element without contents. -/
theorem sought_empty_element {builder : Builder} (hvoid : name ∉ voidElements) (hended : name ∉ builder.ended)
    (hnone : builder.sought name = none) (attributes : List Attribute) :
    ((builder.take (.startTag name attributes false)).take (.endTag name)).sought name = some (some []) := by
  have hstart : builder.take (.startTag name attributes false) = builder.openElement name attributes := by
    rw [take]
    simp only [List.contains_iff_mem, hvoid, if_false]
  rw [hstart, take, endTag_openElement hended, sought_add, sought_flush, hnone, findIn, if_pos (beq_self_eq_true name)]
  rfl

/-- The first element of a name is the first one that is opened, and it has no contents if it is closed at once. -/
theorem findAmong_finish_empty {before : List Token} (hvoid : name ∉ voidElements)
    (hbefore : ∀ token ∈ before, token.opens name = false) (attributes : List Attribute) (behind : List Token) :
    findAmong name ((before ++ (Token.startTag name attributes false :: Token.endTag name :: behind)).foldl take
      empty).finish = some [] := by
  have hclosed : IsClosed (empty.sought name) := by
    rw [sought_empty]
    exact nofun
  have hnone : (before.foldl take empty).sought name = none := sought_foldl hclosed fun _ => hbefore
  have hended : name ∉ (before.foldl take empty).ended := not_mem_ended_foldl hvoid List.not_mem_nil before
  have hfound := sought_empty_element hvoid hended hnone attributes
  have hwhole : ((before ++ (Token.startTag name attributes false :: Token.endTag name :: behind)).foldl take
      empty).sought name = some (some []) := by
    rw [List.foldl_append, List.foldl_cons, List.foldl_cons, sought_foldl, hfound]
    · rw [hfound]
      exact nofun
    · rw [hfound]
      exact nofun
  have hfinished : IsClosed (((before ++ (Token.startTag name attributes false :: Token.endTag name :: behind)).foldl
      take empty).sought name) := by
    rw [hwhole]
    exact nofun
  have hfind := findAmong_finish hfinished
  rw [hwhole] at hfind
  simpa using hfind

end Builder

end Showcase.Html
