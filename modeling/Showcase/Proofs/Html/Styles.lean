import Showcase.Proofs.Html.Order
import Showcase.Proofs.Html.Source
import Showcase.Proofs.Html.Tree

/-!
# Styles hold only text

While a tree is built, a style is open only as the innermost element, from its start tag to its end tag, and in between
there is nothing but text. So the styles of a document hold only text.
-/

namespace Showcase.Html

/-- A node is a text. -/
def Node.IsText (node : Node) : Prop := ∃ s, node = .text s

namespace Builder

/-- What has been built holds styles with nothing but text in them, and only the innermost open element may be a style. -/
structure IsOrderly (builder : Builder) : Prop where
  top : ∀ node ∈ builder.top, node.StylesHoldText
  opened : ∀ element ∈ builder.opened, ∀ child ∈ element.children, child.StylesHoldText
  outer : ∀ element ∈ builder.opened.tail, element.name ≠ "style"
  inner : ∀ element ∈ builder.opened, element.name = "style" → ∀ child ∈ element.children, child.IsText
  ended : "style" ∉ builder.ended

/-- No style is open. -/
def HasNoStyle (builder : Builder) : Prop := ∀ element ∈ builder.opened, element.name ≠ "style"

theorem isOrderly_empty : empty.IsOrderly := ⟨nofun, nofun, nofun, nofun, List.not_mem_nil⟩

theorem hasNoStyle_empty : empty.HasNoStyle := nofun

variable {builder : Builder} {name : String}

/-! ## Adding and closing -/

/-- What holds of the innermost element holds of those around it, of which none is a style. -/
theorem IsOrderly.of_opened (h : builder.IsOrderly) {inner : OpenElement} {outer : List OpenElement}
    (hopened : builder.opened = inner :: outer) :
    (∀ child ∈ inner.children, child.StylesHoldText) ∧ (inner.name = "style" → ∀ child ∈ inner.children, child.IsText) ∧
      ({ builder with opened := outer } : Builder).IsOrderly ∧ ({ builder with opened := outer } : Builder).HasNoStyle := by
  obtain ⟨hchildren, hothers⟩ := List.forall_mem_cons.mp (hopened ▸ h.opened)
  obtain ⟨htexts, hstyles⟩ := List.forall_mem_cons.mp (hopened ▸ h.inner)
  have houter : ∀ element ∈ outer, element.name ≠ "style" := by
    have htail := h.outer
    rwa [hopened] at htail
  exact ⟨hchildren, htexts,
    ⟨h.top, hothers, fun element helement => houter element (List.mem_of_mem_tail helement), hstyles, h.ended⟩, houter⟩

/-- A node may be added where no style is open, and a text anywhere. -/
theorem IsOrderly.add (h : builder.IsOrderly) {node : Node} (hnode : node.StylesHoldText)
    (hwhere : builder.HasNoStyle ∨ node.IsText) : (builder.add node).IsOrderly := by
  unfold Builder.add
  split
  · exact ⟨List.forall_mem_cons.mpr ⟨hnode, h.top⟩, h.opened, h.outer, h.inner, h.ended⟩
  · rename_i inner outer hopened
    obtain ⟨hchildren, htexts, hrest, hnone⟩ := h.of_opened hopened
    refine ⟨h.top, ?_, hnone, ?_, h.ended⟩
    · exact List.forall_mem_cons.mpr ⟨List.forall_mem_cons.mpr ⟨hnode, hchildren⟩, hrest.opened⟩
    · refine List.forall_mem_cons.mpr ⟨?_, hrest.inner⟩
      intro hname
      refine List.forall_mem_cons.mpr ⟨?_, htexts hname⟩
      rcases hwhere with hnone | htext
      · exact absurd hname (hnone inner (hopened ▸ List.mem_cons_self))
      · exact htext

theorem HasNoStyle.add (h : builder.HasNoStyle) (node : Node) : (builder.add node).HasNoStyle := by
  unfold Builder.add
  split
  · exact h
  · rename_i inner outer hopened
    unfold HasNoStyle at h
    rw [hopened] at h
    obtain ⟨hinner, houter⟩ := List.forall_mem_cons.mp h
    exact List.forall_mem_cons.mpr ⟨hinner, houter⟩

theorem IsOrderly.flush (h : builder.IsOrderly) : builder.flush.IsOrderly := by
  unfold Builder.flush
  split
  · exact h
  · rename_i s hpending
    have hwithout : ({ builder with pending := none } : Builder).IsOrderly := ⟨h.top, h.opened, h.outer, h.inner, h.ended⟩
    exact hwithout.add trivial (.inr ⟨_, rfl⟩)

theorem HasNoStyle.flush (h : builder.HasNoStyle) : builder.flush.HasNoStyle := by
  unfold Builder.flush
  split
  · exact h
  · have hwithout : ({ builder with pending := none } : Builder).HasNoStyle := h
    exact hwithout.add _

/-- The innermost element may be closed, whatever it is, and then no style is open. -/
theorem IsOrderly.closeInnermost (h : builder.IsOrderly) :
    builder.closeInnermost.IsOrderly ∧ builder.closeInnermost.HasNoStyle := by
  unfold Builder.closeInnermost
  split
  · rename_i hopened
    refine ⟨h, ?_⟩
    intro element helement
    rw [hopened] at helement
    cases helement
  · rename_i inner outer hopened
    obtain ⟨hchildren, htexts, hrest, hnone⟩ := h.of_opened hopened
    have hclosed : inner.close.StylesHoldText := by
      refine ⟨?_, ?_⟩
      · intro hname child hchild
        exact htexts hname child (List.mem_reverse.mp hchild)
      · rw [stylesHoldText_iff]
        intro child hchild
        exact hchildren child (List.mem_reverse.mp hchild)
    exact ⟨hrest.add hclosed (.inl hnone), hnone.add _⟩

theorem IsOrderly.closeMany (h : builder.IsOrderly) (count : Nat) : (closeMany count builder).IsOrderly := by
  induction count generalizing builder with
  | zero => exact h
  | succ count ih => exact ih h.closeInnermost.1

/-- Without an open style, or with one element closed at least, no style is open. -/
theorem HasNoStyle.closeMany (h : builder.IsOrderly) (hnone : builder.HasNoStyle) (count : Nat) :
    (closeMany count builder).HasNoStyle := by
  induction count generalizing builder with
  | zero => exact hnone
  | succ count ih => exact ih h.closeInnermost.1 h.closeInnermost.2

theorem IsOrderly.closeNamed (h : builder.IsOrderly) (name : String) : (builder.closeNamed name).IsOrderly := by
  unfold Builder.closeNamed
  dsimp only
  split
  · exact h.flush.closeMany _
  · exact h.flush

theorem HasNoStyle.closeNamed (h : builder.IsOrderly) (hnone : builder.HasNoStyle) (name : String) :
    (builder.closeNamed name).HasNoStyle := by
  unfold Builder.closeNamed
  dsimp only
  split
  · exact HasNoStyle.closeMany h.flush hnone.flush _
  · exact hnone.flush

theorem names_flush (builder : Builder) :
    builder.flush.opened.map OpenElement.name = builder.opened.map OpenElement.name := by
  unfold Builder.flush
  split
  · rfl
  · unfold Builder.add
    split
    · rfl
    · rename_i inner outer hopened
      rw [show builder.opened = inner :: outer from hopened]
      rfl

/-- The end tag of an open style closes it. -/
theorem HasNoStyle.closeStyle (h : builder.IsOrderly)
    (hstyle : (builder.opened.map OpenElement.name).head? = some "style") : (builder.closeNamed "style").HasNoStyle := by
  rw [← names_flush] at hstyle
  cases hopened : builder.flush.opened with
  | nil =>
    rw [hopened] at hstyle
    cases hstyle
  | cons inner outer =>
    rw [hopened] at hstyle
    have hname : inner.name = "style" := Option.some.inj hstyle
    have hinnermost : builder.flush.opened.findIdx? (fun element => element.name == "style") = some 0 := by
      rw [hopened, List.findIdx?_cons, hname]
      rfl
    rw [Builder.closeNamed, hinnermost]
    exact h.flush.closeInnermost.2

theorem IsOrderly.endTag (h : builder.IsOrderly) (name : String) : (builder.endTag name).IsOrderly := by
  unfold Builder.endTag
  split
  · exact ⟨h.top, h.opened, h.outer, h.inner, fun hin => h.ended (List.mem_of_mem_erase hin)⟩
  · exact h.closeNamed name

theorem HasNoStyle.endTag (h : builder.IsOrderly) (hnone : builder.HasNoStyle) (name : String) :
    (builder.endTag name).HasNoStyle := by
  unfold Builder.endTag
  split
  · exact hnone
  · exact hnone.closeNamed h name

theorem IsOrderly.openElement (h : builder.IsOrderly) (hnone : builder.HasNoStyle) (name : String)
    (attributes : List Attribute) : (builder.openElement name attributes).IsOrderly where
  top := h.flush.top
  opened := List.forall_mem_cons.mpr ⟨nofun, h.flush.opened⟩
  outer := hnone.flush
  inner := List.forall_mem_cons.mpr ⟨fun _ => nofun, h.flush.inner⟩
  ended := h.flush.ended

theorem HasNoStyle.openElement (hnone : builder.HasNoStyle) (hname : name ≠ "style") (attributes : List Attribute) :
    (builder.openElement name attributes).HasNoStyle :=
  List.forall_mem_cons.mpr ⟨hname, hnone.flush⟩

/-! ## Tokens -/

/-- Where no contents of an element go on, no contents of a style do. -/
theorem none_ne_style : (none : Option String) ≠ some "style" := (Option.some_ne_none _).symm

/-- What has been built is orderly, and a style is open exactly where the contents of one go on. -/
structure Stands (builder : Builder) (raw : Option String) : Prop where
  orderly : builder.IsOrderly
  within : raw = some "style" → (builder.opened.map OpenElement.name).head? = some "style"
  without : raw ≠ some "style" → builder.HasNoStyle

theorem stands_empty : empty.Stands none :=
  ⟨isOrderly_empty, fun hraw => absurd hraw none_ne_style, fun _ => hasNoStyle_empty⟩

/-- Where no style is open and none is opened. -/
theorem IsOrderly.stands (h : builder.IsOrderly) (hnone : builder.HasNoStyle) {raw : Option String}
    (hraw : raw ≠ some "style") : builder.Stands raw := ⟨h, fun hstyle => absurd hstyle hraw, fun _ => hnone⟩

theorem Stands.take_startTag (h : builder.Stands none) (name : String) (attributes : List Attribute) (selfClosed : Bool) :
    (builder.take (.startTag name attributes selfClosed)).Stands
      (if !selfClosed && rawElements.contains name then some name else none) := by
  have hnone : builder.HasNoStyle := h.without none_ne_style
  have hopened := h.orderly.openElement hnone name attributes
  by_cases hstyle : name = "style"
  · subst hstyle
    cases selfClosed with
    | true =>
      -- a style that closes itself is a node without contents
      rw [take, endTag_openElement h.orderly.ended]
      have hnode : (Node.element "style" (keptAttributes "style" attributes) []).StylesHoldText :=
        ⟨fun _ => List.forall_mem_nil _, trivial⟩
      exact (h.orderly.flush.add hnode (.inl hnone.flush)).stands (hnone.flush.add _) none_ne_style
    | false => exact ⟨hopened, fun _ => rfl, fun hraw => absurd rfl hraw⟩
  · have hraw : (if !selfClosed && rawElements.contains name then some name else none) ≠ some "style" := by
      split
      · exact fun hsame => hstyle (Option.some.inj hsame)
      · exact none_ne_style
    have hstill := hnone.openElement hstyle attributes
    cases selfClosed with
    | true => exact (hopened.endTag name).stands (hstill.endTag hopened name) hraw
    | false =>
      rw [take]
      dsimp only
      split
      · -- a void element is closed at once, and its end tag may still come
        have hclosed := hopened.closeNamed name
        have hended : "style" ∉ (builder.openElement name attributes).ended ++ [name] := by
          rw [List.mem_append, List.mem_singleton, not_or]
          exact ⟨hopened.ended, fun hsame => hstyle hsame.symm⟩
        have horderly : ({ (builder.openElement name attributes).closeNamed name with
            ended := (builder.openElement name attributes).ended ++ [name] } : Builder).IsOrderly :=
          ⟨hclosed.top, hclosed.opened, hclosed.outer, hclosed.inner, hended⟩
        exact horderly.stands (hstill.closeNamed hopened name) hraw
      · exact hopened.stands hstill hraw

theorem Stands.take_special (h : builder.Stands none) {make : String → Node} (hmake : ∀ s, (make s).StylesHoldText)
    (s : List Char) : (builder.addSpecial make s).Stands none := by
  have hnone : builder.HasNoStyle := h.without none_ne_style
  exact (h.orderly.flush.add (hmake _) (.inl hnone.flush)).stands (hnone.flush.add _) none_ne_style

/-- Every token that may follow leaves what has been built orderly. -/
theorem Stands.take {raw next : Option String} {token : Token} (h : builder.Stands raw)
    (htoken : token.next? raw = some next) : (builder.take token).Stands next := by
  cases token with
  | text s =>
    obtain rfl := Option.some.inj htoken
    exact ⟨⟨h.orderly.top, h.orderly.opened, h.orderly.outer, h.orderly.inner, h.orderly.ended⟩, h.within, h.without⟩
  | startTag name attributes selfClosed =>
    cases raw with
    | some element => cases htoken
    | none =>
      obtain rfl := Option.some.inj htoken
      exact h.take_startTag name attributes selfClosed
  | endTag name =>
    obtain ⟨hname, hnext⟩ := Option.ite_none_right_eq_some.mp htoken
    obtain rfl := Option.some.inj hnext
    have hclosed := h.orderly.endTag name
    by_cases hstyle : raw = some "style"
    · -- only the end tag of the style may follow
      subst hstyle
      obtain rfl : "style" = name := beq_iff_eq.mp hname
      have hnone : (builder.endTag "style").HasNoStyle := by
        rw [Builder.endTag, if_neg (by simpa using h.orderly.ended)]
        exact HasNoStyle.closeStyle h.orderly (h.within rfl)
      exact hclosed.stands hnone none_ne_style
    · exact hclosed.stands ((h.without hstyle).endTag h.orderly name) none_ne_style
  | comment s | doctype s | cdata s | declaration s | instruction s =>
    cases raw with
    | some element => cases htoken
    | none =>
      obtain rfl := Option.some.inj htoken
      apply h.take_special
      exact fun _ => trivial

theorem Stands.foldl {raw next : Option String} {found : List Token} (h : builder.Stands raw)
    (hfound : Proceeds raw found next) : (found.foldl Builder.take builder).Stands next := by
  induction found generalizing builder raw with
  | nil =>
    obtain rfl := Option.some.inj hfound
    exact h
  | cons token found ih =>
    rw [Proceeds, List.foldlM_cons] at hfound
    obtain ⟨middle, htoken, hrest⟩ := Option.bind_eq_some_iff.mp hfound
    exact ih (h.take htoken) hrest

/-- The styles of the finished tree hold only text. -/
theorem IsOrderly.finish (h : builder.IsOrderly) : StylesHoldText builder.finish := by
  rw [stylesHoldText_iff]
  intro node hnode
  exact (h.flush.closeMany _).top node (List.mem_reverse.mp hnode)

end Builder

/-- The styles of a document hold only text. -/
theorem holdsText_of_nodes {text : String} {found : List Node} (h : nodes text = .ok found) :
    ∀ place ∈ documentOrder found, place.HoldsText := by
  obtain ⟨read, next, hread, rfl⟩ := exists_areRead_of_nodes h
  exact holdsText_of_mem_placesAmong 0 false _ (Builder.stands_empty.foldl hread.proceeds).orderly.finish

end Showcase.Html
