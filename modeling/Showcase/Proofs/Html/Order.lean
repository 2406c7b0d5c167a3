import Showcase.Html.Body

/-!
# Document order

The nodes of a tree in document order are each node and then what is inside it, before what follows. With its depth each
node tells where it stands, so the list tells the tree. The first element of a name is the first in this order, the styles
come in this order, and without its styles a tree has the same nodes in the same order but for the styles and what is in
them.
-/

namespace Showcase.Html

/-! ## Nodes in their places -/

namespace Node

/-- A node is an element of a name. -/
def isNamed (name : String) : Node → Bool
  | element known _ _ => known == name
  | _ => false

/-- The nodes right inside a node. -/
def children : Node → List Node
  | element _ _ children => children
  | _ => []

/-- A node without what is inside it. -/
def bare : Node → Node
  | element name attributes _ => element name attributes []
  | other => other

end Node

/-- A node of a tree, how deep it lies, and whether it is a style or lies in one. -/
structure Place where
  depth : Nat
  node : Node
  inStyle : Bool

/-- What a place tells without what is inside its node. -/
def Place.label (place : Place) : Nat × Node := (place.depth, place.node.bare)

mutual

/-- The places of a node and of what is inside it, in document order. -/
def placesIn (depth : Nat) (inStyle : Bool) : Node → List Place
  | .element name attributes children =>
    ⟨depth, .element name attributes children, inStyle || name == "style"⟩ ::
      placesAmong (depth + 1) (inStyle || name == "style") children
  | other => [⟨depth, other, inStyle⟩]

/-- The places of nodes and of what is inside them, in document order. -/
def placesAmong (depth : Nat) (inStyle : Bool) : List Node → List Place
  | [] => []
  | node :: others => placesIn depth inStyle node ++ placesAmong depth inStyle others

end

/-- The places of the nodes of a document, in document order. -/
def documentOrder (nodes : List Node) : List Place := placesAmong 0 false nodes

/-! ## The tree that is told -/

/-- The places inside a node. -/
def placesInside (depth : Nat) (inStyle : Bool) : Node → List Place
  | .element name _ children => placesAmong (depth + 1) (inStyle || name == "style") children
  | _ => []

theorem labels_placesIn (depth : Nat) (inStyle : Bool) (node : Node) : (placesIn depth inStyle node).map Place.label =
    (depth, node.bare) :: (placesInside depth inStyle node).map Place.label := by
  cases node <;> rfl

mutual

theorem le_depth_of_mem_placesIn (depth : Nat) (inStyle : Bool) :
    ∀ node : Node, ∀ place ∈ placesIn depth inStyle node, depth ≤ place.depth
  | .element name attributes children => by
    intro place hplace
    rcases List.mem_cons.mp hplace with rfl | hin
    · exact Nat.le_refl depth
    · exact Nat.le_of_succ_le (le_depth_of_mem_placesAmong (depth + 1) (inStyle || name == "style") children place hin)
  | .text _ | .comment _ | .doctype _ | .cdata _ | .declaration _ | .instruction _ => by
    intro place hplace
    obtain rfl := List.mem_singleton.mp hplace
    exact Nat.le_refl depth

theorem le_depth_of_mem_placesAmong (depth : Nat) (inStyle : Bool) :
    ∀ nodes : List Node, ∀ place ∈ placesAmong depth inStyle nodes, depth ≤ place.depth
  | [] => nofun
  | node :: others => by
    intro place hplace
    rcases List.mem_append.mp hplace with hin | hin
    · exact le_depth_of_mem_placesIn depth inStyle node place hin
    · exact le_depth_of_mem_placesAmong depth inStyle others place hin

end

/-- What is inside a node ends where the next one of its depth begins. -/
theorem takeWhile_labels (depth : Nat) (inStyle : Bool) (node : Node) (others : List Node) :
    ((placesInside depth inStyle node).map Place.label ++ (placesAmong depth inStyle others).map Place.label).takeWhile
      (fun label => depth < label.1) = (placesInside depth inStyle node).map Place.label := by
  have hinside : ∀ label ∈ (placesInside depth inStyle node).map Place.label, decide (depth < label.1) = true := by
    intro label hlabel
    obtain ⟨place, hplace, rfl⟩ := List.mem_map.mp hlabel
    cases node with
    | element name attributes children =>
      exact decide_eq_true (le_depth_of_mem_placesAmong (depth + 1) (inStyle || name == "style") children place hplace)
    | text | comment | doctype | cdata | declaration | instruction => cases hplace
  rw [List.takeWhile_append_of_pos hinside]
  cases others with
  | nil => rw [placesAmong, List.map_nil, List.takeWhile_nil, List.append_nil]
  | cons next others => simp [placesAmong, labels_placesIn]

mutual

theorem eq_of_bare_eq (depth : Nat) (inStyle : Bool) : ∀ node other : Node, node.bare = other.bare →
    (placesInside depth inStyle node).map Place.label = (placesInside depth inStyle other).map Place.label → node = other
  | .element name attributes children => by
    intro other hbare hinside
    cases other with
    | element name' attributes' children' =>
      obtain ⟨rfl, rfl, -⟩ := Node.element.inj hbare
      rw [eq_of_labels_eq (depth + 1) (inStyle || name == "style") children children' hinside]
    | text | comment | doctype | cdata | declaration | instruction => cases hbare
  | .text _ | .comment _ | .doctype _ | .cdata _ | .declaration _ | .instruction _ => by
    intro other hbare _
    cases other <;> first | exact hbare | cases hbare

/-- Nodes are told by the labels of them and of what is inside them. -/
theorem eq_of_labels_eq (depth : Nat) (inStyle : Bool) : ∀ nodes others : List Node,
    (placesAmong depth inStyle nodes).map Place.label = (placesAmong depth inStyle others).map Place.label → nodes = others
  | [] => by
    intro others hlabels
    cases others with
    | nil => rfl
    | cons other others => simp [placesAmong, labels_placesIn] at hlabels
  | node :: nodes => by
    intro others hlabels
    cases others with
    | nil => simp [placesAmong, labels_placesIn] at hlabels
    | cons other others =>
      rw [placesAmong, placesAmong, List.map_append, List.map_append, labels_placesIn, labels_placesIn,
        List.cons_append, List.cons_append] at hlabels
      obtain ⟨hhead, hrest⟩ := List.cons.inj hlabels
      have hinside := congrArg (List.takeWhile fun label => decide (depth < label.1)) hrest
      rw [takeWhile_labels, takeWhile_labels] at hinside
      rw [hinside] at hrest
      rw [eq_of_bare_eq depth inStyle node other (Prod.mk.inj hhead).2 hinside,
        eq_of_labels_eq depth inStyle nodes others (List.append_cancel_left hrest)]

end

/-! ## The first element of a name -/

mutual

theorem findIn_eq (name : String) (depth : Nat) (inStyle : Bool) : ∀ node : Node, findIn name node =
    ((placesIn depth inStyle node).find? fun place => place.node.isNamed name).map fun place => place.node.children
  | .element known attributes children => by
    rw [findIn, placesIn, List.find?_cons, Node.isNamed, findAmong_eq name (depth + 1) (inStyle || known == "style") children]
    cases known == name <;> rfl
  | .text _ | .comment _ | .doctype _ | .cdata _ | .declaration _ | .instruction _ => rfl

theorem findAmong_eq (name : String) (depth : Nat) (inStyle : Bool) : ∀ nodes : List Node, findAmong name nodes =
    ((placesAmong depth inStyle nodes).find? fun place => place.node.isNamed name).map fun place => place.node.children
  | [] => rfl
  | node :: others => by
    rw [findAmong, placesAmong, List.find?_append, findIn_eq name depth inStyle node,
      findAmong_eq name depth inStyle others]
    cases (placesIn depth inStyle node).find? fun place => place.node.isNamed name <;> rfl

end

/-! ## Styles -/

/-- The text of a style. -/
def Place.styleText (place : Place) : String := "".intercalate (place.node.children.map textOf)

mutual

theorem stylesIn_eq (depth : Nat) (inStyle : Bool) : ∀ node : Node, stylesIn node =
    ((placesIn depth inStyle node).filter fun place => place.node.isNamed "style").map Place.styleText
  | .element name attributes children => by
    rw [stylesIn, placesIn, List.filter_cons, Node.isNamed,
      stylesAmong_eq (depth + 1) (inStyle || name == "style") children]
    cases name == "style" <;> rfl
  | .text _ | .comment _ | .doctype _ | .cdata _ | .declaration _ | .instruction _ => rfl

theorem stylesAmong_eq (depth : Nat) (inStyle : Bool) : ∀ nodes : List Node, stylesAmong nodes =
    ((placesAmong depth inStyle nodes).filter fun place => place.node.isNamed "style").map Place.styleText
  | [] => rfl
  | node :: others => by
    rw [stylesAmong, placesAmong, List.filter_append, List.map_append, stylesIn_eq depth inStyle node,
      stylesAmong_eq depth inStyle others]

end

/-! ## Without styles -/

mutual

theorem inStyle_of_mem_placesIn (depth : Nat) : ∀ (node : Node), ∀ place ∈ placesIn depth true node, place.inStyle = true
  | .element name attributes children => by
    rw [placesIn, Bool.true_or]
    intro place hplace
    rcases List.mem_cons.mp hplace with rfl | hin
    · rfl
    · exact inStyle_of_mem_placesAmong (depth + 1) children place hin
  | .text _ | .comment _ | .doctype _ | .cdata _ | .declaration _ | .instruction _ => by
    simp [placesIn]

/-- Whatever lies in a style is marked so. -/
theorem inStyle_of_mem_placesAmong (depth : Nat) :
    ∀ (nodes : List Node), ∀ place ∈ placesAmong depth true nodes, place.inStyle = true
  | [] => nofun
  | node :: others => by
    intro place hplace
    rcases List.mem_append.mp hplace with hin | hin
    · exact inStyle_of_mem_placesIn depth node place hin
    · exact inStyle_of_mem_placesAmong depth others place hin

end

/-- Of a style nothing is left. -/
theorem filter_placesIn_style (depth : Nat) {node : Node} (h : isStyle node = true) :
    (placesIn depth false node).filter (fun place => !place.inStyle) = [] := by
  rw [List.filter_eq_nil_iff]
  cases node with
  | element name attributes children =>
    have hname : (name == "style") = true := h
    rw [placesIn, hname, Bool.or_true]
    intro place hplace
    rcases List.mem_cons.mp hplace with rfl | hin
    · simp
    · simp [inStyle_of_mem_placesAmong (depth + 1) children place hin]
  | text | comment | doctype | cdata | declaration | instruction => cases h

mutual

theorem labels_withoutStylesIn (depth : Nat) : ∀ node : Node, isStyle node = false →
    (placesIn depth false (withoutStylesIn node)).map Place.label =
      ((placesIn depth false node).filter fun place => !place.inStyle).map Place.label
  | .element name attributes children => by
    intro h
    have hname : (name == "style") = false := h
    rw [withoutStylesIn, placesIn, placesIn, hname, Bool.or_false, List.filter_cons, if_pos (by rfl), List.map_cons,
      List.map_cons, labels_withoutStyles (depth + 1) children]
    rfl
  | .text _ | .comment _ | .doctype _ | .cdata _ | .declaration _ | .instruction _ => fun _ => rfl

/-- Without styles there are the same nodes in the same order, but for the styles and what is in them. -/
theorem labels_withoutStyles (depth : Nat) : ∀ nodes : List Node,
    (placesAmong depth false (withoutStyles nodes)).map Place.label =
      ((placesAmong depth false nodes).filter fun place => !place.inStyle).map Place.label
  | [] => rfl
  | node :: others => by
    rw [withoutStyles, placesAmong, List.filter_append, List.map_append]
    cases hstyle : isStyle node with
    | true =>
      rw [if_pos rfl, filter_placesIn_style depth hstyle, List.map_nil, List.nil_append,
        labels_withoutStyles depth others]
    | false =>
      rw [if_neg Bool.false_ne_true, placesAmong, List.map_append, labels_withoutStylesIn depth node hstyle,
        labels_withoutStyles depth others]

end

/-- The nodes that are left are the only ones with these labels. -/
theorem labels_eq_iff (nodes kept : List Node) : (documentOrder kept).map Place.label =
    ((documentOrder nodes).filter fun place => !place.inStyle).map Place.label ↔ kept = withoutStyles nodes := by
  rw [documentOrder, documentOrder, ← labels_withoutStyles 0 nodes]
  constructor
  · exact eq_of_labels_eq 0 false kept (withoutStyles nodes)
  · rintro rfl
    rfl

/-! ## Styles that hold only text -/

/-- A style holds nothing but texts. -/
def Place.HoldsText (place : Place) : Prop :=
  place.node.isNamed "style" = true → ∀ child ∈ place.node.children, ∃ s, child = .text s

mutual

/-- The styles in a node hold only text. -/
def Node.StylesHoldText : Node → Prop
  | .element name _ children => (name = "style" → ∀ child ∈ children, ∃ s, child = .text s) ∧ StylesHoldText children
  | _ => True

/-- The styles among nodes hold only text. -/
def StylesHoldText : List Node → Prop
  | [] => True
  | node :: others => node.StylesHoldText ∧ StylesHoldText others

end

theorem stylesHoldText_iff {nodes : List Node} : StylesHoldText nodes ↔ ∀ node ∈ nodes, node.StylesHoldText := by
  induction nodes with
  | nil => simp [StylesHoldText]
  | cons node others ih => rw [StylesHoldText, ih, List.forall_mem_cons]

mutual

theorem holdsText_of_mem_placesIn (depth : Nat) (inStyle : Bool) : ∀ node : Node, node.StylesHoldText →
    ∀ place ∈ placesIn depth inStyle node, place.HoldsText
  | .element name attributes children => by
    intro h place hplace
    rw [placesIn] at hplace
    rcases List.mem_cons.mp hplace with rfl | hin
    · intro hstyle
      exact h.1 (beq_iff_eq.mp hstyle)
    · exact holdsText_of_mem_placesAmong (depth + 1) (inStyle || name == "style") children h.2 place hin
  | .text _ | .comment _ | .doctype _ | .cdata _ | .declaration _ | .instruction _ => by
    intro _ place hplace hstyle
    obtain rfl := List.mem_singleton.mp hplace
    cases hstyle

theorem holdsText_of_mem_placesAmong (depth : Nat) (inStyle : Bool) : ∀ nodes : List Node, StylesHoldText nodes →
    ∀ place ∈ placesAmong depth inStyle nodes, place.HoldsText
  | [] => fun _ => nofun
  | node :: others => by
    intro h place hplace
    rcases List.mem_append.mp hplace with hin | hin
    · exact holdsText_of_mem_placesIn depth inStyle node h.1 place hin
    · exact holdsText_of_mem_placesAmong depth inStyle others h.2 place hin

end

end Showcase.Html
