/-!
# Bindings

An ordered table of names and texts. It serves for the variables of a component, name and label, and for the values
that a preview shows in their place. A name occurs once; it keeps the place of its first entry.
-/

namespace Showcase

/-- Names with their texts, in order of first entry. -/
abbrev Bindings := List (String × String)

namespace Bindings

/-- The text of a name. -/
def get? (bindings : Bindings) (name : String) : Option String := bindings.lookup name

/-- Whether a name has an entry. -/
def has (bindings : Bindings) (name : String) : Bool := (bindings.get? name).isSome

/-- The names, in order. -/
def names (bindings : Bindings) : List String := bindings.map (·.1)

/-- Enter a text under a name: in its old place if the name is known, else at the end. -/
def put (name text : String) : Bindings → Bindings
  | [] => [(name, text)]
  | (known, old) :: others =>
    if known = name then (name, text) :: others else (known, old) :: put name text others

/-- Enter a text under a name unless the name is known. -/
def putNew (name text : String) (bindings : Bindings) : Bindings :=
  if bindings.has name then bindings else bindings ++ [(name, text)]

/-- Whether two tables give every name the same text, whatever the order. -/
def agree (first second : Bindings) : Bool :=
  first.length == second.length && first.all fun entry => second.get? entry.1 == some entry.2

end Bindings

end Showcase
