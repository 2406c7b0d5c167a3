import Showcase.Number.Double
import Showcase.Text.Basic
import Showcase.Text.Surrogate

/-!
# JSON values

The value type of listings, metadata and answers. Objects keep the order in which their members were entered. A
string literal may name half of a surrogate pair alone; such a string is no Unicode text, and is kept as its code points.
Where a text is asked for, it is shown with the replacement character in the place of each half. Numbers with a fraction
or an exponent are kept as the decimal they were written as.
-/

namespace Showcase

/-! ## Strings -/

/-- Code points of a string that is no Unicode text: one of them is half of a pair, and no two make one. -/
structure IsUnpaired (points : List Nat) : Prop where
  half : ∃ point ∈ points, Text.isSurrogate point = true
  apart : Text.holdsPair points = false
  bounded : ∀ point ∈ points, point < 0x110000

instance (points : List Nat) : Decidable (IsUnpaired points) :=
  decidable_of_iff ((∃ point ∈ points, Text.isSurrogate point = true) ∧ Text.holdsPair points = false ∧
    ∀ point ∈ points, point < 0x110000) ⟨fun h => ⟨h.1, h.2.1, h.2.2⟩, fun h => ⟨h.half, h.apart, h.bounded⟩⟩

/-- The value of a string literal: Unicode text, or a string with an unpaired surrogate. -/
inductive JsonString where
  | text (s : String)
  | unpaired (points : List Nat) (h : IsUnpaired points)
deriving DecidableEq, Repr

namespace JsonString

instance : Coe String JsonString := ⟨text⟩

/-- The code points of a string. -/
def points : JsonString → List Nat
  | text s => s.toList.map Char.toNat
  | unpaired points _ => points

/-- The string of code points in which pairs are joined already. -/
def ofPoints (points : List Nat) : JsonString :=
  if h : IsUnpaired points then unpaired points h else text (String.ofList (points.map Char.ofNat))

/-- A string as a text: the replacement character stands for half of a pair. -/
def shown : JsonString → String
  | text s => s
  | unpaired points _ => String.ofList (points.map Text.shownPoint)

@[simp] theorem shown_text (s : String) : (text s).shown = s := rfl

/-- Whether a string has no character. -/
def isEmpty (s : JsonString) : Bool := s.shown.isEmpty

@[simp] theorem isEmpty_text (s : String) : (text s).isEmpty = s.isEmpty := rfl

/-- The first half of a pair that stands alone in a string; a text has none. -/
def half? : JsonString → Option Nat
  | text _ => none
  | unpaired points _ => points.find? Text.isSurrogate

end JsonString

/-! ## Numbers -/

/-- A number that is not written as a whole number. -/
inductive Decimal where
  | finite (negative : Bool) (digits : Nat) (exponent : Int)
  | infinite (negative : Bool)
  | notANumber
deriving DecidableEq, Repr

/-- The double nearest to a decimal. -/
def Decimal.toDouble : Decimal → Double
  | finite negative digits exponent => Double.ofDecimal negative digits exponent
  | infinite negative => .infinite negative
  | notANumber => .notANumber

/-! ## Values -/

/-- A JSON value. -/
inductive Json where
  | null
  | bool (b : Bool)
  | int (n : Int)
  | decimal (d : Decimal)
  | str (s : JsonString)
  | arr (items : List Json)
  | obj (members : List (JsonString × Json))

namespace Json

/-- A string that is Unicode text. -/
def ofString (s : String) : Json := .str (.text s)

/-- A text or null. -/
def ofOption (s : Option String) : Json := (s.map ofString).getD .null

/-- A string or null. -/
def ofNullable (s : Option JsonString) : Json := (s.map str).getD .null

/-- A list of texts. -/
def ofStrings (texts : List String) : Json := .arr (texts.map ofString)

/-- An object with text keys. -/
def ofMembers (members : List (String × Json)) : Json := .obj (members.map fun m => (.text m.1, m.2))

/-- An object with a text for each name. -/
def ofBindings (bindings : List (String × String)) : Json := ofMembers (bindings.map fun b => (b.1, ofString b.2))

/-- An object with a string for each name. -/
def ofEntries (entries : List (JsonString × JsonString)) : Json := .obj (entries.map fun entry => (entry.1, .str entry.2))

/-- The value of a member of a list of members. -/
def member? (members : List (JsonString × Json)) (name : String) : Option Json := members.lookup (.text name)

/-- The value of a member, when the value is an object that has it. -/
def get? : Json → String → Option Json
  | .obj members, name => member? members name
  | _, _ => none

/-- The text that a string value shows. -/
def text? : Json → Option String
  | .str s => some s.shown
  | _ => none

/-- Whether a value counts as true: null, false, zero and everything empty do not. -/
def isTruthy : Json → Bool
  | .null => false
  | .bool b => b
  | .int n => n != 0
  | .decimal d => !d.toDouble.isZero
  | .str s => !s.isEmpty
  | .arr items => !items.isEmpty
  | .obj members => !members.isEmpty

/-- The name by which messages call the kind of a value. -/
def kindName : Json → String
  | .null => "NoneType"
  | .bool _ => "bool"
  | .int _ => "int"
  | .decimal _ => "float"
  | .str _ => "str"
  | .arr _ => "list"
  | .obj _ => "dict"

/-- A scalar as it is displayed inside a text. -/
def display : Json → String
  | .null => "None"
  | .bool true => "True"
  | .bool false => "False"
  | .int n => toString n
  | .str s => s.shown
  | _ => ""

/-! ## Scalars within a value -/

mutual

/-- Whether some scalar within a value has a property. The names of members are among them. -/
def anyScalar (p : Json → Bool) : Json → Bool
  | .arr items => anyItem p items
  | .obj members => anyMember p members
  | .null => p .null
  | .bool b => p (.bool b)
  | .int n => p (.int n)
  | .decimal d => p (.decimal d)
  | .str s => p (.str s)

@[inherit_doc anyScalar]
def anyItem (p : Json → Bool) : List Json → Bool
  | [] => false
  | item :: others => anyScalar p item || anyItem p others

@[inherit_doc anyScalar]
def anyMember (p : Json → Bool) : List (JsonString × Json) → Bool
  | [] => false
  | (name, value) :: others => p (.str name) || anyScalar p value || anyMember p others

end

/-- Whether a value is a number that is not finite. -/
def isUnbounded : Json → Bool
  | .decimal d => !d.toDouble.isFinite
  | _ => false

/-- Whether a value is a string that is no Unicode text. -/
def isHalved : Json → Bool
  | .str s => s.half?.isSome
  | _ => false

end Json

end Showcase
