import Showcase.Proofs.Json.Numeral
import Showcase.Proofs.Text.Split

/-!
# JSON texts

What a JSON text is and which value it has, without regard to a reader. Values stand between blanks; the members of an
object may repeat a name, which then keeps its first place and has its last value. A string literal has escapes for
characters, or for the code units that make one, and no control characters.

* `Spells` — the texts of values, arrays and objects included.
* `IsDocument` — a whole text with one value.
-/

namespace Showcase.Json

/-! ## Strings -/

/-- What stands between the quotes of a string literal, and the code units that it stands for. -/
inductive SpellsUnits : List Char → List Nat → Prop where
  | nil : SpellsUnits [] []
  | plain {c : Char} {body : List Char} {units : List Nat} (hquote : c ≠ '"') (hescape : c ≠ '\\')
    (hcontrol : 32 ≤ c.toNat) (h : SpellsUnits body units) : SpellsUnits (c :: body) (c.toNat :: units)
  | short {name code : Char} {body : List Char} {units : List Nat} (hname : shortEscape? name = some code)
    (h : SpellsUnits body units) : SpellsUnits ('\\' :: name :: body) (code.toNat :: units)
  | unicode {a b c d : Char} {unit : Nat} {body : List Char} {units : List Nat}
    (hunit : fourDigits? a b c d = some unit) (h : SpellsUnits body units) :
    SpellsUnits ('\\' :: 'u' :: a :: b :: c :: d :: body) (unit :: units)

theorem SpellsUnits.append {first second : List Char} {units others : List Nat} (hfirst : SpellsUnits first units)
    (hsecond : SpellsUnits second others) : SpellsUnits (first ++ second) (units ++ others) := by
  induction hfirst with
  | nil => exact hsecond
  | plain hquote hescape hcontrol h ih => exact .plain hquote hescape hcontrol ih
  | short hname h ih => exact .short hname ih
  | unicode hunit h ih => exact .unicode hunit ih

/-! ## Members by name -/

/-- The members of an object by name: each name in its first place, with its last value. -/
def entered (members : List (JsonString × Json)) : List (JsonString × Json) :=
  (members.map Prod.fst).eraseDups.map fun name => (name, (members.reverse.lookup name).getD .null)

/-! ## Values between blanks -/

/-- A text of blanks. -/
def IsSpacing (s : List Char) : Prop := ∀ c ∈ s, isSpace c = true

theorem isSpacing_nil : IsSpacing [] := nofun

/-- A place for a value, with blanks before and after its text. -/
structure Slot where
  before : List Char
  text : List Char
  after : List Char
  value : Json
  spaced_before : IsSpacing before
  spaced_after : IsSpacing after

/-- All of the text at a place. -/
def Slot.whole (slot : Slot) : List Char := slot.before ++ (slot.text ++ slot.after)

/-- A place for a member: the literal of its name between blanks, and a place for its value behind a colon. -/
structure MemberSlot extends Slot where
  lead : List Char
  name : List Char
  units : List Nat
  trail : List Char
  spaced_lead : IsSpacing lead
  spells_name : SpellsUnits name units
  spaced_trail : IsSpacing trail

namespace MemberSlot

/-- All of the text at a place of a member. -/
def member (slot : MemberSlot) : List Char :=
  slot.lead ++ ('"' :: (slot.name ++ '"' :: (slot.trail ++ ':' :: slot.whole)))

/-- The member at a place. -/
def entry (slot : MemberSlot) : JsonString × Json := (stringOfUnits slot.units, slot.value)

end MemberSlot

/-- Texts with commas between them. -/
def listed (texts : List (List Char)) : List Char := List.intercalate [','] texts

theorem listed_singleton (text : List Char) : listed [text] = text := List.append_nil _

theorem listed_cons (text : List Char) {texts : List (List Char)} (h : texts ≠ []) :
    listed (text :: texts) = text ++ ',' :: listed texts := Text.intercalate_cons_of_ne_nil h

/-! ## Texts of values -/

/-- The text of a value, without blanks around it. -/
inductive Spells : List Char → Json → Prop where
  | scalar {text : List Char} {value : Json} (h : SpellsScalar text value) : Spells text value
  | str {body : List Char} {units : List Nat} (h : SpellsUnits body units) :
    Spells ('"' :: (body ++ ['"'])) (.str (stringOfUnits units))
  | emptyArr {blanks : List Char} (hblanks : IsSpacing blanks) : Spells ('[' :: (blanks ++ [']'])) (.arr [])
  | arr {slots : List Slot} (hne : slots ≠ []) (h : ∀ slot ∈ slots, Spells slot.text slot.value) :
    Spells ('[' :: (listed (slots.map Slot.whole) ++ [']'])) (.arr (slots.map Slot.value))
  | emptyObj {blanks : List Char} (hblanks : IsSpacing blanks) : Spells ('\x7b' :: (blanks ++ ['\x7d'])) (.obj [])
  | obj {slots : List MemberSlot} (hne : slots ≠ []) (h : ∀ slot ∈ slots, Spells slot.text slot.value) :
    Spells ('\x7b' :: (listed (slots.map MemberSlot.member) ++ ['\x7d'])) (.obj (entered (slots.map MemberSlot.entry)))

/-- A text with one value, between blanks. -/
def IsDocument (text : List Char) (value : Json) : Prop :=
  ∃ slot : Slot, Spells slot.text slot.value ∧ slot.whole = text ∧ slot.value = value

theorem Spells.isDocument {text : List Char} {value : Json} (h : Spells text value) : IsDocument text value :=
  ⟨⟨[], text, [], value, isSpacing_nil, isSpacing_nil⟩, h, List.append_nil _, rfl⟩

end Showcase.Json
