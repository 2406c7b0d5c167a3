import Showcase.Text.Table.Unprintable

/-!
# Characters with a printed form

A displayed text writes a character as itself when it has a printed form, and by an escape otherwise.
-/

namespace Showcase.Text

/-- Whether a character is displayed as itself; the plain space is the only blank that is. -/
def isPrintable (c : Char) : Bool :=
  if c.toNat < 128 then 32 ≤ c.toNat && c.toNat < 127 else !Table.unprintable.holds c.toNat

end Showcase.Text
