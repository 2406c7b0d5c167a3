import Showcase.Text.Word

/-!
# Separators of an address

The characters by which an address falls into its parts.
-/

namespace Showcase.Address

/-- Characters of a scheme. -/
def isSchemeChar (c : Char) : Bool := Text.isLetter c || Text.isDigit c || c == '+' || c == '-' || c == '.'

/-- Characters that end an authority. -/
def endsAuthority (c : Char) : Bool := c == '/' || c == '?' || c == '#'

end Showcase.Address
