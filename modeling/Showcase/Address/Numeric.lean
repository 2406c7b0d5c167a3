import Showcase.Text.Basic
import Showcase.Text.Hex
import Showcase.Text.Word

/-!
# Numeric hosts

A host may be given as a number: four decimal octets with points between them, or up to eight groups of hexadecimal
digits with colons between them. In the second form two colons stand once for a run of zero groups, and the last two
groups may be written as four octets.
-/

namespace Showcase.Address

/-- An octet: one to three digits without a leading zero, at most 255. -/
def isOctet (digits : List Char) : Bool :=
  !digits.isEmpty && digits.all Text.isDigit && digits.length ≤ 3
    && (digits.length == 1 || digits.head? != some '0') && Text.decimalNumber digits ≤ 255

/-- Four octets. -/
def isFourOctets (s : List Char) : Bool :=
  let octets := Text.splitAtChar '.' s
  octets.length == 4 && octets.all isOctet

/-- A group: one to four hexadecimal digits. -/
def isGroup (digits : List Char) : Bool :=
  !digits.isEmpty && digits.length ≤ 4 && digits.all fun c => (Text.hexValue? c).isSome

/-- The pieces between colons, four octets at the end counted as two groups; none if octets are malformed. -/
def groupPieces? (s : List Char) : Option (List (List Char)) :=
  let pieces := Text.splitAtChar ':' s
  match pieces.getLast? with
  | some last =>
    if last.contains '.' then
      if isFourOctets last then some (pieces.dropLast ++ [['0'], ['0']]) else none
    else some pieces
  | none => none

/-- Groups without an omitted run: eight of them. -/
def isFullGroups (pieces : List (List Char)) : Bool := pieces.length == 8 && pieces.all isGroup

/-- Groups before or after an omitted run; an empty piece at the outer end is allowed only alone. -/
def isPartOfGroups (pieces : List (List Char)) : Bool := pieces == [[]] || pieces.all isGroup

/-- How many groups there are before or after an omitted run. -/
def countGroups (pieces : List (List Char)) : Nat := (pieces.filter fun piece => !piece.isEmpty).length

/-- Groups of hexadecimal digits. -/
def isGroups (s : List Char) : Bool :=
  match groupPieces? s with
  | none => false
  | some pieces =>
    let inner := (pieces.drop 1).dropLast
    if (Text.splitAtChar ':' s).length < 3 || pieces.length > 9 then false
    else if inner.any List.isEmpty then
      let front := pieces.take 1 ++ inner.takeWhile fun piece => !piece.isEmpty
      let back := (inner.dropWhile fun piece => !piece.isEmpty).drop 1 ++ pieces.drop (pieces.length - 1)
      isPartOfGroups front && isPartOfGroups back && countGroups front + countGroups back ≤ 7
    else isFullGroups pieces

/-- Groups with an optional zone after a percent sign. -/
def isZonedGroups (s : List Char) : Bool :=
  match Text.cutAtFirst '%' s with
  | (groups, some zone) => isGroups groups && !zone.isEmpty && !zone.contains '%'
  | (groups, none) => isGroups groups

end Showcase.Address
