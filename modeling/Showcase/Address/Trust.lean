import Showcase.Address.Numeric
import Showcase.Address.Separators

/-!
# Trusted addresses

Content is fetched only from hosts that are trusted. An address is split into its parts as written, after tabs and line
breaks are taken out; its host is what stands after the last `@` of its authority, up to a port. An address has no host
when its authority holds brackets around anything but a numeric host, or a character that stands for one of the
separators in a compatible form.
-/

namespace Showcase.Address

/-! ## Splitting -/

/-- Tabs and line breaks. -/
def isBreak (c : Char) : Bool := c == '\t' || c == '\n' || c == '\r'

/-- The scheme of an address, empty if it has none, and what follows. -/
def splitScheme (url : List Char) : List Char × List Char :=
  match Text.cutAtFirst ':' url with
  | (scheme, some rest) =>
    if scheme.head?.any Text.isLetter && scheme.all isSchemeChar then (Text.lower scheme, rest) else ([], url)
  | (_, none) => ([], url)

/-- The authority after a scheme, empty without two slashes. -/
def authorityOf : List Char → List Char
  | '/' :: '/' :: rest => rest.takeWhile fun c => !endsAuthority c
  | _ => []

/-- Characters with a compatible form that holds a separator. -/
def hidesSeparator (c : Char) : Bool :=
  [0x2047, 0x2048, 0x2049, 0x2100, 0x2101, 0x2105, 0x2106, 0x2A74, 0xFE13, 0xFE16, 0xFE55, 0xFE56, 0xFE5F, 0xFE6B,
    0xFF03, 0xFF0F, 0xFF1A, 0xFF1F, 0xFF20].contains c.toNat

/-- A host of a future version: its number in hexadecimal digits, a point and anything. -/
def isFutureHost : List Char → Bool
  | 'v' :: rest =>
    match Text.cutAtFirst '.' rest with
    | (version, some name) => !version.isEmpty && version.all (fun c => (Text.hexValue? c).isSome) && !name.isEmpty
    | (_, none) => false
  | _ => false

/-- A host that may stand in brackets. -/
def isBracketedHost (host : List Char) : Bool :=
  if host.head? == some 'v' then isFutureHost host else isZonedGroups host

/-- Whether an authority with brackets in it has a numeric host, with nothing before the brackets and nothing but a port
after them. -/
def hasBracketedHost (authority : List Char) : Bool :=
  let hostAndPort := Text.afterLast '@' authority
  match Text.cutAtFirst '[' hostAndPort with
  | (before, some bracketed) =>
    let (host, after) := Text.cutAtFirst ']' bracketed
    before.isEmpty && (after.all fun port => port.isEmpty || port.head? == some ':') && isBracketedHost host
  | (_, none) => isBracketedHost (Text.cutAtFirst ':' hostAndPort).1

/-- Whether an authority may be taken apart. -/
def isSound (authority : List Char) : Bool :=
  (if authority.contains '[' || authority.contains ']' then
      authority.contains '[' && authority.contains ']' && hasBracketedHost authority
    else true)
    && !authority.any hidesSeparator

/-- The host of an authority: after the last `@`, in brackets if there are any, else up to the port. -/
def hostOf (authority : List Char) : List Char :=
  let hostAndPort := Text.afterLast '@' authority
  match Text.cutAtFirst '[' hostAndPort with
  | (_, some bracketed) => (Text.cutAtFirst ']' bracketed).1
  | (_, none) => (Text.cutAtFirst ':' hostAndPort).1

/-! ## Trust -/

/-- The host that content would be fetched from, in lower case, when an address is one of the web. -/
def webHost? (url : String) : Option String :=
  let (scheme, rest) := splitScheme (url.toList.filter fun c => !isBreak c)
  let authority := authorityOf rest
  let host := hostOf authority
  if isSound authority && (scheme == "http".toList || scheme == "https".toList) && !host.isEmpty then
    some (String.ofList (Text.lower host))
  else none

/-- Whether a host is one of the trusted hosts or lies under one. -/
def isWithin (trusted : List String) (host : String) : Bool :=
  trusted.any fun known => host == known || endsWith host ("." ++ known)

/-- Whether an address points at a trusted host. -/
def isTrusted (trusted : List String) (url : String) : Bool := (webHost? url).any (isWithin trusted)

end Showcase.Address
