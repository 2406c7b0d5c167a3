import Showcase.Address.Numeric
import Showcase.Address.Percent
import Showcase.Address.Separators
import Showcase.Address.Unicode
import Showcase.Failure
import Showcase.Pattern.Search

/-!
# Addresses of requests

A request goes to an address: scheme, user, host and port, path, query and fragment. Reading an address brings it into
one form: scheme and host in lower case, the port of the scheme left out, dots in the path resolved, and everything
encoded that may not stand for itself. An address that has no such form is refused. An address without a host is taken
as a path from the root.
-/

namespace Showcase

/-- Where a request goes. -/
structure Address where
  scheme : String
  user : String
  host : String
  port : Option Int
  path : String
  query : Option String
  fragment : Option String
deriving DecidableEq, Repr

namespace Address

/-! ## Text -/

/-- User, host and port as text. -/
def authority (address : Address) : String :=
  (if address.user.isEmpty then "" else address.user ++ "@")
    ++ (if contains address.host ":" then "[" ++ address.host ++ "]" else address.host)
    ++ (match address.port with
      | some port => ":" ++ toString port
      | none => "")

/-- An optional part after its mark. -/
def marked (mark : String) : Option String → String
  | some part => mark ++ part
  | none => ""

/-- An address as text. -/
def toText (address : Address) : String :=
  (if address.scheme.isEmpty then "" else address.scheme ++ ":")
    ++ (if address.authority.isEmpty then "" else "//" ++ address.authority)
    ++ address.path ++ marked "?" address.query ++ marked "#" address.fragment

/-- Whether an address names a host. -/
def isAbsolute (address : Address) : Bool := !address.scheme.isEmpty && !address.host.isEmpty

/-- Whether an address carries a user name or a password: more than the colon between them. -/
def hasCredentials (address : Address) : Bool := address.user != "" && address.user != ":"

/-! ## Parts -/

/-- The parts of an address as they are written. -/
structure WrittenParts where
  scheme : List Char
  authority : List Char
  path : List Char
  query : Option (List Char)
  fragment : Option (List Char)

/-- The scheme, empty or letters and what may follow a letter, up to its colon; and what follows. -/
def cutScheme (text : List Char) : List Char × List Char :=
  match Text.cutAtFirst ':' text with
  | (scheme, some rest) =>
    if scheme.isEmpty || (scheme.head?.any Text.isLetter && scheme.all isSchemeChar) then (scheme, rest) else ([], text)
  | (_, none) => ([], text)

/-- The parts of a text. -/
def writtenParts (text : List Char) : WrittenParts :=
  let (scheme, afterScheme) := cutScheme text
  let (authority, afterAuthority) : List Char × List Char :=
    match afterScheme with
    | '/' :: '/' :: rest => (rest.takeWhile fun c => !endsAuthority c, rest.dropWhile fun c => !endsAuthority c)
    | _ => ([], afterScheme)
  let (beforeFragment, fragment) := Text.cutAtFirst '#' afterAuthority
  let (path, query) := Text.cutAtFirst '?' beforeFragment
  ⟨scheme, authority, path, query, fragment⟩

/-- User, host and port as they are written. -/
structure WrittenAuthority where
  user : List Char
  host : List Char
  port : List Char

/-- A host in brackets up to the last closing one, and what follows. -/
def bracketedHost? (text : List Char) : Option (List Char × List Char) :=
  let after := (text.reverse.takeWhile (· != ']')).reverse
  if text.head? == some '[' && text.contains ']' then some (text.take (text.length - after.length), after) else none

/-- The parts of an authority: the user before the last `@`, the host in brackets or up to a colon, the port. -/
def writtenAuthority (text : List Char) : WrittenAuthority :=
  let hostAndPort := Text.afterLast '@' text
  let user := text.take (text.length - hostAndPort.length - 1)
  let (host, after) :=
    (bracketedHost? hostAndPort).getD (hostAndPort.takeWhile (· != ':'), hostAndPort.dropWhile (· != ':'))
  ⟨user, host, if after.head? == some ':' then after.drop 1 else after⟩

/-! ## Checks and normal forms -/

/-- An address that is refused. -/
def refused {α : Type} (message : String) : Fallible α := .error (.badAddress message)

/-- The longest address that is accepted. -/
def longest : Nat := 65536

/-- Whether a character is a control character of ASCII. -/
def isControl (c : Char) : Bool := c.toNat < 32 || c.toNat == 127

/-- Four runs of digits with one character between neighbours. -/
def looksLikeOctets : Pattern :=
  let digits := Pattern.many Text.isDigit 1
  let any := Pattern.one fun c => c != '\n'
  .sequence [digits, any, digits, any, digits, any, digits, .textEnd]

/-- Characters that may stand in the name of a host. -/
def mayStandInHost (c : Char) : Bool := isUnreserved c || "!$&'()*+,;=\"\x60\x7b\x7d%|\\".toList.contains c

/-- A host in its normal form. -/
def normalHost (host : List Char) : Fallible (List Char) :=
  let display := displayQuoted (String.ofList host)
  if host.isEmpty then .ok []
  else if (looksLikeOctets.matchAt none 0 host).isSome then
    if isFourOctets host then .ok host else refused ("Invalid IPv4 address: " ++ display)
  else if host.head? == some '[' && host.getLast? == some ']' && host.length ≥ 2 then
    let inside := (host.drop 1).dropLast
    if isZonedGroups inside then .ok inside else refused ("Invalid IPv6 address: " ++ display)
  else if host.all (·.toNat < 128) then .ok (encodePart mayStandInHost (Text.lower host))
  else
    match Unicode.asciiHost? (Text.lower host) with
    | some ascii => .ok ascii
    | none => refused ("Invalid IDNA hostname: " ++ display)

/-- The ports that schemes stand for. -/
def standardPorts : List (String × Int) := [("ftp", 21), ("http", 80), ("https", 443), ("ws", 80), ("wss", 443)]

/-- The value of a decimal digit of any script. -/
def digitValue (c : Char) : Nat := if Text.isDigit c then c.toNat - 48 else (Text.decimalValue? c).getD 0

/-- Digits in which single underscores may stand between two digits. -/
def portDigits? : List Char → Option (List Char)
  | [] => none
  | [c] => if Text.isDecimal c then some [c] else none
  | c :: '_' :: rest => if Text.isDecimal c then (portDigits? rest).map (c :: ·) else none
  | c :: rest => if Text.isDecimal c then (portDigits? rest).map (c :: ·) else none

/-- The number that a port is written as: a sign, at most 4300 digits, and blanks around them. -/
def portNumber? (port : List Char) : Option Int :=
  let (negative, unsigned) :=
    match Text.trim port with
    | '-' :: rest => (true, rest)
    | '+' :: rest => (false, rest)
    | rest => (false, rest)
  (portDigits? unsigned).bind fun digits =>
    if digits.length > 4300 then none
    else
      let size : Nat := digits.foldl (fun n c => n * 10 + digitValue c) 0
      some (if negative then -size else size)

/-- A port in its normal form: left out when it is empty or the one of the scheme. -/
def normalPort (scheme port : List Char) : Fallible (Option Int) :=
  if port.isEmpty then .ok none
  else
    match portNumber? port with
    | none => refused ("Invalid port: " ++ displayQuoted (String.ofList port))
    | some number => .ok (if standardPorts.lookup (String.ofList scheme) == some number then none else some number)

/-- Drop steps to the same place and resolve steps upwards; `done` holds the steps so far, latest first. -/
def resolveSteps (done : List (List Char)) : List (List Char) → List (List Char)
  | [] => done.reverse
  | step :: steps =>
    if step == ['.'] then resolveSteps done steps
    else if step == ['.', '.'] then
      resolveSteps (if done.isEmpty || done == [[]] then done else done.drop 1) steps
    else resolveSteps (step :: done) steps

/-- A path without steps to the same place and upwards. -/
def normalPath (path : List Char) : List Char :=
  let steps := Text.splitAtChar '/' path
  if steps.any fun step => step == ['.'] || step == ['.', '.'] then
    List.intercalate ['/'] (resolveSteps [] steps)
  else path

/-- Characters that may not stand in a user, in a path, in a query, and in a fragment. -/
def userExclusions : String := "\"#<>?\x60\x7b\x7d/;=@[\\]^|"
@[inherit_doc userExclusions]
def pathExclusions : String := "\"#<>?\x60\x7b\x7d"
@[inherit_doc userExclusions]
def queryExclusions : String := "\"#<>"
@[inherit_doc userExclusions]
def fragmentExclusions : String := "\"<>\x60"

/-- A part of an address, encoded. -/
def encoded (excluded : String) (part : List Char) : String :=
  String.ofList (encodePart (isPlainExcept excluded) part)

/-- The address that written parts stand for. -/
def ofParts (parts : WrittenParts) : Fallible Address := do
  let authority := writtenAuthority parts.authority
  let host ← normalHost authority.host
  let port ← normalPort parts.scheme authority.port
  let user := encoded userExclusions authority.user
  let hasAuthority := !user.isEmpty || !host.isEmpty || port.isSome
  if hasAuthority && !parts.path.isEmpty && parts.path.head? != some '/' then
    refused "For absolute URLs, path must be empty or begin with '/'"
  else if parts.scheme.isEmpty && !hasAuthority && ['/', '/'].isPrefixOf parts.path then
    refused "Relative URLs cannot have a path starting with '//'"
  else if parts.scheme.isEmpty && !hasAuthority && parts.path.head? == some ':' then
    refused "Relative URLs cannot have a path starting with ':'"
  else
    let path := if parts.scheme.isEmpty && !hasAuthority then parts.path else normalPath parts.path
    pure
      { scheme := String.ofList (Text.lower parts.scheme)
        user := user
        host := String.ofList host
        port := port
        path := encoded pathExclusions path
        query := parts.query.map (encoded queryExclusions)
        fragment := parts.fragment.map (encoded fragmentExclusions) }

/-- The address that a text stands for, whether or not it names a host. -/
def ofWritten (text : List Char) : Fallible Address :=
  if text.length > longest then refused "URL too long"
  else
    match text.findIdx? isControl with
    | some index =>
      let shown := displayQuoted (String.ofList ((text.drop index).take 1))
      refused ("Invalid non-printable ASCII character in URL, " ++ shown ++ " at position " ++ toString index ++ ".")
    | none => ofParts (writtenParts text)

/-- The address of parts that are put together, none of which may be longer than an address. -/
def ofSizedParts (parts : WrittenParts) : Fallible Address :=
  let named := [("scheme", some parts.scheme), ("authority", some parts.authority), ("path", some parts.path),
    ("query", parts.query), ("fragment", parts.fragment)]
  match named.find? fun part => part.2.any fun written => longest < written.length with
  | some (name, _) => refused ("URL component '" ++ name ++ "' too long")
  | none => ofParts parts

/-- An address without a host as a path from the root. -/
def fromRoot (address : Address) : Fallible Address :=
  if address.isAbsolute then .ok address
  else
    ofSizedParts ⟨[], [], '/' :: address.path.toList.dropWhile (· == '/'), address.query.map String.toList, none⟩

/-- The address that a request goes to. -/
def ofText (text : String) : Fallible Address := do
  let address ← ofWritten text.toList
  address.fromRoot

/-- The address with a query of one name and value instead of its own. -/
def withQuery (address : Address) (name value : String) : Fallible Address :=
  ofSizedParts ⟨address.scheme.toList, address.authority.toList, address.path.toList,
    some (encodeFormValue name.toList ++ '=' :: encodeFormValue value.toList), address.fragment.map String.toList⟩

end Address

end Showcase
