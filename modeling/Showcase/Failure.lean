import Showcase.Record.Issue
import Showcase.Text.Basic

/-!
# Failures

Two kinds of failure are kept apart. A typed failure is one that a caller can act on: it has a cause, a message for
people and an HTTP status. Every other failure is the fault of a value that does not have the shape an operation needs,
of an address that cannot be used, or of a surface that cannot be written.
-/

namespace Showcase

/-! ## Typed failures -/

/-- Why the pipeline gave up. -/
inductive Cause where
  /-- No particular reason. -/
  | general
  /-- The repository or the path does not exist. -/
  | notFound
  /-- The remote host refused the request. -/
  | rateLimited
  /-- The remote host failed; the status it answered with, if it answered. -/
  | transport (status : Option Int)
  /-- The content is not on a trusted host. -/
  | untrusted
  /-- The server lacks a token. -/
  | missingCredential
  /-- The listing lacks required files. -/
  | invalidStructure (errors warnings : List String)
  /-- No component could be made of a valid structure. -/
  | parse
  /-- The source has no component function; the beginning of the source. -/
  | notLocated (excerpt : String)
deriving DecidableEq, Repr

/-- The short name of a cause. -/
def Cause.name : Cause → String
  | general => "component_engine_error"
  | notFound => "not_found"
  | rateLimited => "rate_limited"
  | transport _ => "transport_error"
  | untrusted => "untrusted_url"
  | missingCredential => "missing_credential"
  | invalidStructure _ _ => "structural_invalid"
  | parse => "parse_failure"
  | notLocated _ => "component_not_found"

/-- The HTTP status that reports a cause. A transport failure passes the status on that the remote host answered. -/
def Cause.status : Cause → Int
  | general => 500
  | notFound => 404
  | rateLimited => 403
  | transport status =>
    match status with
    | some answered => if answered = 0 then 502 else answered
    | none => 502
  | untrusted => 400
  | missingCredential => 500
  | invalidStructure _ _ => 422
  | parse => 422
  | notLocated _ => 422

/-- A failure that a caller can act on. -/
structure EngineError where
  cause : Cause
  message : String
  /-- A status to report instead of the one of the cause. -/
  givenStatus : Option Int
deriving DecidableEq, Repr

namespace EngineError

/-- A typed failure reported with the status of its cause. -/
def of (cause : Cause) (message : String) : EngineError := ⟨cause, message, none⟩

/-- A listing without the required files; the message names all that is missing. -/
def invalidStructure (errors warnings : List String) : EngineError :=
  let joined := "; ".intercalate errors
  of (.invalidStructure errors warnings) (if joined.isEmpty then "Invalid component structure" else joined)

/-- The HTTP status of a failure. -/
def status (error : EngineError) : Int := error.givenStatus.getD error.cause.status

end EngineError

/-! ## Other failures -/

/-- What a value is used for. -/
inductive Use where
  | iteration
  | scanning
  | joining (index : Nat)
  | spreading
  | lookup
  | counting
  | decoding (problem : String)
  | encoding (problem : String)
deriving DecidableEq, Repr

/-- Anything that can go wrong. -/
inductive Failure where
  /-- A typed failure. -/
  | engine (error : EngineError)
  /-- A record with issues. -/
  | invalidRecord (record : String) (issues : List Issue)
  /-- A table without the entry looked for. -/
  | unknownKey (key : String)
  /-- A value of a kind that lacks what is asked of it. -/
  | noMember (kind name : String)
  /-- A value of a kind that cannot be used so. -/
  | unusable (use : Use) (kind : String)
  /-- A listing was asked for without owner or repository. -/
  | ownerAndRepoRequired
  /-- An address that no request can be sent to. -/
  | badAddress (message : String)
  /-- A run of characters that a request header cannot carry: the first of them and the places of the first and last. -/
  | badHeader (character : Char) (first last : Nat)
  /-- A configuration that must not start. -/
  | badConfiguration (problems : List String)
  /-- A surface that cannot be written at all. -/
  | unwritable
  /-- A surface that was taken away. -/
  | detached
  /-- Markup that cannot be taken apart. -/
  | rejectedMarkup (message : String)
deriving DecidableEq, Repr

/-- What is said about a value that cannot be used so. -/
def Use.message (kind : String) : Use → String
  | iteration => "'" ++ kind ++ "' object is not iterable"
  | scanning => "expected string or bytes-like object, got '" ++ kind ++ "'"
  | joining index => "sequence item " ++ toString index ++ ": expected str instance, " ++ kind ++ " found"
  | spreading => "argument after ** must be a mapping, not " ++ kind
  | lookup => "unhashable type: '" ++ kind ++ "'"
  | counting => "cannot convert float " ++ kind ++ " to integer"
  | decoding problem => problem
  | encoding problem => problem

/-- The place of a value, its steps joined by points. -/
def pathText (path : List Step) : String :=
  ".".intercalate (path.map fun
    | .member name => name.shown
    | .item index => toString index)

/-- One line for the place and one for the fault. -/
def Issue.lines (issue : Issue) : String :=
  pathText issue.path ++ "\n  " ++ issue.fault.message ++ " [type=" ++ issue.fault.name ++ "]"

/-- The escape of a character in a header: two, four or eight hexadecimal digits. -/
def headerEscape (c : Char) : String :=
  String.ofList <|
    if c.toNat < 0x100 then '\\' :: 'x' :: Text.hexDigits 2 c.toNat
    else if c.toNat < 0x10000 then '\\' :: 'u' :: Text.hexDigits 4 c.toNat
    else '\\' :: 'U' :: Text.hexDigits 8 c.toNat

/-- A failure told in words. -/
def Failure.message : Failure → String
  | engine error => error.message
  | invalidRecord record issues =>
    toString issues.length ++ (if issues.length = 1 then " validation error for " else " validation errors for ")
      ++ record ++ "\n" ++ "\n".intercalate (issues.map Issue.lines)
  | unknownKey key => displayQuoted key
  | noMember kind name => "'" ++ kind ++ "' object has no attribute '" ++ name ++ "'"
  | unusable use kind => use.message kind
  | ownerAndRepoRequired => "owner and repo are required"
  | badAddress message => message
  | badHeader character first last =>
    "'ascii' codec can't encode character"
      ++ (if first = last then " '" ++ headerEscape character ++ "' in position " ++ toString first
        else "s in position " ++ toString first ++ "-" ++ toString last)
      ++ ": ordinal not in range(128)"
  | badConfiguration problems => "Missing required configuration: " ++ ", ".intercalate problems
  | unwritable => ""
  | detached => "surface detached"
  | rejectedMarkup message => message

/-- A computation that may fail. -/
abbrev Fallible (α : Type) := Except Failure α

/-- A typed failure as the result of a computation. -/
def fail {α : Type} (cause : Cause) (message : String) : Fallible α := .error (.engine (.of cause message))

/-- A record that was read, or the failure that it has issues. -/
def Fallible.ofChecked {α : Type} (record : String) : Except (List Issue) α → Fallible α
  | .ok value => .ok value
  | .error issues => .error (.invalidRecord record issues)

end Showcase
