import Showcase.Component.Basic
import Showcase.Failure
import Showcase.Json.Basic

/-!
# Answers

What the service answers: a status and a JSON body. A typed failure is answered with its own status and a body that says
what kind of failure it is. Any other failure is an internal error, whose message is told while developing only.
-/

namespace Showcase

/-! ## Records in JSON -/

/-- What is told about a typed failure. -/
def EngineError.payload (error : EngineError) : Json :=
  .ofMembers ([("success", .bool false), ("error", .ofString error.message), ("error_type", .ofString error.cause.name)]
    ++ match error.cause with
      | .invalidStructure errors warnings => [("errors", .ofStrings errors), ("warnings", .ofStrings warnings)]
      | _ => [])

/-- A step on a path: a name or a number. -/
def Step.toJson : Step → Json
  | member name => .str name
  | item index => .int index

/-- What is told about an issue, apart from the value that has it, which is repeated. -/
def Issue.toJson (issue : Issue) : Json :=
  .ofMembers [("type", .ofString issue.fault.name), ("loc", .arr (issue.path.map Step.toJson)),
    ("msg", .ofString issue.fault.message)]

/-- The value at the end of a path. -/
def Json.at? : Json → List Step → Option Json
  | value, [] => some value
  | .obj members, .member name :: path => (members.lookup name).bind fun value => value.at? path
  | .arr items, .item index :: path => items[index]?.bind fun value => value.at? path
  | _, _ => none

/-- The value that is repeated with an issue of a body: the one that has it, or the record that lacks a member. -/
def Issue.repeated (body : Option Json) (issue : Issue) : Json :=
  -- the first step leads to the body itself
  let path := issue.path.drop 1
  ((body.getD .null).at? (if issue.fault = .missing then path.dropLast else path)).getD .null

/-- A component as a JSON object. -/
def Component.toJson (component : Component) : Json :=
  .ofMembers [("name", .ofString component.name), ("category", .ofString component.category),
    ("description", .ofOption component.description), ("html", .ofString component.html),
    ("css", .ofString component.css), ("script", .ofOption component.script),
    ("variables", .ofBindings component.labels), ("thumbnail", .ofOption component.thumbnail),
    ("source_kind", .ofString component.layout.name)]

namespace Service

/-! ## Answers -/

/-- An answer of the service. -/
structure Answer where
  status : Int
  body : Json

namespace Answer

/-- An object as the answer to a request that could be served. -/
def ok (members : List (String × Json)) : Answer := ⟨200, .ofMembers members⟩

/-- The answer to a request that succeeded. -/
def success (members : List (String × Json)) : Answer := ok (("success", .bool true) :: members)

/-- A refusal with a message and whatever else there is to tell. -/
def refusal (status : Int) (message : String) (others : List (String × Json)) : Answer :=
  ⟨status, .ofMembers (("error", .ofString message) :: others)⟩

/-- A refusal that says nothing but why. -/
def detail (status : Int) (told : Json) : Answer := ⟨status, .ofMembers [("detail", told)]⟩

/-- The answer to a request without the credentials of an administrator. -/
def unauthorized : Answer := detail 401 (.ofString "Admin access required")

/-- The answer to a request for a path that does not exist. -/
def notFound : Answer := detail 404 (.ofString "Not Found")

/-- The answer to a request that a path does not take. -/
def methodNotAllowed : Answer := detail 405 (.ofString "Method Not Allowed")

/-- The answer to a failure. -/
def ofFailure (developing : Bool) : Failure → Answer
  | .engine error => ⟨error.status, error.payload⟩
  | failure =>
    refusal 500 "Internal server error" [("detail", if developing then .ofString failure.message else .null)]

/-- The answer that was found, or the answer to the failure. -/
def ofResult (developing : Bool) : Fallible Answer → Answer
  | .ok answer => answer
  | .error failure => ofFailure developing failure

/-- What keeps a value from being sent: a number that is not finite, else half of a surrogate pair. The place of the half is
left out. -/
def unsendable? (value : Json) : Option String :=
  if value.anyScalar Json.isUnbounded then some "Out of range float values are not JSON compliant"
  else if value.anyScalar Json.isHalved then some "'utf-8' codec can't encode characters: surrogates not allowed"
  else none

/-- An answer, or the answer to the failure to send what it tells. -/
def sending (developing : Bool) (told : Json) (answer : Answer) : Answer :=
  match unsendable? told with
  | some problem => ofFailure developing (.unusable (.encoding problem) told.kindName)
  | none => answer

/-- What is told about the issues of a body, each with the value that it repeats. -/
def report (body : Option Json) (issues : List Issue) : Json :=
  .arr (issues.map fun issue => .arr [issue.toJson, issue.repeated body])

/-- The answer to a body with issues. The values that are repeated are left out of it, but they have to be sent. -/
def ofIssues (developing : Bool) (body : Option Json) (issues : List Issue) : Answer :=
  sending developing (report body issues) (detail 422 (.arr (issues.map Issue.toJson)))

end Answer

end Service

end Showcase
