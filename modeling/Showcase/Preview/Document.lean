import Showcase.Html.Escape
import Showcase.Json.Writer
import Showcase.Number.Seconds
import Showcase.Preview.Bootstrap
import Showcase.Preview.Surface
import Showcase.Record.Field
import Showcase.Script.Component

/-!
# Runtime documents

The document that runs a component loads the runtime by reference and carries the component as data: its code, its name
and how patiently to wait for the runtime. Data inside a script are JSON without an opening angle bracket, so that they
end neither the script nor the document. The document of an error shows it in a panel and publishes it as well.
-/

namespace Showcase.Preview

/-! ## Data in a script -/

/-- JSON as it may stand in a script: angle brackets are escaped. -/
def scriptJson (value : Json) : String :=
  String.ofList (Text.replaceChar '<' (Json.unicodeEscape ('<').toNat) (value.write .spaced))

/-! ## Waiting -/

/-- How long to wait for the runtime: the time between two looks and how many looks. -/
structure Patience where
  interval : Seconds
  attempts : Int
deriving DecidableEq, Repr

/-- A tenth of a second between looks, fifty looks. -/
def Patience.standard : Patience := ⟨.fractional (.ofDecimal false 1 (-1)), 50⟩

/-! ## The document of a component -/

/-- The libraries of the runtime. -/
structure Libraries where
  react : String
  reactDom : String
  motion : String
  tailwind : String
  babel : String

/-- The libraries that are loaded by default. -/
def Libraries.standard : Libraries where
  react := "https://unpkg.com/react@18/umd/react.production.min.js"
  reactDom := "https://unpkg.com/react-dom@18/umd/react-dom.production.min.js"
  motion := "https://unpkg.com/framer-motion@11/dist/framer-motion.js"
  tailwind := "https://cdn.tailwindcss.com"
  babel := "https://unpkg.com/@babel/standalone/babel.min.js"

/-- What the script of a document is told about its component. Null stands for a time that is no number of milliseconds. -/
def payload (component : Script.Prepared) (patience : Patience) : Json :=
  .ofMembers [("name", .ofString component.name), ("code", .ofString component.code),
    ("pollInterval", (patience.interval.milliseconds?.map .int).getD .null), ("maxAttempts", .int patience.attempts)]

/-- The document that runs a component. With a time that is no number of milliseconds it is never made. -/
def runtimeDocument (libraries : Libraries) (component : Script.Prepared) (css : String) (patience : Patience) :
    String :=
  "<!DOCTYPE html>\n<html>\n<head>\n<meta charset=\"UTF-8\">\n"
    ++ "<meta name=\"viewport\" content=\"width=device-width, initial-scale=1.0\">\n"
    ++ "<script src=\"" ++ libraries.tailwind ++ "\"></script>\n"
    ++ "<script crossorigin src=\"" ++ libraries.react ++ "\"></script>\n"
    ++ "<script crossorigin src=\"" ++ libraries.reactDom ++ "\"></script>\n"
    ++ "<script src=\"" ++ libraries.motion ++ "\"></script>\n"
    ++ "<script src=\"" ++ libraries.babel ++ "\"></script>\n"
    ++ "<style>\n" ++ baseStyle ++ "\n" ++ panelStyle ++ "\n/* Custom CSS from component */\n" ++ css ++ "\n</style>\n"
    ++ "</head>\n<body>\n<div id=\"root\"></div>\n"
    ++ "<script type=\"application/json\" id=\"component-config\">" ++ scriptJson (payload component patience)
    ++ "</script>\n<script>" ++ bootstrapScript ++ "</script>\n</body>\n</html>\n"

/-- The document that runs a component, or the failure of a time that is no number of milliseconds. -/
def documentFor (libraries : Libraries) (component : Script.Prepared) (css : String) (patience : Patience) :
    Fallible String :=
  match patience.interval.milliseconds? with
  | some _ => .ok (runtimeDocument libraries component css patience)
  | none => .error (.unusable .counting patience.interval.unboundedName)

/-! ## Errors -/

/-- Why a preview failed. -/
inductive ErrorKind where
  | runtimeTimeout
  | componentNotFound
  | compileError
deriving DecidableEq, Repr

/-- The word for why a preview failed. -/
def ErrorKind.name : ErrorKind → String
  | runtimeTimeout => "runtime_timeout"
  | componentNotFound => "component_not_found"
  | compileError => "compile_error"

/-- The reasons by their words. -/
def errorKinds : List (String × ErrorKind) :=
  [ErrorKind.runtimeTimeout, .componentNotFound, .compileError].map fun kind => (kind.name, kind)

/-- What is told about a preview that failed. -/
structure PreviewError where
  kind : ErrorKind
  title : JsonString
  message : JsonString
  stack : Option JsonString
  excerpt : Option JsonString
deriving DecidableEq, Repr

namespace PreviewError

/-- An error as a JSON object. -/
def toJson (error : PreviewError) : Json :=
  .ofMembers [("kind", .ofString error.kind.name), ("title", .str error.title), ("message", .str error.message),
    ("stack", .ofNullable error.stack), ("excerpt", .ofNullable error.excerpt)]

/-- The error that the members of an object describe. -/
def ofMembers (members : List (JsonString × Json)) : Fallible PreviewError :=
  Fallible.ofChecked "PreviewError" <|
    Checked.record PreviewError.mk
      |>.field (Field.required members "kind" (Field.choice errorKinds))
      |>.field (Field.required members "title" Field.string)
      |>.field (Field.required members "message" Field.string)
      |>.field (Field.optional members "stack" Field.string)
      |>.field (Field.optional members "excerpt" Field.string)

end PreviewError

/-- A string in an element of the panel, unless it is empty. -/
def preformatted : Option JsonString → String
  | some s => if s.isEmpty then "" else "<pre>" ++ Html.escape s.shown ++ "</pre>"
  | none => ""

/-- The document that shows an error where the component would have appeared. -/
def errorDocument (error : PreviewError) : String :=
  let state := Json.ofMembers [("state", .ofString "errored"), ("error", error.toJson)]
  "<!DOCTYPE html>\n<html>\n<head>\n<meta charset=\"UTF-8\">\n<style>" ++ baseStyle ++ "\n" ++ panelStyle
    ++ "</style>\n</head>\n<body>\n<div id=\"root\"><div class=\"preview-error\"><h3>" ++ Html.escape error.title.shown
    ++ "</h3><p>" ++ Html.escape error.message.shown ++ "</p>" ++ preformatted error.excerpt ++ preformatted error.stack
    ++ "</div></div>\n<script>window." ++ stateGlobal ++ " = " ++ scriptJson state
    ++ ";</script>\n</body>\n</html>\n"

end Showcase.Preview
