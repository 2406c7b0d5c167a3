import Showcase.Failure
import Showcase.Script.Module

/-!
# The component of a script

The component to show is found by the way it is written: first a function or a constant with a function body whose name
begins with a capital, then any function with a body, then any constant that is an arrow function.
-/

namespace Showcase.Script

open Pattern

/-- A name that begins with a capital, captured. -/
def capitalName : Pattern := capture 1 (seq (one Text.isCapital) (many isNamePart 0))

/-- Any name, captured. -/
def anyName : Pattern := capture 1 identifier

/-- Parameters in parentheses. -/
def parameters : Pattern := sequence [char '(', many (· != ')') 0, char ')']

/-- An optional type. -/
def typeAnnotation : Pattern := optional (seq (char ':') (many (· != '=') 1))

/-- A function declaration with a body. -/
def functionNamed (name : Pattern) : Pattern :=
  sequence [literal "function", someBlanks, name, blanks, parameters, many (· != '{') 0, char '{']

/-- A constant with a function body, up to the brace that opens the body. -/
def constantWithBody : Pattern :=
  sequence [literal "const", someBlanks, capitalName, blanks, typeAnnotation, char '=', blanks,
    either (sequence [literal "function", wordEdge, many (· != '{') 0])
      (sequence [optional (seq (literal "async") blanks), parameters, many (fun c => c != '=' && c != '{') 0,
        literal "=>", blanks]),
    char '{']

/-- A constant that is an arrow function. -/
def arrowConstant : Pattern :=
  sequence [literal "const", someBlanks, anyName, blanks, typeAnnotation, char '=', blanks,
    optional (seq (literal "async") blanks), either parameters identifier, blanks, typeAnnotation, literal "=>"]

/-- The ways to write a component, the most common first. -/
def componentPatterns : List Pattern :=
  [either (functionNamed capitalName) constantWithBody, functionNamed anyName, arrowConstant]

/-- The name of the component in some code. -/
def componentName? (code : String) : Option String :=
  componentPatterns.findSome? fun pattern =>
    (pattern.find? code.toList).map fun found => String.ofList (found.captured 1)

/-- How much of a source an excerpt shows. -/
def excerptLength : Nat := 200

/-- The beginning of a source, with dots when something is left out. A negative length leaves out that many characters
at the end. -/
def excerpt (source : String) (length : Int) : String :=
  if source.length ≤ length then source
  else
    let shown := if length < 0 then source.length - length.natAbs else length.toNat
    String.ofList (source.toList.take shown) ++ "..."

/-- Code to run and the name of the component in it. -/
structure Prepared where
  name : String
  code : String
deriving DecidableEq, Repr

/-- A source without module syntax, and the component in it. -/
def prepare (source : String) : Fallible Prepared :=
  let code := withoutModuleSyntax source
  match componentName? code with
  | some name => .ok ⟨name, code⟩
  | none => fail (.notLocated (excerpt source excerptLength)) "Could not find component function"

end Showcase.Script
