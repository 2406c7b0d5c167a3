/-!
# Escaping for HTML

A text that is put into markup has the characters of markup replaced by references, so that it is shown as it is, in
content as well as in a quoted attribute.
-/

namespace Showcase.Html

/-- A character as it stands in content or in a quoted attribute. -/
def escapeChar (c : Char) : List Char :=
  if c == '&' then "&amp;".toList
  else if c == '<' then "&lt;".toList
  else if c == '>' then "&gt;".toList
  else if c == '"' then "&quot;".toList
  else if c == '\'' then "&#x27;".toList
  else [c]

/-- A text as it stands in content or in a quoted attribute. -/
def escape (s : String) : String := String.ofList (s.toList.flatMap escapeChar)

end Showcase.Html
