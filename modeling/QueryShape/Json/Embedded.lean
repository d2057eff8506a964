import QueryShape.Json.Reader
import QueryShape.Text.Blank

/-!
# Values written inside strings

A query string carries structured values as texts.  A string whose first character
after leading blanks opens an array or an object stands for the value that it
spells, if it spells one.
-/

namespace QueryShape

namespace Json

def opensStructure : List Char → Bool
  | '[' :: _ => true
  | '\x7b' :: _ => true
  | _ => false

def embedded? (s : String) : Option Json :=
  let text := trimStart s.toList
  if opensStructure text then ofChars? text else none

/-- The names in an array, other items being skipped; null stands for no names. -/
def names? : Json → Option (List String)
  | .null => some []
  | .array items => some (items.filterMap text?)
  | _ => none

/-- The value of a name in an object; null if the name is not there. -/
def field (fields : List (String × Json)) (name : String) : Json :=
  (Fields.get? fields name).getD .null

end Json

end QueryShape
