/-!
# Identifiers

An identifier is a name or a name qualified by one other name.  A name starts with
an ASCII letter or an underscore and goes on with ASCII letters, digits and
underscores.  Rows are addressed by the last segment of a column only.
-/

namespace QueryShape

def isNameStart (c : Char) : Bool :=
  c.isAlpha || c == '_'

def isNamePart (c : Char) : Bool :=
  isNameStart c || c.isDigit

def isName : List Char → Bool
  | [] => false
  | c :: cs => isNameStart c && cs.all isNamePart

def isIdentifier (s : String) : Bool :=
  let head := s.toList.takeWhile (· != '.')
  match s.toList.dropWhile (· != '.') with
  | [] => isName head
  | _ :: tail => isName head && isName tail

/-- What follows the last dot of a column; the whole column if it has none. -/
def lastSegment (column : String) : String :=
  String.ofList (column.toList.reverse.takeWhile (· != '.')).reverse

end QueryShape
