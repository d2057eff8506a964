import QueryShape.Text.CaseFold

/-!
# Patterns

In a pattern `%` stands for any run of characters, `_` for one character, and every
other character for its case variants.  A pattern is matched against all suffixes of
a text at once, from its last character to its first: the row of a pattern says for
each suffix of the text whether the pattern matches it.  So the work is the product
of the two lengths.
-/

namespace QueryShape

/-- The row of the empty pattern, which matches the empty suffix only. -/
def emptyRow : List Char → List Bool
  | [] => [true]
  | _ :: text => false :: emptyRow text

/-- The row with a run of characters in front: some suffix of the suffix is matched. -/
def anyRunRow : List Bool → List Bool
  | [] => []
  | here :: later =>
    let row := anyRunRow later
    (here || row.headD false) :: row

/-- The row with one character in front that passes a test. -/
def oneCharRow (test : Char → Bool) : List Char → List Bool → List Bool
  | c :: text, _ :: later => (test c && later.headD false) :: oneCharRow test text later
  | _, _ => [false]

def patternRow (text : List Char) : List Char → List Bool
  | [] => emptyRow text
  | '%' :: pattern => anyRunRow (patternRow text pattern)
  | '_' :: pattern => oneCharRow (fun _ => true) text (patternRow text pattern)
  | p :: pattern => oneCharRow (fun c => c == p) text (patternRow text pattern)

/-- Whether a pattern matches the whole of a text, up to case. -/
def like (text pattern : String) : Bool :=
  (patternRow (text.toList.map foldCase) (pattern.toList.map foldCase)).headD false

end QueryShape
