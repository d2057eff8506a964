import QueryShape.Fields

/-!
# TOML values

A table remembers how it came to be, because that decides how it may be extended: by
its own header, as a step on the way of another header, by a dotted key, or in braces,
which closes it.  An array of tables is kept apart from an array in brackets.
-/

namespace QueryShape

inductive TomlTableOrigin where
  | header
  | path
  | dotted
  | braces
deriving DecidableEq

/-- Numbers with a point and dates are only told apart from other values. -/
inductive Toml where
  | text (value : String)
  | integer (value : Int)
  | float
  | bool (value : Bool)
  | date
  | array (items : List Toml)
  | tables (items : List Toml)
  | table (origin : TomlTableOrigin) (entries : List (String × Toml))

abbrev TomlEntries : Type := Fields Toml

end QueryShape
