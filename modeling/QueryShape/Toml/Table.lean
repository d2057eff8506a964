import QueryShape.Toml.Value

/-!
# Extending TOML tables

Names may be given once.  A dotted key makes the tables on its way and may extend
tables that dotted keys made; it passes through tables that headers have on their way
but cannot add to them.  A header passes through tables of every origin but braces and
through the last table of an array of tables.
-/

namespace QueryShape

abbrev TomlKey : Type := List String

/-- Changes the last table of an array of tables. -/
def TomlEntries.inLast? (change : TomlEntries → Option TomlEntries) (items : List Toml) :
    Option (List Toml) :=
  match items.getLast? with
  | some (.table origin entries) => do
    some (items.dropLast ++ [.table origin (← change entries)])
  | _ => none

namespace TomlEntries

/-- Adds a value under a dotted key, at once only to entries that may be extended. -/
def assign? (extensible : Bool) : TomlKey → Toml → TomlEntries → Option TomlEntries
  | [], _, _ => none
  | [name], value, entries =>
    match entries.get? name with
    | none => if extensible then some (entries.put name value) else none
    | some _ => none
  | name :: key, value, entries =>
    match entries.get? name with
    | none => do
      some (entries.put name (.table .dotted (← assign? true key value [])))
    | some (.table .dotted inner) => do
      some (entries.put name (.table .dotted (← assign? true key value inner)))
    | some (.table .path inner) => do
      some (entries.put name (.table .path (← assign? false key value inner)))
    | some (.tables items) => do
      some (entries.put name (.tables (← inLast? (assign? false key value) items)))
    | some _ => none

/-- Changes the entries at the end of a path of tables, making those that are not there. -/
def along? (change : TomlEntries → Option TomlEntries) : TomlKey → TomlEntries → Option TomlEntries
  | [], entries => change entries
  | name :: path, entries =>
    match entries.get? name with
    | none => do some (entries.put name (.table .path (← along? change path [])))
    | some (.table .braces _) => none
    | some (.table origin inner) => do
      some (entries.put name (.table origin (← along? change path inner)))
    | some (.tables items) => do
      some (entries.put name (.tables (← inLast? (along? change path) items)))
    | some _ => none

/-- Adds the assignments under a header, which may only reopen a table that was on a path. -/
def section? (name : String) (fill : TomlEntries → Option TomlEntries) (entries : TomlEntries) :
    Option TomlEntries :=
  match entries.get? name with
  | none => do some (entries.put name (.table .header (← fill [])))
  | some (.table .path inner) => do some (entries.put name (.table .header (← fill inner)))
  | some _ => none

/-- Adds the assignments under an array header as a new table of the array. -/
def arraySection? (name : String) (fill : TomlEntries → Option TomlEntries)
    (entries : TomlEntries) : Option TomlEntries :=
  match entries.get? name with
  | none => do some (entries.put name (.tables [.table .header (← fill [])]))
  | some (.tables items) => do
    some (entries.put name (.tables (items ++ [.table .header (← fill [])])))
  | some _ => none

end TomlEntries

end QueryShape
