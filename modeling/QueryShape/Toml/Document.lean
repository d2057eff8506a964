import QueryShape.Toml.Statement

/-!
# TOML documents

The assignments of a document fall into sections, each under the header before it; the
first section belongs to the root table.  The root table is the result of adding the
sections in order.
-/

namespace QueryShape

/-- A header, if it is not the first section, and the assignments under it. -/
structure TomlSection where
  header : Option TomlStatement
  assignments : List (TomlKey × Toml)

namespace TomlSection

/-- Splits statements into sections, from the last statement to the first. -/
def ofStatements : List TomlStatement → TomlSection × List TomlSection
  | [] => (⟨none, []⟩, [])
  | statement :: rest =>
    let (first, others) := ofStatements rest
    match statement with
    | .assign key value => ({ first with assignments := (key, value) :: first.assignments }, others)
    | header => (⟨none, []⟩, { first with header := some header } :: others)

def fill? (assignments : List (TomlKey × Toml)) (entries : TomlEntries) : Option TomlEntries :=
  assignments.foldlM (fun entries (assignment : TomlKey × Toml) =>
    TomlEntries.assign? true assignment.1 assignment.2 entries) entries

/-- Adds a section to the root table. -/
def add? (root : TomlEntries) (part : TomlSection) : Option TomlEntries :=
  let fill := fill? part.assignments
  match part.header with
  | some (.header path) => do
    root.along? (TomlEntries.section? (← path.getLast?) fill) path.dropLast
  | some (.arrayHeader path) => do
    root.along? (TomlEntries.arraySection? (← path.getLast?) fill) path.dropLast
  | _ => fill root

end TomlSection

namespace Toml

/-- The root table of a document. -/
def ofChars? (cs : List Char) : Option TomlEntries := do
  let statements ← TomlStatement.ofChars? cs
  let (first, others) := TomlSection.ofStatements statements
  (first :: others).foldlM TomlSection.add? []

end Toml

end QueryShape
