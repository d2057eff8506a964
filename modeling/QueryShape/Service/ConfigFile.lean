import QueryShape.Error
import QueryShape.Service.Config
import QueryShape.Toml.Document

/-!
# Configuration files

A configuration is a TOML document.  Its parts are tables, in which other entries are
skipped, or arrays of their fields in order; what is missing has its default.  A file
that cannot be read or is no configuration is replaced by the defaults as a whole.
-/

namespace QueryShape

namespace Toml

def text? : Toml → Option String
  | .text s => some s
  | _ => none

def natural? : Toml → Option Nat
  | .integer i => if 0 ≤ i then some i.toNat else none
  | _ => none

/-- The values of fixed fields, where there are any.  A date has other fields only. -/
def fields? (names : List String) : Toml → Option (List (Option Toml))
  | .table _ entries => some (names.map fun name => Fields.get? entries name)
  | .array items | .tables items =>
    some ((items.take names.length).map some ++ List.replicate (names.length - items.length) none)
  | .date => some (names.map fun _ => none)
  | _ => none

/-- Reads a value that may be missing. -/
def optional {α : Type} (read : Toml → Option α) (default : α) : Option Toml → Option α
  | none => some default
  | some value => read value

end Toml

def ParameterNames.ofToml? (value : Toml) : Option ParameterNames :=
  match value.fields? ["columns", "filters", "relationships"] with
  | some [columns, filters, relationships] => do
    let default : ParameterNames := {}
    return {
      columns := ← Toml.optional Toml.text? default.columns columns
      filters := ← Toml.optional Toml.text? default.filters filters
      relationships := ← Toml.optional Toml.text? default.relationships relationships }
  | _ => none

def maxDepthOfToml? (value : Toml) : Option Nat :=
  match value.fields? ["max_depth"] with
  | some [maxDepth] => Toml.optional Toml.natural? defaultMaxDepth maxDepth
  | _ => none

namespace Config

def ofEntries? (root : TomlEntries) : Option Config := do
  return {
    names := ← Toml.optional ParameterNames.ofToml? {} (root.get? "param_names")
    maxDepth := ← Toml.optional maxDepthOfToml? defaultMaxDepth (root.get? "limits") }

/-- Reads the text of a configuration file; there is none of a file that cannot be read. -/
def ofFile (text : Option String) : Except Error Config :=
  match text with
  | none => .error .unreadableFile
  | some text =>
    match Toml.ofChars? text.toList >>= ofEntries? with
    | some config => .ok config
    | none => .error .invalidConfig

/-- The configuration of a file, or the defaults. -/
def load (text : Option String) : Config :=
  match ofFile text with
  | .ok config => config
  | .error _ => {}

/-- The text of a configuration file with the defaults. -/
def defaultFile : String :=
  "# api-helper 配置\n\n" ++
  "# 携带整形指令的请求参数名\n" ++
  "[param_names]\n" ++
  "columns = \"_columns\"\n" ++
  "filters = \"_filters\"\n" ++
  "relationships = \"_relationships\"\n\n" ++
  "[limits]\n" ++
  "# 过滤分组和关联的最大嵌套层数\n" ++
  "max_depth = 16\n"

end Config

end QueryShape
