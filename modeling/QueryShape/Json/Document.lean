import QueryShape.Json.Basic

/-!
# JSON documents

A document is a JSON text after its structure has been read, before its parts are
required to be values: a string may hold half of a surrogate pair, a numeral may
exceed every number, and an object may repeat a name.  `Document.value?` asks for
all of these at once, and for bounded nesting.
-/

namespace QueryShape

/-- Strings and numerals without a value are `none`. -/
inductive Document where
  | null
  | bool (value : Bool)
  | number (value : Option JsonNumber)
  | text (value : Option String)
  | array (items : List Document)
  | object (fields : List (Option String × Document))

namespace Document

mutual

/-- The value of a document with at most `room` nested arrays and objects. -/
def value? : Nat → Document → Option Json
  | _, .null => some .null
  | _, .bool b => some (.bool b)
  | _, .number n => n.map .number
  | _, .text s => s.map .text
  | 0, .array _ => none
  | room + 1, .array items => (itemValues? room items).map .array
  | 0, .object _ => none
  | room + 1, .object fields =>
    (fieldValues? room fields).map fun entries => .object (Fields.ofEntries entries)

def itemValues? : Nat → List Document → Option (List Json)
  | _, [] => some []
  | room, item :: rest => do
    let value ← value? room item
    let values ← itemValues? room rest
    some (value :: values)

def fieldValues? : Nat → List (Option String × Document) → Option (List (String × Json))
  | _, [] => some []
  | room, (name, value) :: rest => do
    let name ← name
    let value ← value? room value
    let values ← fieldValues? room rest
    some ((name, value) :: values)

end

mutual

/-- A value as the document that stands for it. -/
def ofValue : Json → Document
  | .null => .null
  | .bool b => .bool b
  | .number n => .number (some n)
  | .text s => .text (some s)
  | .array items => .array (ofItems items)
  | .object fields => .object (ofFields fields)

def ofItems : List Json → List Document
  | [] => []
  | item :: rest => ofValue item :: ofItems rest

def ofFields : List (String × Json) → List (Option String × Document)
  | [] => []
  | (name, value) :: rest => (some name, ofValue value) :: ofFields rest

end

end Document

end QueryShape
