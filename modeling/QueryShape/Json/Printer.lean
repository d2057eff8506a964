import QueryShape.Decimal.Layout
import QueryShape.Json.Basic
import QueryShape.Text.Quoted

/-!
# JSON texts

A value has a compact text without spaces and an indented text with two spaces a
level.  In strings only quotes, backslashes and control characters are escaped.
-/

namespace QueryShape

/-- Binary64 numbers are positional from `1e-5` up to below `1e16`. -/
def jsonDecimals : DecimalLayout :=
  ⟨-5, 15, "e"⟩

def intText (i : Int) : String :=
  (if i < 0 then "-" else "") ++ String.ofList (decimalDigits i.natAbs)

def JsonNumber.render : JsonNumber → String
  | .int i => intText i
  | .float x => jsonDecimals.text x

namespace Json

def controlEscape (c : Char) : String :=
  let digits := hexText c.toNat
  "\\u" ++ zeros (4 - digits.length) ++ digits

def escapedChar (c : Char) : String :=
  match c with
  | '"' => "\\\""
  | '\\' => "\\\\"
  | '\x08' => "\\b"
  | '\t' => "\\t"
  | '\n' => "\\n"
  | '\x0c' => "\\f"
  | '\r' => "\\r"
  | c => if c.toNat < 0x20 then controlEscape c else c.toString

def stringText (s : String) : String :=
  "\"" ++ String.join (s.toList.map escapedChar) ++ "\""

mutual

/-- The compact text. -/
def render : Json → String
  | .null => "null"
  | .bool b => if b then "true" else "false"
  | .number n => n.render
  | .text s => stringText s
  | .array items => "[" ++ ",".intercalate (itemTexts items) ++ "]"
  | .object fields => "\x7b" ++ ",".intercalate (fieldTexts fields) ++ "\x7d"

def itemTexts : List Json → List String
  | [] => []
  | item :: rest => item.render :: itemTexts rest

def fieldTexts : List (String × Json) → List String
  | [] => []
  | (name, value) :: rest => (stringText name ++ ":" ++ value.render) :: fieldTexts rest

end

/-- Puts parts on lines of their own between an opening and a closing mark; without parts the marks
stand together. -/
def onLines (level : Nat) (opening closing : String) (parts : List String) : String :=
  let margin (n : Nat) := String.ofList (List.replicate (2 * n) ' ')
  if parts.isEmpty then opening ++ closing
  else
    opening ++ "\n" ++ ",\n".intercalate (parts.map (margin (level + 1) ++ ·)) ++ "\n" ++
      margin level ++ closing

mutual

/-- The indented text of a value at a level. -/
def renderIndented (level : Nat) : Json → String
  | .null => "null"
  | .bool b => if b then "true" else "false"
  | .number n => n.render
  | .text s => stringText s
  | .array items => onLines level "[" "]" (indentedItems (level + 1) items)
  | .object fields => onLines level "\x7b" "\x7d" (indentedFields (level + 1) fields)

def indentedItems (level : Nat) : List Json → List String
  | [] => []
  | item :: rest => renderIndented level item :: indentedItems level rest

def indentedFields (level : Nat) : List (String × Json) → List String
  | [] => []
  | (name, value) :: rest =>
    (stringText name ++ ": " ++ renderIndented level value) :: indentedFields level rest

end

end Json

end QueryShape
