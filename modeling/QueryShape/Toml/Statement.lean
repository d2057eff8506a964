import QueryShape.Toml.Number
import QueryShape.Toml.Table
import QueryShape.Toml.Text

/-!
# TOML statements

A document is a sequence of lines: headers, array headers and assignments, with blank
lines and comments between them.  Arrays may go over several lines and tables in
braces may not; both nest within a fixed bound.  Reading stops at the first fault.
-/

namespace QueryShape

inductive TomlStatement where
  | header (path : TomlKey)
  | arrayHeader (path : TomlKey)
  | assign (key : TomlKey) (value : Toml)

namespace TomlStatement

open TomlText

/-- The exclusive bound on the nesting of arrays and braces and on the segments of a key. -/
def nestingBound : Nat := 80

def isBareKeyChar (c : Char) : Bool :=
  c.isAlphanum || c == '_' || c == '-'

def keySegment? (cs : List Char) : Option (String × List Char) :=
  match cs with
  | q :: _ =>
    if isQuote q then simple? cs
    else
      let word := cs.takeWhile isBareKeyChar
      if word.isEmpty then none
      else some (String.ofList word, cs.dropWhile isBareKeyChar)
  | [] => none

/-- Reads segments with dots between them; `fuel` counts the segments that may follow. -/
def keyWithin? : Nat → List Char → Option (TomlKey × List Char)
  | 0, _ => none
  | fuel + 1, cs => do
    let (segment, cs) ← keySegment? (skipSpaces cs)
    match skipSpaces cs with
    | '.' :: rest =>
      let (key, rest) ← keyWithin? fuel rest
      some (segment :: key, rest)
    | rest => some ([segment], rest)

def key? (cs : List Char) : Option (TomlKey × List Char) :=
  keyWithin? (nestingBound - 1) cs

def comment (cs : List Char) : List Char :=
  match cs with
  | '#' :: rest => rest.dropWhile isPlain
  | cs => cs

/-- What follows the end of a line, after blanks and a comment. -/
def endOfLine? (cs : List Char) : Option (List Char) :=
  match comment (skipSpaces cs) with
  | [] => some []
  | rest => lineBreak? rest

/-- Skips blanks, line breaks and comments; `fuel` counts the lines that may follow. -/
def skipBetween : Nat → List Char → List Char
  | 0, cs => cs
  | fuel + 1, cs =>
    let rest := comment (skipLines cs)
    match lineBreak? rest with
    | some next => skipBetween fuel next
    | none => rest

def isWordChar (c : Char) : Bool :=
  c.isAlphanum || c == '_' || c == '+' || c == '-' || c == '.' || c == ':'

/-- Whether a text goes on with a time after a blank. -/
def timeFollows : List Char → Bool
  | ' ' :: a :: b :: ':' :: _ => a.isDigit && b.isDigit
  | _ => false

/-- The characters of a truth value, a number or a date, and what follows them. -/
def splitWord (cs : List Char) : List Char × List Char :=
  let word := cs.takeWhile isWordChar
  let rest := cs.dropWhile isWordChar
  if (TomlDate.date? word).any List.isEmpty && timeFollows rest then
    (word ++ ' ' :: (rest.drop 1).takeWhile isWordChar, (rest.drop 1).dropWhile isWordChar)
  else (word, rest)

def ofWord? (word : List Char) : Option Toml :=
  if word = "true".toList then some (.bool true)
  else if word = "false".toList then some (.bool false)
  else if TomlDate.isDate word then some .date
  else if TomlNumber.isFloat word then some .float
  else (TomlNumber.integer? word).map .integer

def scalar? (cs : List Char) : Option (Toml × List Char) :=
  match cs with
  | [] => none
  | q :: _ =>
    if isQuote q then do
      let (s, rest) ← read? cs
      some (.text s, rest)
    else do
      let (word, rest) := splitWord cs
      some (← ofWord? word, rest)

abbrev ValueReader : Type := List Char → Option (Toml × List Char)

/-- Reads the items of an array up to its closing bracket. -/
def arrayItems? (value : ValueReader) : Nat → List Char → Option (List Toml × List Char)
  | 0, _ => none
  | fuel + 1, cs =>
    match skipBetween cs.length cs with
    | ']' :: rest => some ([], rest)
    | cs => do
      let (item, cs) ← value cs
      match skipBetween cs.length cs with
      | ',' :: rest =>
        let (items, rest) ← arrayItems? value fuel rest
        some (item :: items, rest)
      | ']' :: rest => some ([item], rest)
      | _ => none

/-- Reads the assignments in braces up to the closing one. -/
def members? (value : ValueReader) : Nat → List Char → Option (List (TomlKey × Toml) × List Char)
  | 0, _ => none
  | fuel + 1, cs => do
    let (key, cs) ← key? cs
    match cs with
    | '=' :: cs =>
      let (item, cs) ← value (skipSpaces cs)
      match skipSpaces cs with
      | ',' :: rest =>
        let (members, rest) ← members? value fuel rest
        some ((key, item) :: members, rest)
      | '\x7d' :: rest => some ([(key, item)], rest)
      | _ => none
    | _ => none

def braces? (members : List (TomlKey × Toml)) : Option Toml :=
  (members.foldlM (fun entries member =>
      TomlEntries.assign? true member.1 member.2 entries) []).map (.table .braces)

/-- Reads a value with at most `room` nested arrays and tables in braces. -/
def valueWithin? : Nat → ValueReader
  | 0, cs =>
    match cs with
    | '[' :: _ | '\x7b' :: _ => none
    | cs => scalar? cs
  | room + 1, cs =>
    match cs with
    | '[' :: cs => do
      let (items, rest) ← arrayItems? (valueWithin? room) (cs.length + 1) cs
      some (.array items, rest)
    | '\x7b' :: cs =>
      match skipSpaces cs with
      | '\x7d' :: rest => some (.table .braces [], rest)
      | cs => do
        let (members, rest) ← members? (valueWithin? room) (cs.length + 1) cs
        some (← braces? members, rest)
    | cs => scalar? cs

/-- Reads the statement at the start of a text; a line without a statement gives none. -/
def read? (cs : List Char) : Option (Option TomlStatement × List Char) :=
  match skipSpaces cs with
  | '[' :: '[' :: cs => do
    let (path, cs) ← key? cs
    match cs with
    | ']' :: ']' :: rest => some (some (.arrayHeader path), ← endOfLine? rest)
    | _ => none
  | '[' :: cs => do
    let (path, cs) ← key? cs
    match cs with
    | ']' :: rest => some (some (.header path), ← endOfLine? rest)
    | _ => none
  | [] => some (none, [])
  | c :: cs =>
    match endOfLine? (c :: cs) with
    | some rest => some (none, rest)
    | none => do
      let (key, cs) ← key? (c :: cs)
      match cs with
      | '=' :: cs =>
        let (value, rest) ← valueWithin? (nestingBound - 1) (skipSpaces cs)
        some (some (.assign key value), ← endOfLine? rest)
      | _ => none

/-- Reads statements to the end of a text; every statement uses up a character. -/
def readAll? : Nat → List Char → Option (List TomlStatement)
  | _, [] => some []
  | 0, _ => none
  | fuel + 1, cs => do
    let (statement, rest) ← read? cs
    let statements ← readAll? fuel rest
    some (statement.toList ++ statements)

/-- The statements of a document; a byte order mark at its start does not count. -/
def ofChars? (cs : List Char) : Option (List TomlStatement) :=
  let cs := if cs.head? = some (Char.ofNat 0xFEFF) then cs.drop 1 else cs
  readAll? (cs.length + 1) cs

end TomlStatement

end QueryShape
