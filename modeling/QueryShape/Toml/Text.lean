import QueryShape.Json.Lexer

/-!
# TOML strings

A string in double quotes has escapes and one in single quotes has none.  Three quotes
open a string over several lines; a line break right after them does not count, and a
backslash at the end of a line skips the blanks and line breaks that follow.  Up to two
quotes may stand inside such a string, also right before the closing ones.
-/

namespace QueryShape

namespace TomlText

def isSpace (c : Char) : Bool :=
  c == ' ' || c == '\t'

/-- Characters that may stand in a comment and, quotes and backslashes apart, in a string. -/
def isPlain (c : Char) : Bool :=
  c == '\t' || (0x20 ≤ c.toNat && c.toNat ≠ 0x7F)

/-- What follows a line break. -/
def lineBreak? : List Char → Option (List Char)
  | '\n' :: cs => some cs
  | '\r' :: '\n' :: cs => some cs
  | _ => none

def skipSpaces (cs : List Char) : List Char :=
  cs.dropWhile isSpace

/-- Skips blanks and line breaks. -/
def skipLines : List Char → List Char
  | '\r' :: '\n' :: cs => skipLines cs
  | c :: cs => if c = '\n' || isSpace c then skipLines cs else c :: cs
  | [] => []

def simpleEscape? : Char → Option Char
  | 'b' => some '\x08'
  | 't' => some '\t'
  | 'n' => some '\n'
  | 'f' => some '\x0c'
  | 'r' => some '\r'
  | '"' => some '"'
  | '\\' => some '\\'
  | _ => none

def scalar? (n : Nat) : Option Char :=
  if n.isValidChar then some (Char.ofNat n) else none

/-- A code point of a fixed count of hexadecimal digits. -/
def codePoint? (width : Nat) (cs : List Char) : Option (Char × List Char) := do
  let digits ← (cs.take width).mapM JsonLexeme.hexDigit?
  if digits.length = width then
    let c ← scalar? (digits.foldl (fun n d => 16 * n + d) 0)
    some (c, cs.drop width)
  else none

/-- The character of an escape, after the backslash. -/
def escape? : List Char → Option (Char × List Char)
  | 'u' :: cs => codePoint? 4 cs
  | 'U' :: cs => codePoint? 8 cs
  | c :: cs => do some (← simpleEscape? c, cs)
  | [] => none

/-- Reads a string on one line up to its closing quote; characters read so far are kept from last
to first.  Every step uses up a character, and `fuel` counts the characters. -/
def line? (quote : Char) : Nat → List Char → List Char → Option (String × List Char)
  | 0, _, _ => none
  | _, _, [] => none
  | fuel + 1, read, c :: cs =>
    if c = quote then some (String.ofList read.reverse, cs)
    else if c = '\\' ∧ quote = '"' then do
      let (e, cs) ← escape? cs
      line? quote fuel (e :: read) cs
    else if isPlain c then line? quote fuel (c :: read) cs
    else none

/-- Reads a string over several lines up to its closing quotes.  Of a run of quotes the last three
close it. -/
def lines? (quote : Char) : Nat → List Char → List Char → Option (String × List Char)
  | 0, _, _ => none
  | _, _, [] => none
  | fuel + 1, read, c :: cs =>
    if c = quote then
      let run := (c :: cs).takeWhile (· == quote)
      let rest := (c :: cs).dropWhile (· == quote)
      if run.length < 3 then lines? quote fuel (run ++ read) rest
      else if run.length ≤ 5 then
        some (String.ofList (read.reverse ++ run.drop 3), rest)
      else none
    else if c = '\\' ∧ quote = '"' then
      match lineBreak? (skipSpaces cs) with
      | some rest => lines? quote fuel read (skipLines rest)
      | none => do
        let (e, cs) ← escape? cs
        lines? quote fuel (e :: read) cs
    else if isPlain c then lines? quote fuel (c :: read) cs
    else do
      let rest ← lineBreak? (c :: cs)
      lines? quote fuel ('\n' :: read) rest

/-- Drops a line break right after opening quotes. -/
def afterOpening (cs : List Char) : List Char :=
  (lineBreak? cs).getD cs

def isQuote (c : Char) : Bool :=
  c == '"' || c == '\''

/-- Reads a string on one line. -/
def simple? : List Char → Option (String × List Char)
  | q :: cs => if isQuote q then line? q (cs.length + 1) [] cs else none
  | [] => none

def read? : List Char → Option (String × List Char)
  | p :: q :: r :: cs =>
    if isQuote p ∧ p = q ∧ q = r then
      lines? p (cs.length + 1) [] (afterOpening cs)
    else simple? (p :: q :: r :: cs)
  | cs => simple? cs

end TomlText

end QueryShape
