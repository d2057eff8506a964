import QueryShape.Json.Document
import QueryShape.Json.Numeral

/-!
# Lexemes of JSON

The lexer goes over a text one character at a time.  Its mode says what the
character belongs to; a word or a numeral ends at the first character that cannot
belong to it, which is then taken as the start of the next lexeme.
-/

namespace QueryShape

/-- Brackets and separators, and the documents that are one lexeme. -/
inductive JsonLexeme where
  | openArray
  | closeArray
  | openObject
  | closeObject
  | comma
  | colon
  | text (value : Option String)
  | atom (value : Document)

namespace JsonLexeme

/-- What the next character belongs to.  Characters read so far are kept from last to first; those
of a string are kept as code points, since an escape may name a surrogate. -/
inductive Mode where
  | between
  | word (letters : List Char)
  | numeral (chars : List Char)
  | string (points : List Nat)
  | escape (points : List Nat)
  | hex (points : List Nat) (missing : Nat) (value : Nat)

def isSpace (c : Char) : Bool :=
  c == ' ' || c == '\t' || c == '\n' || c == '\r'

def isNumeralChar (c : Char) : Bool :=
  c.isDigit || c == '-' || c == '+' || c == '.' || c == 'e' || c == 'E'

def mark? : Char → Option JsonLexeme
  | '[' => some .openArray
  | ']' => some .closeArray
  | '\x7b' => some .openObject
  | '\x7d' => some .closeObject
  | ',' => some .comma
  | ':' => some .colon
  | _ => none

def ofWord? (letters : List Char) : Option JsonLexeme :=
  if letters = "null".toList then some (.atom .null)
  else if letters = "true".toList then some (.atom (.bool true))
  else if letters = "false".toList then some (.atom (.bool false))
  else none

def ofNumeral? (chars : List Char) : Option JsonLexeme :=
  (Numeral.ofChars? chars).map fun numeral => .atom (.number numeral.number?)

def isHighSurrogate (n : Nat) : Bool :=
  0xD800 ≤ n && n ≤ 0xDBFF

def isLowSurrogate (n : Nat) : Bool :=
  0xDC00 ≤ n && n ≤ 0xDFFF

/-- The characters of code points; a pair of surrogates is one character, a surrogate alone is
none. -/
def chars? : List Nat → Option (List Char)
  | [] => some []
  | high :: low :: rest =>
    if isHighSurrogate high && isLowSurrogate low then
      (chars? rest).map (Char.ofNat (0x10000 + (high - 0xD800) * 0x400 + (low - 0xDC00)) :: ·)
    else if isHighSurrogate high || isLowSurrogate high then none
    else (chars? (low :: rest)).map (Char.ofNat high :: ·)
  | [n] => if isHighSurrogate n || isLowSurrogate n then none else some [Char.ofNat n]

def hexDigit? (c : Char) : Option Nat :=
  if c.isDigit then some (c.toNat - '0'.toNat)
  else if 'a' ≤ c ∧ c ≤ 'f' then some (c.toNat - 'a'.toNat + 10)
  else if 'A' ≤ c ∧ c ≤ 'F' then some (c.toNat - 'A'.toNat + 10)
  else none

def simpleEscape? : Char → Option Char
  | '"' => some '"'
  | '\\' => some '\\'
  | '/' => some '/'
  | 'b' => some '\x08'
  | 'f' => some '\x0c'
  | 'n' => some '\n'
  | 'r' => some '\r'
  | 't' => some '\t'
  | _ => none

/-- The mode after a character that starts a lexeme or separates two, and the lexeme that the
character is, if it is one. -/
def start? (c : Char) : Option (List JsonLexeme × Mode) :=
  if isSpace c then some ([], .between)
  else if c = '"' then some ([], .string [])
  else if isNumeralChar c && c != 'e' && c != 'E' then some ([], .numeral [c])
  else if c.isAlpha then some ([], .word [c])
  else (mark? c).map fun lexeme => ([lexeme], .between)

/-- The lexemes that a character completes and the mode after it. -/
def step? : Mode → Char → Option (List JsonLexeme × Mode)
  | .between, c => start? c
  | .word letters, c =>
    if c.isAlpha then some ([], .word (c :: letters))
    else do
      let word ← ofWord? letters.reverse
      let (lexemes, mode) ← start? c
      some (word :: lexemes, mode)
  | .numeral chars, c =>
    if isNumeralChar c then some ([], .numeral (c :: chars))
    else do
      let numeral ← ofNumeral? chars.reverse
      let (lexemes, mode) ← start? c
      some (numeral :: lexemes, mode)
  | .string points, c =>
    if c = '"' then some ([.text ((chars? points.reverse).map String.ofList)], .between)
    else if c = '\\' then some ([], .escape points)
    else if c.toNat < 0x20 then none
    else some ([], .string (c.toNat :: points))
  | .escape points, c =>
    if c = 'u' then some ([], .hex points 3 0)
    else (simpleEscape? c).map fun d => ([], .string (d.toNat :: points))
  | .hex points missing value, c => do
    let digit ← hexDigit? c
    let value := 16 * value + digit
    match missing with
    | 0 => some ([], .string (value :: points))
    | missing + 1 => some ([], .hex points missing value)

/-- The lexeme that the end of the text completes. -/
def finish? : Mode → Option (List JsonLexeme)
  | .between => some []
  | .word letters => (ofWord? letters.reverse).map ([·])
  | .numeral chars => (ofNumeral? chars.reverse).map ([·])
  | .string _ | .escape _ | .hex _ _ _ => none

end JsonLexeme

end QueryShape
