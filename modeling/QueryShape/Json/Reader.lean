import QueryShape.Json.Lexer

/-!
# Reading JSON texts

The reader is a pushdown automaton over lexemes: a stack of open arrays and objects
and what may come next.  It takes a bounded number of steps for each character and
its stack holds the nesting, so it reads every text by one pass over its characters.
-/

namespace QueryShape

namespace Document

/-- An open array or object with its parts from last to first.  A member waits for the value of
its name. -/
inductive Open where
  | array (items : List Document)
  | object (fields : List (Option String × Document))
  | member (fields : List (Option String × Document)) (name : Option String)

inductive Expected where
  | value
  | itemOrEnd
  | nameOrEnd
  | name
  | colon
  | commaOrEnd
  | nothing (document : Document)

structure Reader where
  stack : List Open
  expected : Expected

namespace Reader

def start : Reader :=
  ⟨[], .value⟩

/-- Adds a complete document to what is open around it. -/
def close? (stack : List Open) (document : Document) : Option Reader :=
  match stack with
  | [] => some ⟨[], .nothing document⟩
  | .array items :: rest => some ⟨.array (document :: items) :: rest, .commaOrEnd⟩
  | .member fields name :: rest => some ⟨.object ((name, document) :: fields) :: rest, .commaOrEnd⟩
  | .object _ :: _ => none

def value? (stack : List Open) : JsonLexeme → Option Reader
  | .openArray => some ⟨.array [] :: stack, .itemOrEnd⟩
  | .openObject => some ⟨.object [] :: stack, .nameOrEnd⟩
  | .text s => close? stack (.text s)
  | .atom document => close? stack document
  | .closeArray | .closeObject | .comma | .colon => none

def name? (stack : List Open) (name : Option String) : Option Reader :=
  match stack with
  | .object fields :: rest => some ⟨.member fields name :: rest, .colon⟩
  | _ => none

def end? (stack : List Open) (lexeme : JsonLexeme) : Option Reader :=
  match lexeme, stack with
  | .closeArray, .array items :: rest => close? rest (.array items.reverse)
  | .closeObject, .object fields :: rest => close? rest (.object fields.reverse)
  | _, _ => none

def comma? (stack : List Open) : Option Reader :=
  match stack with
  | .array _ :: _ => some ⟨stack, .value⟩
  | .object _ :: _ => some ⟨stack, .name⟩
  | _ => none

def step? (reader : Reader) (lexeme : JsonLexeme) : Option Reader :=
  match reader.expected, lexeme with
  | .value, lexeme => value? reader.stack lexeme
  | .itemOrEnd, .closeArray => end? reader.stack .closeArray
  | .itemOrEnd, lexeme => value? reader.stack lexeme
  | .nameOrEnd, .closeObject => end? reader.stack .closeObject
  | .nameOrEnd, .text name => name? reader.stack name
  | .name, .text name => name? reader.stack name
  | .colon, .colon => some ⟨reader.stack, .value⟩
  | .commaOrEnd, .comma => comma? reader.stack
  | .commaOrEnd, lexeme => end? reader.stack lexeme
  | _, _ => none

def steps? : Reader → List JsonLexeme → Option Reader
  | reader, [] => some reader
  | reader, lexeme :: rest => (reader.step? lexeme).bind fun next => steps? next rest

def document? (reader : Reader) : Option Document :=
  match reader.expected with
  | .nothing document => some document
  | _ => none

/-- Reads the rest of a text from a mode of the lexer on. -/
def run? : Reader → JsonLexeme.Mode → List Char → Option Document
  | reader, mode, [] =>
    (JsonLexeme.finish? mode).bind fun lexemes =>
      (reader.steps? lexemes).bind document?
  | reader, mode, c :: cs =>
    match JsonLexeme.step? mode c with
    | none => none
    | some (lexemes, mode) =>
      match reader.steps? lexemes with
      | none => none
      | some reader => run? reader mode cs

end Reader

/-- Reads a complete text. -/
def ofChars? (cs : List Char) : Option Document :=
  Reader.run? .start .between cs

end Document

namespace Json

/-- The number of arrays and objects that may stand inside one another. -/
def maxNesting : Nat := 127

def ofChars? (cs : List Char) : Option Json :=
  Document.ofChars? cs >>= Document.value? maxNesting

def ofText? (s : String) : Option Json :=
  ofChars? s.toList

end Json

end QueryShape
