import QueryShape.Text.Printable

/-!
# Quoted texts in messages

Messages show a foreign text between double quotes.  Quotes, backslashes and the
usual control characters have two-character escapes; every other character that
cannot be shown is written as its code point in hexadecimal.
-/

namespace QueryShape

def hexText (n : Nat) : String :=
  String.ofList (Nat.toDigits 16 n)

def quotedChar (c : Char) : String :=
  match c with
  | '\x00' => "\\0"
  | '\t' => "\\t"
  | '\n' => "\\n"
  | '\r' => "\\r"
  | '"' => "\\\""
  | '\\' => "\\\\"
  | c =>
    if isPrintable c && !extendsGrapheme c then c.toString
    else "\\u\x7b" ++ hexText c.toNat ++ "\x7d"

def quoted (s : String) : String :=
  "\"" ++ String.join (s.toList.map quotedChar) ++ "\""

end QueryShape
