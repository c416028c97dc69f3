import TypedDocument.Text.Property

/-!
# Quoted text

Messages quote a text so that it can be told apart from its surroundings: characters that would be invisible, or that
would merge with the character before them, are written by their code point.
-/

namespace TypedDocument.Quoted

/-- A code point in hexadecimal between braces. -/
def codePoint (c : Char) : List Char :=
  '\\' :: 'u' :: '\x7b' :: (Nat.toDigits 16 c.toNat ++ ['\x7d'])

/-- A character inside a quoted text. -/
def escapeChar (c : Char) : List Char :=
  match c with
  | '"' => ['\\', '"']
  | '\\' => ['\\', '\\']
  | '\n' => ['\\', 'n']
  | '\r' => ['\\', 'r']
  | '\t' => ['\\', 't']
  | '\x00' => ['\\', '0']
  | c =>
    if ' ' ≤ c && c ≤ '~' then [c]
    else if CharProperty.isGraphemeExtend c || !CharProperty.printable c then codePoint c
    else [c]

/-- A text between double quotes. -/
def encode (s : String) : String := String.ofList ('"' :: s.toList.flatMap escapeChar ++ ['"'])

end TypedDocument.Quoted
