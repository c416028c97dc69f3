import TypedDocument.Json.Basic
import TypedDocument.Number.Notation

/-!
# Writing JSON text

The compact form has no blanks. The indented form puts every element and member on a line of its own, two spaces
deeper than its container, and leaves empty containers on one line.
-/

namespace TypedDocument.Json

def lowerHexDigit (n : Nat) : Char := if n < 10 then Char.ofNat (n + '0'.toNat) else Char.ofNat (n - 10 + 'a'.toNat)

/-- A character inside a string: quote, backslash and the control characters are escaped. -/
def escapeChar (c : Char) : List Char :=
  match c with
  | '"' => ['\\', '"']
  | '\\' => ['\\', '\\']
  | '\x08' => ['\\', 'b']
  | '\x0c' => ['\\', 'f']
  | '\n' => ['\\', 'n']
  | '\r' => ['\\', 'r']
  | '\t' => ['\\', 't']
  | c =>
    if c.toNat < 0x20 then ['\\', 'u', '0', '0', lowerHexDigit (c.toNat / 16), lowerHexDigit (c.toNat % 16)]
    else [c]

/-- The text of a string value. -/
def quote (s : String) : String := String.ofList ('"' :: s.toList.flatMap escapeChar ++ ['"'])

/-- A non-finite float cannot occur in a JSON value that was read or built from documents; it would be written as
null. -/
def floatText (x : Float) : String := if x.isFinite then FloatNotation.json.write x else "null"

mutual

/-- The compact text of a value. -/
def compact : Json → String
  | null => "null"
  | bool b => if b then "true" else "false"
  | integer i => toString i
  | float x => floatText x
  | string s => quote s
  | array items => "[" ++ compactItems items ++ "]"
  | object members => "\x7b" ++ compactMembers members ++ "\x7d"

def compactItems : List Json → String
  | [] => ""
  | [j] => compact j
  | j :: rest => compact j ++ "," ++ compactItems rest

def compactMembers : List (String × Json) → String
  | [] => ""
  | [(k, j)] => quote k ++ ":" ++ compact j
  | (k, j) :: rest => quote k ++ ":" ++ compact j ++ "," ++ compactMembers rest

end

/-- A line break and the indentation of the line it opens. -/
def newLine (level : Nat) : String := "\n" ++ String.ofList (List.replicate (2 * level) ' ')

mutual

/-- The indented text of a value that stands `level` containers deep. -/
def indented (level : Nat) : Json → String
  | array [] => "[]"
  | array (j :: rest) =>
    "[" ++ newLine (level + 1) ++ indented (level + 1) j ++ indentedItems level rest ++ newLine level ++ "]"
  | object [] => "\x7b\x7d"
  | object ((k, j) :: rest) =>
    "\x7b" ++ newLine (level + 1) ++ quote k ++ ": " ++ indented (level + 1) j ++ indentedMembers level rest
      ++ newLine level ++ "\x7d"
  | null => "null"
  | bool b => if b then "true" else "false"
  | integer i => toString i
  | float x => floatText x
  | string s => quote s

/-- The elements behind the first one, with the commas before them. -/
def indentedItems (level : Nat) : List Json → String
  | [] => ""
  | j :: rest => "," ++ newLine (level + 1) ++ indented (level + 1) j ++ indentedItems level rest

def indentedMembers (level : Nat) : List (String × Json) → String
  | [] => ""
  | (k, j) :: rest =>
    "," ++ newLine (level + 1) ++ quote k ++ ": " ++ indented (level + 1) j ++ indentedMembers level rest

end

/-- The text of a value over several lines. -/
def pretty (j : Json) : String := indented 0 j

end TypedDocument.Json
