import TypedDocument.Json.Basic

/-!
# JSON pointers

A pointer names a node of a JSON value by the keys and indices that lead to it. Its written form puts a slash before
every token and escapes the two characters that would be ambiguous: `~` as `~0` and `/` as `~1`.
-/

namespace TypedDocument

/-- The tokens from the root to a node; list indices are written in decimal. -/
abbrev Pointer := List String

namespace Pointer

/-- One character of a token as it is written in a pointer. -/
def escapeChar : Char → List Char
  | '~' => ['~', '0']
  | '/' => ['~', '1']
  | c => [c]

def escape (token : String) : String := String.ofList (token.toList.flatMap escapeChar)

/-- The written form; the root is the empty text. -/
def text (p : Pointer) : String := p.foldl (fun s token => s ++ "/" ++ escape token) ""

/-- The pointer of a member or element of the node at `p`. -/
def child (p : Pointer) (token : String) : Pointer := p ++ [token]

/-- The node a pointer leads to. -/
def resolve? : Pointer → Json → Option Json
  | [], j => some j
  | token :: rest, .object ms => (Entries.get? token ms).bind (resolve? rest)
  | token :: rest, .array items =>
    (items.zipIdx.findSome? fun (item, i) => if toString i = token then some item else none).bind (resolve? rest)
  | _ :: _, _ => none

end Pointer

end TypedDocument
