import TypedDocument.Number.Reading

/-!
# Dotted paths

A path is a text whose segments stand between dots. A segment of ASCII digits is an index into a list, whatever zeros
it starts with; every other segment, the empty one included, is a key of a mapping. A key of digits alone cannot be
reached by a path.
-/

namespace TypedDocument

/-- One step of a path. -/
inductive Segment where
  | key (name : String)
  | index (i : Nat)
deriving DecidableEq, Repr

namespace Segment

/-- Reads the text of a segment. -/
def ofChars (cs : List Char) : Segment :=
  if !cs.isEmpty && cs.all Char.isDigit then index (digitsValue 0 cs) else key (String.ofList cs)

end Segment

namespace Path

/-- The pieces of a text between its dots: the first one and the others. -/
def splitDots : List Char → List Char × List (List Char)
  | [] => ([], [])
  | c :: cs =>
    let (first, others) := splitDots cs
    if c = '.' then ([], first :: others) else (c :: first, others)

/-- The texts of all segments of a path. There always is at least one. -/
def pieces (path : String) : List (List Char) :=
  let (first, others) := splitDots path.toList
  first :: others

/-- The segments of a path. -/
def segments (path : String) : List Segment := (pieces path).map Segment.ofChars

/-- The path of a key below a parent path; the root has the empty path. -/
def join (parent key : String) : String := if parent.isEmpty then key else parent ++ "." ++ key

/-- Whether a key contains a dot, so that no path can name it. -/
def isDotted (key : String) : Bool := key.toList.contains '.'

end Path

end TypedDocument
