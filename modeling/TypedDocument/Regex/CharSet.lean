import TypedDocument.Text.Property
import TypedDocument.Text.CaseFolding

/-!
# Character sets of patterns

A set is built from ranges by the set operations, so that membership can be read off its construction.
-/

namespace TypedDocument

/-- A set of characters. -/
inductive CharSet where
  | ranges (rs : CharRanges)
  | union (a b : CharSet)
  | inter (a b : CharSet)
  | diff (a b : CharSet)
  | symmDiff (a b : CharSet)
  | compl (a : CharSet)
  /-- The characters that differ only in case from a member. -/
  | anyCase (a : CharSet)
  /-- As `anyCase`, for the letters of ASCII alone. -/
  | anyCaseAscii (a : CharSet)
deriving Repr, DecidableEq

namespace CharSet

/-- The other case of an ASCII letter, after the code point itself. -/
def asciiVariants (c : Nat) : List Nat :=
  if (CharRange.chars 'a' 'z').contains c then [c, c - 32]
  else if (CharRange.chars 'A' 'Z').contains c then [c, c + 32]
  else [c]

def contains : CharSet → Nat → Bool
  | ranges rs, c => rs.contains c
  | union a b, c => a.contains c || b.contains c
  | inter a b, c => a.contains c && b.contains c
  | diff a b, c => a.contains c && !b.contains c
  | symmDiff a b, c => a.contains c != b.contains c
  | compl a, c => !a.contains c
  | anyCase a, c => (CaseFolding.variants c).any a.contains
  | anyCaseAscii a, c => (asciiVariants c).any a.contains

def empty : CharSet := ranges []

/-- Every character. -/
def all : CharSet := compl empty

def single (c : Char) : CharSet := ranges [.chars c c]

def interval (a b : Char) : CharSet := ranges [.chars a b]

/-- Every character but one. -/
def allBut (c : Char) : CharSet := compl (single c)

/-- The ASCII digits. -/
def asciiDigits : CharSet := interval '0' '9'

/-- The ASCII letters and digits and the underscore. -/
def asciiWord : CharSet := ranges [.chars '0' '9', .chars 'A' 'Z', .chars '_' '_', .chars 'a' 'z']

/-- The ASCII blanks. -/
def asciiBlanks : CharSet := ranges [.upTo 9 13, .chars ' ' ' ']

/-- Whether a set of bytes has a member that is no ASCII character. -/
def leavesAscii (s : CharSet) : Bool := (List.range 128).any fun n => s.contains (128 + n)

end CharSet

end TypedDocument
