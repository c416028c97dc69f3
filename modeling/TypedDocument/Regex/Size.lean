import TypedDocument.Regex.Basic

/-!
# Sizes of regular expressions

Counted repetitions let a short pattern stand for a huge expression. The size of an expression is the space an
automaton for it takes once its repetitions are written out, and patterns above `sizeLimit` are refused. The automaton
reads a text byte by byte, so characters beyond ASCII and sets of them take more than one step.
-/

namespace TypedDocument

namespace CharSet

/-- The number of runs of code points in the description of a set. -/
def runs : CharSet → Nat
  | ranges rs => (rs.map fun r => if r.step = 1 then 1 else (r.high - r.low) / r.step + 1).sum
  | union a b => a.runs + b.runs
  | inter a b => a.runs + b.runs
  | diff a b => a.runs + b.runs
  | symmDiff a b => a.runs + b.runs
  | compl a => a.runs + 1
  | anyCase a => 2 * a.runs
  | anyCaseAscii a => 2 * a.runs

/-- Whether a set is described by ASCII characters alone. -/
def isAscii : CharSet → Bool
  | ranges rs => rs.all (·.high < 128)
  | union a b => a.isAscii && b.isAscii
  | inter a b => a.isAscii || b.isAscii
  | diff a _ => a.isAscii
  | symmDiff a b => a.isAscii && b.isAscii
  | compl _ => false
  | anyCase a => a.isAscii
  | anyCaseAscii a => a.isAscii

/-- The only character of a set that is described by it. -/
def only? : CharSet → Option Char
  | ranges [r] => if r.low = r.high then some (Char.ofNat r.low) else none
  | _ => none

end CharSet

namespace Regex

/-- The space one step of an automaton takes. -/
def stepSize : Nat := 32

/-- The space a set of characters takes. A single character takes a step for each of its bytes. A set of ASCII
characters takes two steps and a little for every run. Other sets take more for every run, and those that reach up to
the last character more steps for the leading bytes of all lengths. -/
def setSize (s : CharSet) : Nat :=
  match s.only? with
  | some c => stepSize * c.utf8Size
  | none =>
    if s.isAscii then 2 * stepSize + 8 * s.runs
    else 2 * stepSize + 24 * s.runs + if s.contains 0x10FFFF then 28 * stepSize else 0

/-- The space an expression takes once its repetitions are written out. -/
def size : Regex → Nat
  | empty => stepSize
  | chars set => setSize set
  | look _ => stepSize
  | seq r s => r.size + s.size
  | alt r s => r.size + s.size + stepSize
  | repeated r least none => max least 1 * r.size + stepSize
  | repeated r least (some most) => most * r.size + (most - least) * stepSize + stepSize
  | notAhead r => r.size

/-- Ten mebibytes. -/
def sizeLimit : Nat := 10 * 1024 * 1024

end Regex

end TypedDocument
