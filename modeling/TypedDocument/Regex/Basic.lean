import TypedDocument.Regex.CharSet

/-!
# Regular expressions

A regular expression relates the positions of a text: it leads from a position to every position where a match that
starts there may end. `Regex.run` computes that relation for whole sets of positions, which keeps the work polynomial
whatever the expression repeats. Only the existence of matches is ever asked for, so neither groups nor the
preference of short over long repetitions leave a trace in an expression.
-/

namespace TypedDocument

/-- Where a position stands with respect to words. -/
inductive Boundary where
  | between
  | inside
  | start
  | finish
  | halfStart
  | halfFinish
deriving Repr, DecidableEq

/-- A condition on a position that consumes nothing. -/
inductive Look where
  | textStart
  | textEnd
  | lineStart
  | lineEnd
  /-- As `lineStart`, with carriage returns ending lines too. -/
  | lineStartCrlf
  | lineEndCrlf
  | word (ascii : Bool) (boundary : Boundary)
deriving Repr, DecidableEq

namespace Look

/-- Whether there is a word character where a position looks. -/
def isWord (ascii : Bool) : Option Char → Bool
  | none => false
  | some c => if ascii then CharSet.asciiWord.contains c.toNat else CharProperty.word.contains c.toNat

/-- Whether the condition holds between two characters; `none` stands for the end of the text. -/
def holdsBetween : Look → Option Char → Option Char → Bool
  | textStart, before, _ => before.isNone
  | textEnd, _, after => after.isNone
  | lineStart, before, _ => before.isNone || before == some '\n'
  | lineEnd, _, after => after.isNone || after == some '\n'
  | lineStartCrlf, before, after =>
    before.isNone || before == some '\n' || (before == some '\r' && after != some '\n')
  | lineEndCrlf, before, after =>
    after.isNone || after == some '\r' || (after == some '\n' && before != some '\r')
  | word ascii boundary, before, after =>
    let b := isWord ascii before
    let a := isWord ascii after
    match boundary with
    | .between => b != a
    | .inside => b == a
    | .start => !b && a
    | .finish => b && !a
    | .halfStart => !b
    | .halfFinish => !a

/-- Whether the condition holds at a position of a text. -/
def holds (l : Look) (text : Array Char) (i : Nat) : Bool :=
  l.holdsBetween (if i = 0 then none else text[i - 1]?) text[i]?

end Look

/-- A regular expression. -/
inductive Regex where
  | empty
  | chars (set : CharSet)
  | look (l : Look)
  | seq (r s : Regex)
  | alt (r s : Regex)
  /-- At least `least` and, if there is a bound, at most `most` times. -/
  | repeated (r : Regex) (least : Nat) (most : Option Nat)
  /-- Holds, without consuming anything, where the expression does not match. -/
  | notAhead (r : Regex)
deriving Repr, DecidableEq

namespace Regex

/-- The positions of `next` that are not yet in `known`, each once. -/
def fresh (known : List Nat) : List Nat → List Nat
  | [] => []
  | i :: rest => if known.contains i then fresh known rest else i :: fresh (i :: known) rest

/-- Positions reached in exactly `n` steps. The set is final as soon as it is empty or a step leaves it as it was. -/
def exactly (step : List Nat → List Nat) : Nat → List Nat → List Nat
  | 0, here => here
  | n + 1, here =>
    let next := step here
    if next.isEmpty || next == here then next else exactly step n next

/-- Positions reached in at most `n` steps from the frontier, together with those known already. -/
def atMost (step : List Nat → List Nat) : Nat → (known frontier : List Nat) → List Nat
  | 0, known, _ => known
  | n + 1, known, frontier =>
    match fresh known (step frontier) with
    | [] => known
    | next => atMost step n (known ++ next) next

/-- The positions of a text where matches end that start at the given positions. A repetition without a bound stops
finding new positions after at most as many rounds as the text has positions. -/
def run (text : Array Char) : Regex → List Nat → List Nat
  | empty, here => here
  | chars set, here =>
    here.filterMap fun i =>
      match text[i]? with
      | some c => if set.contains c.toNat then some (i + 1) else none
      | none => none
  | look l, here => here.filter (l.holds text)
  | seq r s, here => run text s (run text r here)
  | alt r s, here =>
    let left := run text r here
    left ++ fresh left (run text s here)
  | repeated r least most, here =>
    let first := exactly (run text r) least here
    let rounds := match most with
      | some n => n - least
      | none => text.size + 1
    atMost (run text r) rounds first first
  | notAhead r, here => here.filter fun i => (run text r [i]).isEmpty

/-- Whether a match starts at a position. -/
def matchesAt (r : Regex) (text : Array Char) (i : Nat) : Bool := !(r.run text [i]).isEmpty

/-- Whether a match starts at the start of a text. -/
def matchesStart (r : Regex) (text : String) : Bool := r.matchesAt text.toList.toArray 0

/-- Whether a match starts anywhere in a text. -/
def matchesWithin (r : Regex) (text : String) : Bool :=
  let chars := text.toList.toArray
  !(r.run chars (List.range (chars.size + 1))).isEmpty

/-- One after the other. -/
def sequence (rs : List Regex) : Regex :=
  match rs with
  | [] => empty
  | r :: rest => rest.foldl seq r

/-- Any of several expressions; without any, nothing matches. -/
def choice (rs : List Regex) : Regex :=
  match rs with
  | [] => chars .empty
  | r :: rest => rest.foldl alt r

/-- A text, character by character. -/
def literal (s : List Char) : Regex := sequence (s.map fun c => chars (.single c))

end Regex

end TypedDocument
