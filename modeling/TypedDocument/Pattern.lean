import TypedDocument.Regex.Parser
import TypedDocument.Regex.Size

/-!
# Text patterns

A pattern keeps the text it was written as together with the expression that text stands for, so two patterns with
one text are one pattern. A pattern has to match at the start of a value, not the whole of it: `hello .+` accepts both
`hello world` and `hello world, bye`.
-/

namespace TypedDocument

/-- A regular expression with the text it was read from. -/
structure Pattern where
  source : String
  regex : Regex
  parsed : Regex.parse? .full source.toList = some regex
  fits : regex.size ≤ Regex.sizeLimit

namespace Pattern

/-- The pattern a text stands for, unless the text is malformed or too large once its repetitions are written out. -/
def compile? (source : String) : Option Pattern :=
  match h : Regex.parse? .full source.toList with
  | some r => if fits : r.size ≤ Regex.sizeLimit then some ⟨source, r, h, fits⟩ else none
  | none => none

/-- Whether a match starts at the start of a text. -/
def matchesStart (p : Pattern) (text : String) : Bool := p.regex.matchesStart text

/-- The text determines the pattern. -/
theorem eq_of_source_eq {p q : Pattern} (h : p.source = q.source) : p = q := by
  cases p with
  | mk s r hr _ =>
    cases q with
    | mk s' r' hr' _ =>
      simp only at h
      subst h
      rw [hr] at hr'
      cases hr'
      rfl

/-- The text of a pattern stands for that pattern. -/
theorem compile?_source (p : Pattern) : compile? p.source = some p := by
  unfold compile?
  split
  · next r h =>
    rw [p.parsed] at h
    cases h
    simp [p.fits]
  · next h => simp [p.parsed] at h

instance : DecidableEq Pattern := fun p q =>
  if h : p.source = q.source then isTrue (eq_of_source_eq h)
  else isFalse fun e => h (e ▸ rfl)

end Pattern

end TypedDocument
