import TypedDocument.Path.Segment
import TypedDocument.Schema.Dict
import TypedDocument.Validation.Error

/-!
# Validation

A value is checked against the field that governs it, and the first offence in document order is reported. A mapping
is checked entry by entry and only then for the entries it lacks, in the order of their declaration. Partial
validation leaves out that last step everywhere.
-/

namespace TypedDocument

namespace Bounds

/-- The first bound a number violates. NaN cannot be held against any bound. -/
def offence? (b : Bounds) (n : Number) : Option Offence :=
  if n.isNaN && (b.min.isSome || b.max.isSome) then some .notANumber
  else
    match b.min.filter n.lt, b.max.filter (·.lt n) with
    | some low, _ => some (.belowMinimum n low)
    | none, some high => some (.aboveMaximum n high)
    | none, none => none

end Bounds

namespace TextRules

/-- The first rule about its length a text violates. -/
def lengthOffence? (r : TextRules) (length : Nat) : Option Offence :=
  match r.length with
  | some expected => if length = expected then none else some (.wrongLength length expected)
  | none =>
    match r.minLen.filter (length < ·), r.maxLen.filter (· < length) with
    | some least, _ => some (.tooShort least)
    | none, some most => some (.tooLong most)
    | none, none => none

def patternOffence? (r : TextRules) (s : String) : Option Offence :=
  match r.pattern with
  | some p => if p.matchesStart s then none else some (.patternMismatch s p.source)
  | none => none

/-- The first rule a text violates; its length counts characters. -/
def offence? (r : TextRules) (s : String) : Option Offence :=
  (r.lengthOffence? s.length).or (r.patternOffence? s)

end TextRules

namespace FieldKind

/-- What is wrong with a value that is no container, apart from null. -/
def offence? (kind : FieldKind) (v : Value) : Option Offence :=
  if !kind.accepts v then some (.wrongType kind.name v.type)
  else
    match kind, v with
    | int b, .int i => b.offence? (.int i.toInt64)
    | long b, .long i => b.offence? (.int i)
    | float b, .float x => b.offence? (.float x)
    | text r, .text s => r.offence? s
    | _, _ => none

/-- What is wrong with the number of elements of a list. -/
def countOffence? (minLen : Nat) (maxLen : Option Nat) (count : Nat) : Option Offence :=
  if count < minLen then some (.tooFewElements count minLen)
  else
    match maxLen with
    | some most => if most < count then some (.tooManyElements count most) else none
    | none => none

end FieldKind

namespace Dict

/-- What a mapping with the given keys lacks under a key of the dict. A key type asks for a key of its type that has
no entry of its own. -/
def lack? (d : Dict) (name : String) (keys : List String) (key : SchemaKey) (f : Field) : Option ValidationError :=
  if f.optional then none
  else
    match key with
    | .type t =>
      if keys.any fun k => !Entries.contains (.name k) d && KeyType.ofKey k == t then none
      else some ⟨name, .missingTypeKey t⟩
    | .name n => if keys.contains n then none else some ⟨Path.join name n, .missingField⟩

/-- The first entry, in the order of declaration, that a mapping with the given keys lacks. -/
def firstLack? (d : Dict) (name : String) (keys : List String) : Option ValidationError :=
  d.findSome? fun (key, f) => d.lack? name keys key f

end Dict

/-- Reports an offence of a field, if there is one. -/
def report (name : String) : Option Offence → Except ValidationError Unit
  | some o => .error ⟨name, o⟩
  | none => .ok ()

mutual

/-- Checks a value against the field that governs it; `name` is the path of the field. -/
def Value.validate (partially : Bool) : Value → Field → String → Except ValidationError Unit
  | .null, f, name => report name (if f.nullable then none else some .nullNotAllowed)
  | .list items, f, name =>
    match f.kind with
    | .list candidates least most => do
      report name (FieldKind.countOffence? least most items.length)
      if candidates.isEmpty then return ()
      Value.validateItems partially candidates name 0 items
    | kind => report name (kind.offence? (.list items))
  | .map entries, f, name =>
    match f.kind with
    | .dict d => do
      Value.validateEntries partially d name entries
      if partially then return ()
      match Dict.firstLack? d name (Entries.keys entries) with
      | some e => throw e
      | none => return ()
    | kind => report name (kind.offence? (.map entries))
  | v, f, name => report name (f.kind.offence? v)
termination_by structural v => v

/-- Checks that every element matches a candidate. `index` is the place of the first of them in the list. -/
def Value.validateItems (partially : Bool) (candidates : List Field) (name : String) :
    (index : Nat) → List Value → Except ValidationError Unit
  | _, [] => .ok ()
  | index, v :: rest =>
    let element := name ++ "[" ++ toString index ++ "]"
    if candidates.any fun f => (Value.validate partially v f element).toBool then
      Value.validateItems partially candidates name (index + 1) rest
    else .error ⟨element, .noMatchingElement⟩
termination_by structural _ items => items

/-- Checks the entries of a mapping, whose path is `name`, against the fields that govern them. -/
def Value.validateEntries (partially : Bool) (d : Dict) (name : String) :
    List (String × Value) → Except ValidationError Unit
  | [] => .ok ()
  | (key, v) :: rest =>
    let path := Path.join name key
    match Dict.field? d key with
    | none => .error ⟨path, .undefinedField⟩
    | some f => do
      Value.validate partially v f path
      Value.validateEntries partially d name rest
termination_by structural es => es

end

namespace Field

/-- Checks a value, naming it `name` in errors. -/
def validate (f : Field) (v : Value) (name : String) (partially : Bool) : Except ValidationError Unit :=
  v.validate partially f name

end Field

end TypedDocument
