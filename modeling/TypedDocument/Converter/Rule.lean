import TypedDocument.Schema.Basic

/-!
# Rules of conversion

A rule says how a converter treats the entry at a path: what becomes of its value in either direction, whether a
nested mapping is converted entry by entry or as one value, and which entries are left out.
-/

namespace TypedDocument

/-- How a converter treats the entries of a document. -/
structure ConversionRule where
  outbound : (path : String) → Value → Except ConvertError Value
  inbound : (path : String) → Value → Except ConvertError Value
  /-- Whether the entries of the mapping at a path are converted one by one. -/
  descends : (path : String) → Value → Bool
  /-- Whether the entry at a path is left out, given the document and the list of excluded paths. -/
  excludes : (doc : Value) → (path : String) → (excluded : List String) → Bool

/-- Whether a path is another path or lies below it. -/
def Path.isWithin (path ancestor : String) : Bool :=
  match ancestor.toList.isPrefixOf path.toList, path.toList.drop ancestor.toList.length with
  | true, [] => true
  | true, c :: _ => c = '.'
  | false, _ => false

namespace ConversionRule

/-- Entries at and below the listed paths are left out. -/
def excludesListed (_doc : Value) (path : String) (excluded : List String) : Bool :=
  excluded.any (Path.isWithin path)

/-- Values are copied unchanged, entry by entry. -/
def identity : ConversionRule where
  outbound _ v := .ok v
  inbound _ v := .ok v
  descends _ v := v.map?.isSome
  excludes := excludesListed

/-- As `identity`, but the list of excluded paths gives way to entries whose key starts with an underscore. -/
def hidePrivate : ConversionRule :=
  { identity with excludes := fun _ path _ => ((Path.pieces path).getLast?.bind List.head?) == some '_' }

/-- As `identity`, but the list of excluded paths gives way to entries that are null. -/
def dropNull : ConversionRule :=
  { identity with
    excludes := fun doc path _ =>
      match Path.get doc path with
      | .ok .null => true
      | _ => false }

/-- Values are encoded and decoded by the schema field at their path. Mappings are converted entry by entry where
the field describes entries or takes anything, and as one value everywhere else. -/
def ofSchema (s : Schema) : ConversionRule where
  outbound path v := do
    let f ← asConvertError .unknownKey (s.fieldAt path)
    asConvertError (ConvertError.under path) (f.encode v)
  inbound path v := do
    let f ← asConvertError .unknownKey (s.fieldAt path)
    asConvertError (ConvertError.under path) (f.decode v)
  descends path v :=
    v.map?.isSome &&
      match s.fieldAt path with
      | .ok f =>
        match f.kind with
        | .dict _ => true
        | .any => true
        | _ => false
      | .error _ => false
  excludes := excludesListed

end ConversionRule

end TypedDocument
