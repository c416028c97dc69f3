import TypedDocument.Document.Equality

/-!
# Dicts

A dict says which keys a mapping may have and which field governs each. A document key is governed by the field under
its own name if there is one, and otherwise by the field under its key type.
-/

namespace TypedDocument

/-- A key that no field of a schema governs. It points to a gap in the schema or to a wrong key, not to a malformed
document. -/
structure UnknownKey where
  key : String
deriving DecidableEq, Repr

namespace UnknownKey

def message (e : UnknownKey) : String := "key '" ++ e.key ++ "' not defined in schema"

end UnknownKey

namespace Dict

/-- The field under a key of the dict. -/
def get? (d : Dict) (key : SchemaKey) : Option Field := Entries.get? key d

/-- The field that governs a document key. -/
def field? (d : Dict) (key : String) : Option Field :=
  (d.get? (.name key)).or (d.get? (.type (KeyType.ofKey key)))

/-- The field that governs a document key, or the error that there is none. -/
def fieldOf (d : Dict) (key : String) : Except UnknownKey Field :=
  match d.field? key with
  | some f => .ok f
  | none => .error ⟨key⟩

/-- The dict that holds the given fields; of fields under the same key the last one counts, at the place of the
first. -/
def ofFields (fields : List (SchemaKey × Field)) : Dict := Entries.ofList fields

end Dict

/-- The entry of a schema as it is written down: a field, or further entries that stand for a required nested
mapping. -/
inductive SchemaEntry where
  | field (f : Field)
  | nested (entries : List (SchemaKey × SchemaEntry))

mutual

/-- The field an entry stands for. -/
def SchemaEntry.toField : SchemaEntry → Field
  | .field f => f
  | .nested entries => .ofKind (.dict (Dict.ofFields (SchemaEntry.toFields entries)))

def SchemaEntry.toFields : List (SchemaKey × SchemaEntry) → List (SchemaKey × Field)
  | [] => []
  | (key, entry) :: rest => (key, entry.toField) :: SchemaEntry.toFields rest

end

namespace Dict

/-- The dict of entries as they are written down. -/
def ofEntries (entries : List (SchemaKey × SchemaEntry)) : Dict := ofFields (SchemaEntry.toFields entries)

end Dict

mutual

/-- Brings the fields of an overlay into a dict one after the other. -/
def Dict.mergeFields : List (SchemaKey × Field) → Dict → Dict
  | [], base => base
  | (key, f) :: rest, base => Dict.mergeFields rest (Field.mergeAt key f base)
termination_by structural fields => fields

/-- Brings one field into a dict. Where both sides hold a nested mapping, the two are merged and the options of the
base field stay; otherwise the new field takes the place of the old one. -/
def Field.mergeAt (key : SchemaKey) : Field → Dict → Dict
  | .mk kind options default, base => FieldKind.mergeAt key options default kind base
termination_by structural f => f

def FieldKind.mergeAt (key : SchemaKey) (options : FieldOptions) (default : Default) : FieldKind → Dict → Dict
  | .dict overlay, base =>
    match base.get? key with
    | some (.mk (.dict inner) options' default') =>
      Entries.put key (.mk (.dict (Dict.mergeFields overlay inner)) options' default') base
    | _ => Entries.put key (.mk (.dict overlay) options default) base
  | kind, base => Entries.put key (.mk kind options default) base
termination_by structural k => k

end

namespace Dict

/-- A dict with the fields of another laid over its own. -/
def merge (base overlay : Dict) : Dict := mergeFields overlay base

end Dict

end TypedDocument
