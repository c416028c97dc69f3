import TypedDocument.Conversion.Decoding
import TypedDocument.Declaration.Options
import TypedDocument.Json.Weight

/-!
# Reading declarations

An object with a text under `type` declares a field; any other object stands for a nested mapping and declares its
entries. The default of a field is decoded by the field itself, and if that involves reading a further declaration,
the declaration is part of the default and so weighs less than the one it belongs to.
-/

namespace TypedDocument.Declaration

/-- Whether an object declares a field, as opposed to the entries of a nested mapping. -/
def declaresField (members : List (String × Json)) : Bool :=
  match Entries.get? "type" members with
  | some (.string _) => true
  | _ => false

mutual

/-- Reads the declaration of a field at a node. -/
def readFieldAt (node : Pointer) (j : Json) : Except DeclarationError Field :=
  match j with
  | .object members => do
    let typeName ← readType node members
    let base ← match typeName with
      | "list" =>
        match _h : Entries.get? "fields" members with
        | none => pure (Field.list [])
        | some (.array items) => pure (Field.list (← readItems (node.child "fields") 0 items))
        | some single => pure (Field.list [← readFieldAt (node.child "fields") single])
      | "dict" =>
        match _h : Entries.get? "schema" members with
        | none => pure (Field.dict [])
        | some schema =>
          match ← readEntry (node.child "schema") schema with
          | .nested entries => pure (Field.dict (Dict.ofEntries entries))
          | .field _ => invalid (node.child "schema") "schema" "expected a nested schema, got a field"
      | name =>
        match plainField? name with
        | some f => pure f
        | none => throw (.unknownType node name)
    let field ← setOptions node typeName members base
    match _h : Entries.get? "default" members with
    | none => return field
    | some default =>
      let declare : DeclarationReader := fun inner =>
        if inner.weight < (Json.object members).weight then readFieldAt [] inner
        else .error (.notAnObject [] inner.typeName)
      match Value.decodeWith declare (Value.ofJson default) field with
      | .ok v => return field.withDefault v
      | .error e => throw (.invalidDefault (node.child "default") e)
  | j => .error (.notAnObject node j.typeName)
termination_by (j.weight, 0)
decreasing_by
  all_goals try have hmember := Json.weight_le_of_get? _h
  all_goals simp only [Json.weight] at *
  all_goals omega

/-- Reads the candidates of a list from the one with the given index on. -/
def readItems (node : Pointer) (index : Nat) (items : List Json) : Except DeclarationError (List Field) :=
  match items with
  | [] => .ok []
  | j :: rest => do
    let f ← readFieldAt (node.child (toString index)) j
    let fs ← readItems node (index + 1) rest
    return f :: fs
termination_by (Json.weightItems items, 2)
decreasing_by
  all_goals simp only [Json.weightItems]
  all_goals have := Json.weight_pos j
  all_goals omega

/-- Reads an entry of a schema. -/
def readEntry (node : Pointer) (j : Json) : Except DeclarationError SchemaEntry :=
  match j with
  | .object members =>
    if declaresField members then return .field (← readFieldAt node (.object members))
    else return .nested (← readEntries node members)
  | j => .error (.notAnObject node j.typeName)
termination_by (j.weight, 1)
decreasing_by
  all_goals simp only [Json.weight]
  all_goals omega

/-- Reads the entries of a nested mapping in order. -/
def readEntries (node : Pointer) (members : List (String × Json)) :
    Except DeclarationError (List (SchemaKey × SchemaEntry)) :=
  match members with
  | [] => .ok []
  | (key, j) :: rest => do
    let entry ← readEntry (node.child key) j
    let entries ← readEntries node rest
    return (SchemaKey.ofText key, entry) :: entries
termination_by (Json.weightMembers members, 2)
decreasing_by
  all_goals simp only [Json.weightMembers]
  all_goals have := Json.weight_pos j
  all_goals omega

end

/-- Reads the declaration of a field. -/
def readField (j : Json) : Except DeclarationError Field := readFieldAt [] j

end TypedDocument.Declaration

namespace TypedDocument.Field

/-- Decodes a raw value that the field governs. -/
def decode (f : Field) (v : Value) : Except ConvertError Value := v.decodeWith Declaration.readField f

end TypedDocument.Field
