import TypedDocument.Schema.Basic

/-!
# Declarations of schemas

A schema is declared by an object of entries, among which `$title` and `$description` are set apart.
-/

namespace TypedDocument.Schema

/-- The members of a schema declaration read so far. -/
structure Parts where
  entries : List (SchemaKey × SchemaEntry) := []
  title : Option String := none
  description : Option String := none

/-- Reads the members of a schema declaration in order. -/
def readParts : List (String × Json) → Parts → Except DeclarationError Parts
  | [], parts => .ok parts
  | (key, j) :: rest, parts =>
    if key = "$title" then do
      let title ← Declaration.readText [] key j
      readParts rest { parts with title := some title }
    else if key = "$description" then do
      let description ← Declaration.readText [] key j
      readParts rest { parts with description := some description }
    else do
      let entry ← Declaration.readEntry [key] j
      readParts rest { parts with entries := parts.entries ++ [(SchemaKey.ofText key, entry)] }

/-- Reads the declaration of a schema. -/
def ofDeclaration (j : Json) : Except DeclarationError Schema :=
  match j with
  | .object members => do
    let parts ← readParts members {}
    return { root := Dict.ofEntries parts.entries, title := parts.title, description := parts.description }
  | j => .error (.notAnObject [] j.typeName)

/-- The declaration of a schema. -/
def describe (s : Schema) : Json :=
  .object (Entries.ofList (optionMember "$title" .string s.title ++
    optionMember "$description" .string s.description ++ Field.describeEntries s.root))

end TypedDocument.Schema
