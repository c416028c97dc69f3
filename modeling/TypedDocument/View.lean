import TypedDocument.Path.Access

/-!
# Views

A view decides how the keys of a document are understood: as literal keys of the outermost mapping or as dotted paths.
An attribute view, put around another view, leaves that to the view it is put around and adds attributes: values that,
where they are mappings, can be asked for attributes in turn. A view can also be used through a reference to it.
-/

namespace TypedDocument

/-- How keys reach into a document. -/
inductive View where
  | literal
  | dotted
  | attributes (inner : View)
  /-- A reference to a view. -/
  | borrowed (inner : View)
deriving DecidableEq, Repr

/-- An attribute: a nested mapping, which has attributes itself, or any other value. -/
inductive Attribute where
  | value (v : Value)
  | object (entries : Mapping)

namespace Attribute

/-- The value of an attribute. -/
def toValue : Attribute → Value
  | value v => v
  | object entries => .map entries

def ofValue : Value → Attribute
  | .map entries => object entries
  | v => value v

end Attribute

namespace View

/-- The value at a key. -/
def lookup (key : String) (doc : Value) : View → Except PathError Value
  | literal =>
    match doc with
    | .map es =>
      match Entries.get? key es with
      | some v => .ok v
      | none => .error (.notFound key)
    | _ => .error (.notAContainer key)
  | dotted => Path.get doc key
  | attributes inner => inner.lookup key doc
  | borrowed inner => inner.lookup key doc

def contains (view : View) (key : String) (doc : Value) : Bool := (view.lookup key doc).toBool

/-- Sets the value at a key. The document is also given back when that fails. -/
def assign (key : String) (new doc : Value) : View → Value × Option PathError
  | literal =>
    match doc with
    | .map es => (.map (Entries.put key new es), none)
    | _ => (doc, some (.notAContainer key))
  | dotted => Path.set doc key new
  | attributes inner => inner.assign key new doc
  | borrowed inner => inner.assign key new doc

/-- Removes the value at a key; the result is that value and the document without it. -/
def remove (key : String) (doc : Value) : View → Except PathError (Value × Value)
  | literal =>
    match doc with
    | .map es =>
      match Entries.get? key es with
      | some v => .ok (v, .map (Entries.erase key es))
      | none => .error (.notFound key)
    | _ => .error (.notAContainer key)
  | dotted => Path.delete doc key
  | attributes inner => inner.remove key doc
  | borrowed inner => inner.remove key doc

/-- The names of a document's attributes: the keys of its outermost mapping. -/
def names (doc : Value) : List String :=
  match doc with
  | .map es => Entries.keys es
  | _ => []

/-- An attribute of a document. -/
def attributeAt (view : View) (name : String) (doc : Value) : Except PathError Attribute :=
  (view.lookup name doc).map Attribute.ofValue

end View

/-- Where a chain of names leads. -/
inductive Followed where
  | reached (a : Attribute)
  /-- A name that is not the last led to a value without attributes. -/
  | notObject (name : String)

namespace View

/-- Follows names through attributes of attributes. Nested mappings are viewed literally, whatever the view of the
document. -/
def follow (view : View) (doc : Value) (name : String) : List String → Except PathError Followed
  | [] => (view.attributeAt name doc).map .reached
  | next :: rest =>
    match view.attributeAt name doc with
    | .ok (.object entries) => follow (attributes (borrowed literal)) (.map entries) next rest
    | .ok (.value _) => .ok (.notObject name)
    | .error e => .error e

end View

end TypedDocument
