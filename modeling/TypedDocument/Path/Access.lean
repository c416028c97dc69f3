import TypedDocument.Document.Basic
import TypedDocument.Path.Segment

/-!
# Access by path

Reading, writing and deleting the value at a path. Writing creates what is missing on the way: a mapping before a key
and a list before an index, with nulls in front of an index that lies behind the end. A write that fails half-way
keeps the containers it has created by then.
-/

namespace TypedDocument

/-- Why a path cannot be followed. -/
inductive PathError where
  | notFound (path : String)
  | dottedKey (key : String)
  | notAContainer (path : String)
  | indexTooLarge (path : String)
deriving DecidableEq, Repr

namespace PathError

def message : PathError → String
  | notFound path => "path not found: " ++ path
  | dottedKey key => "key in dot notation cannot be walked: " ++ key
  | notAContainer path => "cannot descend into " ++ path ++ ": not a container for this segment"
  | indexTooLarge path => "index out of range for a sequence: " ++ path

end PathError

namespace Value

/-- The entry of a mapping or the element of a list that a segment leads to. -/
def child? : Value → Segment → Option Value
  | map es, .key k => Entries.get? k es
  | list items, .index i => items[i]?
  | _, _ => none

/-- Replaces the child a segment leads to. -/
def setChild (new : Value) : Value → Segment → Value
  | map es, .key k => map (Entries.put k new es)
  | list items, .index i => list (items.set i new)
  | v, _ => v

/-- Removes the child a segment leads to. The entries or elements behind it keep their order. -/
def eraseChild : Value → Segment → Value
  | map es, .key k => map (Entries.erase k es)
  | list items, .index i => list (items.eraseIdx i)
  | v, _ => v

/-- The value segments lead to, one after the other. -/
def at? : Value → List Segment → Option Value
  | v, [] => some v
  | v, s :: rest => (v.child? s).bind fun c => c.at? rest

/-- Puts a value in the place of the one that segments lead to, and gives back the old one. -/
def replace? (new : Value) : List Segment → Value → Option (Value × Value)
  | [], v => some (v, new)
  | s :: rest, v => do
    let c ← v.child? s
    let (old, c') ← replace? new rest c
    return (old, setChild c' v s)

/-- Removes the value segments lead to; the result is that value and what remains. -/
def remove? : List Segment → Value → Option (Value × Value)
  | [], _ => none
  | [s], v => (v.child? s).map fun c => (c, v.eraseChild s)
  | s :: rest, v => do
    let c ← v.child? s
    let (old, c') ← remove? rest c
    return (old, setChild c' v s)

/-- What keeps a value from being written. -/
inductive WriteFault where
  | notAContainer
  | indexTooLarge
deriving DecidableEq, Repr

/-- The empty container into which the next segment can lead. -/
def placeholder : List Segment → Value
  | [] => null
  | .key _ :: _ => map []
  | .index _ :: _ => list []

/-- What a write finds at a segment: missing values and nulls make room for a container. -/
def room (rest : List Segment) : Option Value → Value
  | none => placeholder rest
  | some null => placeholder rest
  | some v => v

/-- Writes a value where segments lead. `limit` is the greatest length a list can be padded to. -/
def write (limit : Nat) (new : Value) : List Segment → Value → Value × Option WriteFault
  | [], _ => (new, none)
  | .key k :: rest, map es =>
    let (v, fault) := write limit new rest (room rest (Entries.get? k es))
    (map (Entries.put k v es), fault)
  | .index i :: rest, list items =>
    if i < items.length then
      let (v, fault) := write limit new rest (room rest items[i]?)
      (list (items.set i v), fault)
    else if i < limit then
      let (v, fault) := write limit new rest (placeholder rest)
      (list (items ++ List.replicate (i - items.length) null ++ [v]), fault)
    else (list items, some .indexTooLarge)
  | _, v => (v, some .notAContainer)

end Value

namespace Path

/-- The greatest length lists are padded to. -/
def maxLength : Nat := UInt32.size

/-- The value at a path. -/
def get (doc : Value) (path : String) : Except PathError Value :=
  match doc.at? (segments path) with
  | some v => .ok v
  | none => .error (.notFound path)

/-- Whether a path leads to a value. -/
def contains (doc : Value) (path : String) : Bool := (doc.at? (segments path)).isSome

/-- Exchanges the value at a path; the result is the old value and the new document. -/
def replace (doc : Value) (path : String) (new : Value) : Except PathError (Value × Value) :=
  match Value.replace? new (segments path) doc with
  | some r => .ok r
  | none => .error (.notFound path)

/-- Removes the value at a path; the result is that value and the document without it. -/
def delete (doc : Value) (path : String) : Except PathError (Value × Value) :=
  match Value.remove? (segments path) doc with
  | some r => .ok r
  | none => .error (.notFound path)

/-- Sets the value at a path with lists padded up to a limit. The document is also given back when the write fails,
with the containers that were created before it failed. -/
def setWithin (limit : Nat) (doc : Value) (path : String) (new : Value) : Value × Option PathError :=
  let (doc', fault) := Value.write limit new (segments path) doc
  (doc', fault.map fun
    | .notAContainer => .notAContainer path
    | .indexTooLarge => .indexTooLarge path)

/-- Sets the value at a path. -/
def set (doc : Value) (path : String) (new : Value) : Value × Option PathError := setWithin maxLength doc path new

end Path

end TypedDocument
