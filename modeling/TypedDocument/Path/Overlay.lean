import TypedDocument.Document.Basic

/-!
# Overlaying mappings

An overlay brings the entries of one mapping into another. Where the new value is a mapping, the two are overlaid
entry by entry, and anything but a mapping first makes way for an empty one; every other value replaces the old one.
Nulls of the overlay may be left out.
-/

namespace TypedDocument

namespace Mapping

/-- The mapping at a key; anything else counts as empty. -/
def below (key : String) (es : Mapping) : Mapping :=
  match Entries.get? key es with
  | some (.map sub) => sub
  | _ => []

end Mapping

mutual

/-- The target after the entries of the overlay have been brought in one after the other. -/
def Mapping.overlay (skipNull : Bool) : List (String × Value) → Mapping → Mapping
  | [], target => target
  | (key, v) :: rest, target => Mapping.overlay skipNull rest (Value.overlayAt skipNull key v target)
termination_by structural es => es

/-- The target after one value has been brought in. -/
def Value.overlayAt (skipNull : Bool) (key : String) : Value → Mapping → Mapping
  | .map sub, target => Entries.put key (.map (Mapping.overlay skipNull sub (Mapping.below key target))) target
  | .null, target => if skipNull then target else Entries.put key .null target
  | v, target => Entries.put key v target
termination_by structural v => v

end

end TypedDocument
