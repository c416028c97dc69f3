import TypedDocument.Path.Overlay
import TypedDocument.Schema.Basic

/-!
# Creating documents

A new document holds every required entry with a literal name: nested mappings are created in turn, and all other
entries take their default, if they have one. A default may be produced anew for every document, as counters do.
Counters advance with every default they give, so creation carries their state along.
-/

namespace TypedDocument

/-- The state of the counters that produce defaults. -/
structure Counters where
  /-- How many defaults each counter has given. -/
  given : CounterId → Nat
  /-- What a counter gives next, from the number of the default. This is the number itself, unless a producer of some
  other kind stands in for the counter. -/
  yields : CounterId → Nat → Value := fun _ n => .long (Int64.ofNat n)

namespace Counters

/-- No counter has given any number. -/
def fresh : Counters := { given := fun _ => 0 }

/-- The next default of a counter, counting from one. -/
def draw (c : Counters) (id : CounterId) : Value × Counters :=
  let n := c.given id + 1
  (c.yields id n, { c with given := fun other => if other = id then n else c.given other })

end Counters

namespace Default

/-- The value a default gives to a new document. -/
def produce (d : Default) (c : Counters) : Option Value × Counters :=
  match d with
  | .unset => (none, c)
  | .value v => (some v, c)
  | .counter id =>
    let (v, c') := c.draw id
    (some v, c')

end Default

mutual

/-- The entries of a new mapping, in the order of declaration. -/
def Dict.createEntries : List (SchemaKey × Field) → Counters → Mapping × Counters
  | [], c => ([], c)
  | (.type _, _) :: rest, c => Dict.createEntries rest c
  | (.name n, f) :: rest, c =>
    let (v, c) := Field.create f c
    let (es, c) := Dict.createEntries rest c
    ((v.map fun v => (n, v)).toList ++ es, c)
termination_by structural fields => fields

/-- The value a field gives to a new document, if any. -/
def Field.create : Field → Counters → Option Value × Counters
  | .mk kind options default, c =>
    if options.optional then (none, c) else FieldKind.create kind default c
termination_by structural f => f

/-- Nested mappings are created from their fields, whatever their own default is. -/
def FieldKind.create : FieldKind → Default → Counters → Option Value × Counters
  | .dict fields, _, c =>
    let (es, c) := Dict.createEntries fields c
    (some (.map es), c)
  | _, default, c => default.produce c
termination_by structural k => k

end

namespace Schema

/-- A new document. -/
def create (s : Schema) (c : Counters) : Value × Counters :=
  let (es, c) := Dict.createEntries s.root c
  (.map es, c)

/-- A new document with an initial one laid over it. -/
def createFrom (s : Schema) (initial : Mapping) (c : Counters) : Value × Counters :=
  let (es, c) := Dict.createEntries s.root c
  (.map (Mapping.overlay false initial es), c)

end Schema

end TypedDocument
