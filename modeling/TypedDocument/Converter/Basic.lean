import TypedDocument.Converter.Rule
import TypedDocument.Path.Walk

/-!
# Converting documents

A converter takes a document apart along a walk, leaves out the excluded entries, converts every value by its rule and
puts the results together again. Renames follow on the way out and are undone first on the way in, so the rule always
sees paths of the schema's side.
-/

namespace TypedDocument

/-- A rule with the paths to leave out in each direction and the renames from paths of the schema's side to paths of
the wire's side, in the order they apply. -/
structure Converter where
  rule : ConversionRule
  excluded : List String := []
  excludedInbound : List String := []
  renames : List (String × String) := []

namespace Converter

/-- The renames that undo the renames of the converter, in the order they apply. -/
def inverseRenames (c : Converter) : List (String × String) := c.renames.reverse.map fun (a, b) => (b, a)

/-- Moves the value at one path to another, for every rename whose source exists. -/
def applyRenames (doc : Value) : List (String × String) → Except ConvertError Value
  | [] => .ok doc
  | (source, target) :: rest =>
    match Path.delete doc source with
    | .error _ => applyRenames doc rest
    | .ok (v, remaining) =>
      match Path.set remaining target v with
      | (doc', none) => applyRenames doc' rest
      | (_, some e) => .error (.path e)

/-- Puts a value where keys lead. Mappings on the way that are missing are created; the value is dropped if the way
is blocked. -/
def insertAlong (v : Value) : List String → Mapping → Mapping
  | [], out => out
  | [key], out => Entries.put key v out
  | key :: rest, out =>
    match Entries.get? key out with
    | none => Entries.put key (.map (insertAlong v rest [])) out
    | some (.map sub) => Entries.put key (.map (insertAlong v rest sub)) out
    | some _ => out

/-- Puts a value at the path of a walk. A walk only leads through mappings and comes by every mapping before its
entries, so what the path leads through is there already. -/
def insertAt (path : String) (v : Value) (out : Mapping) : Mapping :=
  insertAlong v ((Path.pieces path).map String.ofList) out

/-- Converts the entries of a walk. `settled` lists the paths below which nothing is left to do, because they were
left out or converted as one value, and `out` is the result so far. -/
def convertItems (rule : ConversionRule) (convert : String → Value → Except ConvertError Value) (doc : Value)
    (excluded : List String) : List WalkItem → (settled : List String) → (out : Mapping) → Except ConvertError Mapping
  | [], _, out => .ok out
  | .error e :: _, _, _ => .error (.path e)
  | .ok (path, v) :: rest, settled, out =>
    if settled.any (Path.isWithin path) then convertItems rule convert doc excluded rest settled out
    else if rule.excludes doc path excluded then
      convertItems rule convert doc excluded rest (path :: settled) out
    else if rule.descends path v then
      convertItems rule convert doc excluded rest settled (insertAt path (.map []) out)
    else
      match convert path v with
      | .error e => .error e
      | .ok w =>
        let settled := if v.map?.isSome then path :: settled else settled
        convertItems rule convert doc excluded rest settled (insertAt path w out)

/-- Converts a document entry by entry. -/
def convertDocument (rule : ConversionRule) (convert : String → Value → Except ConvertError Value)
    (excluded : List String) (doc : Value) : Except ConvertError Value :=
  match doc with
  | .map _ => (convertItems rule convert doc excluded (Path.walk doc) [] []).map .map
  | v => .error (.wrongType "dict" v.type)

/-- Converts a document to its wire form. -/
def toWire (c : Converter) (doc : Value) : Except ConvertError Value := do
  applyRenames (← convertDocument c.rule c.rule.outbound c.excluded doc) c.renames

/-- Converts a document from its wire form. -/
def fromWire (c : Converter) (doc : Value) : Except ConvertError Value := do
  convertDocument c.rule c.rule.inbound c.excludedInbound (← applyRenames doc c.inverseRenames)

end Converter

end TypedDocument
