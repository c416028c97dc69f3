import TypedDocument.Declaration.Reader
import TypedDocument.Proofs.Conversion.Steps
import TypedDocument.Proofs.Document.JsonForm

/-!
# How a declaration is read, step by step

A declaration is read in four steps: the name of its type, the fields it holds, its options and its
default. The reader guards the last step by the weight of what is left, since decoding a default may
come upon further declarations. These are parts of the default, so the guard never gives way, and
the steps can be stated without it.
-/

namespace TypedDocument

/-! ## Declarations within a default -/

namespace Value

mutual

/-- A raw document has as many nodes as the JSON value it comes from. -/
theorem weight_of_toJson_ofJson : ∀ {d j : Json}, (ofJson d).toJson = .ok j → j.weight = d.weight
  | .null, _, h => by cases h; rfl
  | .bool _, _, h => by cases h; rfl
  | .string _, _, h => by cases h; rfl
  | .float x, _, h => by
    simp only [ofJson, toJson] at h
    split at h
    · cases h
      rfl
    · cases h
  | .integer i, _, h => by
    simp only [ofJson, ofInteger] at h
    split at h
    · cases h
      rfl
    · split at h
      · cases h
        rfl
      · simp only [toJson] at h
        split at h
        · cases h
          rfl
        · cases h
  | .array items, _, h => by
    obtain ⟨js, hjs, rfl⟩ := toJson_list_eq_ok_iff.mp h
    rw [Json.weight, Json.weight, weightItems_of_toJson_ofJson hjs]
  | .object members, _, h => by
    obtain ⟨ms, hms, rfl⟩ := toJson_map_eq_ok_iff.mp h
    rw [Json.weight, Json.weight, weightMembers_of_toJson_ofJson hms]

theorem weightItems_of_toJson_ofJson : ∀ {ds js : List Json},
    toJsonItems (ofJsonItems ds) = .ok js → Json.weightItems js = Json.weightItems ds
  | [], _, h => by cases h; rfl
  | d :: ds, _, h => by
    obtain ⟨j, hj, js', hjs', rfl⟩ := toJsonItems_cons_eq_ok_iff.mp h
    rw [Json.weightItems, Json.weightItems, weight_of_toJson_ofJson hj,
      weightItems_of_toJson_ofJson hjs']

theorem weightMembers_of_toJson_ofJson : ∀ {ds ms : List (String × Json)},
    toJsonMembers (ofJsonMembers ds) = .ok ms → Json.weightMembers ms = Json.weightMembers ds
  | [], _, h => by cases h; rfl
  | (_, d) :: ds, _, h => by
    obtain ⟨j, hj, ms', hms', rfl⟩ := toJsonMembers_cons_eq_ok_iff.mp h
    rw [Json.weightMembers, Json.weightMembers, weight_of_toJson_ofJson hj,
      weightMembers_of_toJson_ofJson hms']

end

theorem weight_le_of_mem_items {items : List Json} {i : Json} (h : i ∈ items) :
    i.weight ≤ Json.weightItems items := by
  induction items with
  | nil => cases h
  | cons d rest ih =>
    rw [Json.weightItems]
    rcases List.mem_cons.mp h with rfl | h
    · omega
    · have := ih h
      omega

theorem weight_le_of_mem_members {members : List (String × Json)} {key : String} {i : Json}
    (h : (key, i) ∈ members) : i.weight ≤ Json.weightMembers members := by
  induction members with
  | nil => cases h
  | cons d rest ih =>
    obtain ⟨k, d⟩ := d
    rw [Json.weightMembers]
    rcases List.mem_cons.mp h with h | h
    · cases h
      omega
    · have := ih h
      omega

/-- The parts of a raw document are the raw documents of parts. -/
theorem within_ofJson {v w : Value} (h : v.Within w) :
    ∀ d, v = ofJson d → ∃ i, w = ofJson i ∧ i.weight ≤ d.weight := by
  induction h with
  | self v =>
    rintro d rfl
    exact ⟨d, rfl, Nat.le_refl _⟩
  | @item items v w mem within ih =>
    intro d hd
    cases d with
    | array ds =>
      cases hd
      obtain ⟨i, hi, rfl⟩ := mem_ofJsonItems _ mem
      obtain ⟨k, hk, hle⟩ := ih i rfl
      have := weight_le_of_mem_items hi
      refine ⟨k, hk, ?_⟩
      rw [Json.weight]
      omega
    | integer i =>
      rw [ofJson, ofInteger] at hd
      split at hd
      · cases hd
      · split at hd <;> cases hd
    | _ => cases hd
  | @entry es key v w mem within ih =>
    intro d hd
    cases d with
    | object ds =>
      cases hd
      obtain ⟨i, hi, rfl⟩ := mem_ofJsonMembers key _ mem
      obtain ⟨k, hk, hle⟩ := ih i rfl
      have := weight_le_of_mem_members hi
      refine ⟨k, hk, ?_⟩
      rw [Json.weight]
      omega
    | integer i =>
      rw [ofJson, ofInteger] at hd
      split at hd
      · cases hd
      · split at hd <;> cases hd
    | _ => cases hd

/-- A declaration that decoding a default may come upon weighs no more than the default. -/
theorem weight_le_of_within_ofJson {d j : Json} {es : Mapping} (h : (ofJson d).Within (.map es))
    (hj : toJson (.map es) = .ok j) : j.weight ≤ d.weight := by
  obtain ⟨i, hi, hle⟩ := within_ofJson h d rfl
  rw [hi] at hj
  rw [weight_of_toJson_ofJson hj]
  exact hle

end Value

/-! ## Keys and entries of schemas -/

/-- The key that a text stands for is shown as the text. -/
@[simp] theorem SchemaKey.text_ofText (s : String) : (SchemaKey.ofText s).text = s := by
  rw [ofText]
  split
  · next h => exact h.symm
  · split
    · next h => exact h.symm
    · rfl

theorem SchemaKey.ofText_injective : Function.Injective SchemaKey.ofText := by
  intro s t h
  rw [← text_ofText s, ← text_ofText t, h]

theorem SchemaEntry.toFields_eq_map (entries : List (SchemaKey × SchemaEntry)) :
    SchemaEntry.toFields entries = entries.map fun e => (e.1, e.2.toField) := by
  induction entries with
  | nil => rfl
  | cons e rest ih => rw [toFields, List.map_cons, ih]

namespace Declaration

/-! ## The steps -/

/-- A list with the candidates that are declared, if any are. One candidate may stand alone. -/
def readList (node : Pointer) : Option Json → Except DeclarationError Field
  | none => .ok (Field.list [])
  | some (.array items) => do return Field.list (← readItems (node.child "fields") 0 items)
  | some single => do return Field.list [← readFieldAt (node.child "fields") single]

/-- A nested mapping with the entries that are declared, if any are. -/
def readNested (node : Pointer) : Option Json → Except DeclarationError Field
  | none => .ok (Field.dict [])
  | some schema => do
    match ← readEntry (node.child "schema") schema with
    | .nested entries => pure (Field.dict (Dict.ofEntries entries))
    | .field _ => invalid (node.child "schema") "schema" "expected a nested schema, got a field"

/-- The field of a type, before its options are set. -/
def readBase (node : Pointer) (typeName : String) (members : List (String × Json)) :
    Except DeclarationError Field :=
  if typeName = "list" then readList node (Entries.get? "fields" members)
  else if typeName = "dict" then readNested node (Entries.get? "schema" members)
  else
    match plainField? typeName with
    | some f => .ok f
    | none => .error (.unknownType node typeName)

/-- Sets the default of a field, if one is declared. -/
def readDefault (declare : DeclarationReader) (node : Pointer) (members : List (String × Json))
    (f : Field) : Except DeclarationError Field :=
  match Entries.get? "default" members with
  | none => .ok f
  | some default =>
    match Value.decodeWith declare (Value.ofJson default) f with
    | .ok v => .ok (f.withDefault v)
    | .error e => .error (.invalidDefault (node.child "default") e)

/-- How declarations within the default of a declaration are read. -/
def readWithin (members : List (String × Json)) : DeclarationReader := fun inner =>
  if inner.weight < (Json.object members).weight then readFieldAt [] inner
  else .error (.notAnObject [] inner.typeName)

variable {node : Pointer} {members : List (String × Json)}

/-- However the base of a field is read, its options and its default follow. -/
theorem bind_default_guarded (node : Pointer) (typeName : String)
    (members : List (String × Json)) (base : Field) :
    (setOptions node typeName members base >>= fun field =>
      match _h : Entries.get? "default" members with
      | none => pure field
      | some default =>
        match Value.decodeWith (readWithin members) (Value.ofJson default) field with
        | .ok v => pure (Field.withDefault v field)
        | .error e => throw (.invalidDefault (node.child "default") e)) =
      setOptions node typeName members base >>= readDefault (readWithin members) node members := by
  refine bind_congr fun field => ?_
  rw [readDefault]
  split
  · next h => simp only [h, pure_eq_ok]
  · next h =>
    simp only [h]
    split <;> rfl

theorem readFieldAt_eq_guarded (node : Pointer) (members : List (String × Json)) :
    readFieldAt node (.object members) = (do
      let typeName ← readType node members
      let base ← readBase node typeName members
      let f ← setOptions node typeName members base
      readDefault (readWithin members) node members f) := by
  rw [readFieldAt]
  refine bind_congr fun typeName => ?_
  have hrest := bind_default_guarded node typeName members
  dsimp only
  split
  · rw [readBase, if_pos rfl]
    split
    · next h =>
      rw [h]
      exact hrest _
    · next h =>
      rw [h, readList, bind_assoc]
      exact bind_congr fun fs => hrest _
    · next single hne h =>
      rw [h]
      cases single with
      | array items => exact absurd rfl (hne items)
      | _ =>
        rw [readList, bind_assoc]
        · exact bind_congr fun f => hrest _
        · exact hne
  · rw [readBase, if_neg (by decide), if_pos rfl]
    split
    · next h =>
      rw [h]
      exact hrest _
    · next schema h =>
      rw [h, readNested, bind_assoc]
      refine bind_congr fun entry => ?_
      cases entry with
      | field f => rfl
      | nested entries => exact hrest _
  · next hlist hdict =>
    rw [readBase, if_neg hlist, if_neg hdict]
    cases plainField? typeName with
    | some f => exact hrest _
    | none => rfl

/-- Declarations within a default are read as declarations of their own. -/
theorem readDefault_readWithin (f : Field) :
    readDefault (readWithin members) node members f = readDefault readField node members f := by
  rw [readDefault, readDefault]
  cases h : Entries.get? "default" members with
  | none => rfl
  | some d =>
    have hdecode : Value.decodeWith (readWithin members) (Value.ofJson d) f =
        Value.decodeWith readField (Value.ofJson d) f := by
      refine Value.decodeWith_congr ?_ f
      intro es j hes hj
      have hle := Value.weight_le_of_within_ofJson hes hj
      have hlt := Json.weight_le_of_get? h
      rw [readWithin, if_pos (by rw [Json.weight]; omega), readField]
    dsimp only
    rw [hdecode]

theorem readFieldAt_eq (node : Pointer) (members : List (String × Json)) :
    readFieldAt node (.object members) = (do
      let typeName ← readType node members
      let base ← readBase node typeName members
      let f ← setOptions node typeName members base
      readDefault readField node members f) := by
  simp only [readFieldAt_eq_guarded, readDefault_readWithin]

/-- What is not an object declares nothing. -/
theorem readFieldAt_of_members?_eq_none {j : Json} (h : j.members? = none) :
    readFieldAt node j = .error (.notAnObject node j.typeName) := by
  cases j with
  | object => cases h
  | _ => rw [readFieldAt]; simp

/-! ## Lists and entries -/

theorem readList_single {single : Json} (h : ∀ items, single ≠ .array items) :
    readList node (some single) = (do
      return Field.list [← readFieldAt (node.child "fields") single]) := by
  cases single with
  | array items => exact absurd rfl (h items)
  | _ => rfl

/-- What is not an object declares no entry. -/
theorem readEntry_of_members?_eq_none {j : Json} (h : j.members? = none) :
    readEntry node j = .error (.notAnObject node j.typeName) := by
  cases j with
  | object => cases h
  | _ => rw [readEntry]; simp

theorem readEntries_eq_traverse (node : Pointer) (ms : List (String × Json)) :
    readEntries node ms =
      (Entries.traverse (fun key j => readEntry (node.child key) j) ms).map
        fun es => es.map fun e => (SchemaKey.ofText e.1, e.2) := by
  induction ms with
  | nil => rw [readEntries, Entries.traverse]; rfl
  | cons m rest ih =>
    obtain ⟨key, j⟩ := m
    rw [readEntries, Entries.traverse, ih]
    cases readEntry (node.child key) j with
    | error => rfl
    | ok entry =>
      cases Entries.traverse (fun key j => readEntry (node.child key) j) rest <;> rfl

end Declaration

end TypedDocument
