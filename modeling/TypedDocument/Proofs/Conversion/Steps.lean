import TypedDocument.Conversion.Encoding
import TypedDocument.Proofs.Document.Containers
import TypedDocument.Proofs.Traversal

/-!
# Single steps of conversions

Encoding and decoding under a field for lists go through the elements, under a field for
mappings through the entries, and under a field for any value they do nothing. What one element
and one entry contribute is stated here once.
-/

namespace TypedDocument

@[simp] theorem asConvertError_eq_ok_iff {ε α : Type} {wrap : ε → ConvertError} {x : Except ε α}
    {a : α} : asConvertError wrap x = .ok a ↔ x = .ok a := by
  cases x <;> simp [asConvertError]

@[simp] theorem Dict.fieldOf_eq_ok_iff {d : Dict} {key : String} {f : Field} :
    d.fieldOf key = .ok f ↔ d.field? key = some f := by
  cases h : d.field? key <;> simp [fieldOf, h]

namespace Value

/-- The first of several candidates that has the type of a value. -/
def firstCandidate? (v : Value) (candidates : List Field) : Option Field :=
  candidates.find? fun f => f.kind.accepts v

/-- The step of encoding for one element. -/
def encodeElement (v : Value) (candidates : List Field) : Except ConvertError Value :=
  match v.firstCandidate? candidates with
  | some f => v.encode f
  | none => .ok v

/-- The step of decoding for one element. -/
def decodeElement (declare : DeclarationReader) (candidates : List Field) (v : Value) : Value :=
  (candidates.findSome? fun f =>
    match v.decodeWith declare f with
    | .ok w => if f.kind.accepts w then some w else none
    | .error _ => none).getD v

/-- The step of encoding for one entry. -/
def encodeEntry (d : Dict) (key : String) (v : Value) : Except ConvertError Value := do
  let f ← asConvertError .unknownKey (d.fieldOf key)
  asConvertError (ConvertError.under key) (v.encode f)

/-- The step of decoding for one entry. -/
def decodeEntry (declare : DeclarationReader) (d : Dict) (key : String) (v : Value) :
    Except ConvertError Value := do
  let f ← asConvertError .unknownKey (d.fieldOf key)
  asConvertError (ConvertError.under key) (v.decodeWith declare f)

variable {declare : DeclarationReader} {f : Field} {v w : Value}

/-! ## Any value -/

@[simp] theorem encode_of_any (hk : f.kind = .any) : v.encode f = .ok v := by
  cases v <;> simp [encode, hk, FieldKind.encodeScalar]

@[simp] theorem decodeWith_of_any (hk : f.kind = .any) : v.decodeWith declare f = .ok v := by
  cases v <;> simp [decodeWith, hk, FieldKind.decodeScalar]

/-- Of a field, decoding depends on the kind. -/
theorem decodeWith_of_kind_eq {g : Field} (h : f.kind = g.kind) :
    v.decodeWith declare f = v.decodeWith declare g := by
  cases v <;> simp only [decodeWith, h]

/-! ## Scalars -/

@[simp] theorem isContainer_encodeScalar (kind : FieldKind) :
    (kind.encodeScalar v).isContainer = v.isContainer := by
  cases kind <;> cases v <;> rfl

theorem encode_scalar (hv : v.isContainer = false) (hfield : ∀ g, v ≠ .field g) :
    v.encode f = .ok (f.kind.encodeScalar v) := by
  cases v with
  | list => cases hv
  | map => cases hv
  | field g => exact absurd rfl (hfield g)
  | _ => rfl

/-- Where no meta field is involved, a field held as data is encoded like any other scalar: not
at all. -/
theorem encode_leaf (hv : v.isContainer = false) (hk : f.kind ≠ .field) :
    v.encode f = .ok (f.kind.encodeScalar v) := by
  cases v with
  | field g =>
    rw [encode]
    cases hkind : f.kind with
    | field => exact absurd hkind hk
    | _ => rfl
  | _ => exact encode_scalar hv (by simp)

@[simp] theorem decodeWith_leaf (hv : v.isContainer = false) :
    v.decodeWith declare f = f.kind.decodeScalar v := by
  cases v with
  | list => cases hv
  | map => cases hv
  | null => cases f.kind <;> rfl
  | _ => rfl

@[simp] theorem readText_eq_ok_iff {α : Type} {s : String} {layout : Layout} {make : α → Value}
    {x : Except LayoutFault α} :
    FieldKind.readText s layout make x = .ok w ↔ ∃ a, x = .ok a ∧ make a = w := by
  cases x <;> simp [FieldKind.readText]

/-- Decoding a value that is not taken apart changes nothing, or gives a number, a day or a time. -/
theorem eq_or_isScalar_of_decodeScalar {kind : FieldKind} (h : kind.decodeScalar v = .ok w) :
    w = v ∨ w.isScalar = true := by
  cases kind with
  | int | long | float =>
    cases v <;> cases h <;> first | exact .inl rfl | exact .inr rfl | (split <;> simp [isScalar])
  | dateTime | date | time =>
    cases v with
    | text s =>
      obtain ⟨a, -, rfl⟩ := readText_eq_ok_iff.mp h
      exact .inr rfl
    | _ => cases h; exact .inl rfl
  | _ => cases v <;> cases h <;> exact .inl rfl

theorem isContainer_decodeScalar {kind : FieldKind} (hv : v.isContainer = false)
    (h : kind.decodeScalar v = .ok w) : w.isContainer = false := by
  rcases eq_or_isScalar_of_decodeScalar h with rfl | hw
  · exact hv
  · exact isContainer_of_isScalar hw

/-! ## Lists -/

section Lists

variable {items : List Value} {candidates : List Field} {least : Nat} {most : Option Nat}

theorem encode_list (hk : f.kind = .list candidates least most) :
    (list items).encode f = (encodeItems items candidates).map list := by
  simp [encode, hk]

theorem encode_list_of_kind_ne (hk : ∀ cs least most, f.kind ≠ .list cs least most) :
    (list items).encode f = .ok (list items) := by
  rw [encode]
  split
  · next h => exact absurd h (hk _ _ _)
  · rfl

theorem decodeWith_list (hk : f.kind = .list candidates least most) :
    (list items).decodeWith declare f = .ok (list (decodeItems declare candidates items)) := by
  simp [decodeWith, hk]

theorem decodeWith_list_of_kind_ne (hk : ∀ cs least most, f.kind ≠ .list cs least most) :
    (list items).decodeWith declare f = .ok (list items) := by
  rw [decodeWith]
  split
  · next h => exact absurd h (hk _ _ _)
  · rfl

theorem encodeItems_cons_eq_ok_iff {ws : List Value} :
    encodeItems (v :: items) candidates = .ok ws ↔
      ∃ w, v.encodeElement candidates = .ok w ∧
        ∃ ws', encodeItems items candidates = .ok ws' ∧ w :: ws' = ws := by
  rw [encodeItems, encodeElement, firstCandidate?]
  cases candidates.find? fun f => f.kind.accepts v <;> simp [bind_eq_ok_iff]

theorem length_encodeItems {ws : List Value} (h : encodeItems items candidates = .ok ws) :
    ws.length = items.length := by
  induction items generalizing ws with
  | nil =>
    cases h
    rfl
  | cons v rest ih =>
    obtain ⟨w, -, ws', hws', rfl⟩ := encodeItems_cons_eq_ok_iff.mp h
    rw [List.length_cons, List.length_cons, ih hws']

theorem mem_encodeItems {ws : List Value} (h : encodeItems items candidates = .ok ws) :
    ∀ w ∈ ws, ∃ v ∈ items, v.encodeElement candidates = .ok w := by
  induction items generalizing ws with
  | nil =>
    cases h
    simp
  | cons v rest ih =>
    obtain ⟨w, hw, ws', hws', rfl⟩ := encodeItems_cons_eq_ok_iff.mp h
    intro u hu
    rcases List.mem_cons.mp hu with rfl | hu
    · exact ⟨v, List.mem_cons_self, hw⟩
    · obtain ⟨x, hx, hxu⟩ := ih hws' u hu
      exact ⟨x, List.mem_cons_of_mem v hx, hxu⟩

/-- The first candidate counts if it makes a value of its own type, and the others otherwise. -/
theorem decodeElement_cons (f : Field) (candidates : List Field) (v : Value) :
    v.decodeElement declare (f :: candidates) =
      match v.decodeWith declare f with
      | .ok w => if f.kind.accepts w then w else v.decodeElement declare candidates
      | .error _ => v.decodeElement declare candidates := by
  rw [decodeElement, List.findSome?_cons, decodeElement]
  cases v.decodeWith declare f with
  | error => rfl
  | ok w =>
    dsimp only
    cases f.kind.accepts w <;> rfl

/-- An element is decoded by one of the candidates, which then accepts it, or stays as it is. -/
theorem decodeElement_cases (declare : DeclarationReader) (candidates : List Field) (v : Value) :
    (∃ c ∈ candidates, v.decodeWith declare c = .ok (v.decodeElement declare candidates)) ∨
      v.decodeElement declare candidates = v := by
  induction candidates with
  | nil => exact .inr rfl
  | cons f rest ih =>
    have hrest : (∃ c ∈ f :: rest, v.decodeWith declare c = .ok (v.decodeElement declare rest)) ∨
        v.decodeElement declare rest = v :=
      ih.imp_left fun ⟨c, hc, hw⟩ => ⟨c, List.mem_cons_of_mem f hc, hw⟩
    rw [decodeElement_cons]
    cases hf : v.decodeWith declare f with
    | error => exact hrest
    | ok w =>
      dsimp only
      split
      · exact .inl ⟨f, List.mem_cons_self, hf⟩
      · exact hrest

@[simp] theorem decodeItems_cons :
    decodeItems declare candidates (v :: items) =
      v.decodeElement declare candidates :: decodeItems declare candidates items := rfl

theorem decodeItems_eq_map (items : List Value) :
    decodeItems declare candidates items = items.map (decodeElement declare candidates) := by
  induction items with
  | nil => rfl
  | cons v rest ih => rw [decodeItems_cons, ih, List.map_cons]

/-- Without candidates elements are neither encoded nor decoded. -/
@[simp] theorem encodeItems_nil (items : List Value) : encodeItems items [] = .ok items := by
  induction items with
  | nil => rfl
  | cons v rest ih => exact encodeItems_cons_eq_ok_iff.mpr ⟨v, rfl, rest, ih, rfl⟩

@[simp] theorem decodeItems_nil (items : List Value) : decodeItems declare [] items = items := by
  induction items with
  | nil => rfl
  | cons v rest ih => rw [decodeItems, List.findSome?_nil, Option.getD_none, ih]

end Lists

/-! ## Mappings -/

section Mappings

variable {key : String} {es ws : Mapping} {d : Dict}

theorem encode_map (hk : f.kind = .dict d) : (map es).encode f = (encodeEntries es d).map map := by
  simp [encode, hk]

theorem encode_map_of_kind_ne (hk : ∀ d, f.kind ≠ .dict d) : (map es).encode f = .ok (map es) := by
  rw [encode]
  split
  · next h => exact absurd h (hk _)
  · rfl

theorem decodeWith_map (hk : f.kind = .dict d) :
    (map es).decodeWith declare f = (decodeEntries declare d es).map map := by
  simp [decodeWith, hk]

/-- A mapping under a field for fields is written as JSON and read as a declaration. -/
theorem decodeWith_map_of_field (hk : f.kind = .field) :
    (map es).decodeWith declare f = (do
      let j ← asConvertError .json (toJson (map es))
      let g ← asConvertError .declaration (declare j)
      return field g) := by
  simp only [decodeWith, hk]

theorem decodeWith_map_of_field_eq_ok_iff (hk : f.kind = .field) :
    (map es).decodeWith declare f = .ok w ↔
      ∃ j, toJson (map es) = .ok j ∧ ∃ g, declare j = .ok g ∧ field g = w := by
  simp [decodeWith_map_of_field hk, bind_eq_ok_iff]

theorem decodeWith_map_of_kind_ne (hdict : ∀ d, f.kind ≠ .dict d) (hfield : f.kind ≠ .field) :
    (map es).decodeWith declare f = .ok (map es) := by
  rw [decodeWith]
  split
  · next h => exact absurd h (hdict _)
  · next h => exact absurd h hfield
  · rfl

theorem encodeEntry_eq_ok_iff :
    encodeEntry d key v = .ok w ↔ ∃ f, d.field? key = some f ∧ v.encode f = .ok w := by
  simp [encodeEntry, bind_eq_ok_iff]

theorem encodeEntries_cons_eq_ok_iff :
    encodeEntries ((key, v) :: es) d = .ok ws ↔
      ∃ f, d.field? key = some f ∧ ∃ w, v.encode f = .ok w ∧
        ∃ ws', encodeEntries es d = .ok ws' ∧ (key, w) :: ws' = ws := by
  simp [encodeEntries, bind_eq_ok_iff]

theorem encodeEntries_eq_traverse (es : Mapping) (d : Dict) :
    encodeEntries es d = Entries.traverse (encodeEntry d) es := by
  induction es with
  | nil => rfl
  | cons e rest ih =>
    obtain ⟨k, v⟩ := e
    rw [encodeEntries, Entries.traverse, encodeEntry, bind_assoc, ih]

theorem keys_encodeEntries (h : encodeEntries es d = .ok ws) :
    Entries.keys ws = Entries.keys es :=
  Entries.keys_traverse (encodeEntries_eq_traverse es d ▸ h)

theorem mem_encodeEntries (h : encodeEntries es d = .ok ws) :
    ∀ key w, (key, w) ∈ ws →
      ∃ v f, (key, v) ∈ es ∧ d.field? key = some f ∧ v.encode f = .ok w := by
  intro key w hw
  rw [encodeEntries_eq_traverse] at h
  obtain ⟨v, hv, hvw⟩ := Entries.mem_traverse h key w hw
  obtain ⟨f, hf, hfw⟩ := encodeEntry_eq_ok_iff.mp hvw
  exact ⟨v, f, hv, hf, hfw⟩

theorem decodeEntry_eq_ok_iff :
    decodeEntry declare d key v = .ok w ↔
      ∃ f, d.field? key = some f ∧ v.decodeWith declare f = .ok w := by
  simp [decodeEntry, bind_eq_ok_iff]

theorem decodeEntries_eq_traverse (es : Mapping) (d : Dict) :
    decodeEntries declare d es = Entries.traverse (decodeEntry declare d) es := by
  induction es with
  | nil => rfl
  | cons e rest ih =>
    obtain ⟨k, v⟩ := e
    rw [decodeEntries, Entries.traverse, decodeEntry, bind_assoc, ih]

theorem decodeEntries_cons_eq_ok_iff :
    decodeEntries declare d ((key, v) :: es) = .ok ws ↔
      ∃ f, d.field? key = some f ∧ ∃ w, v.decodeWith declare f = .ok w ∧
        ∃ ws', decodeEntries declare d es = .ok ws' ∧ (key, w) :: ws' = ws := by
  simp [decodeEntries, bind_eq_ok_iff]

theorem mem_decodeEntries (h : decodeEntries declare d es = .ok ws) :
    ∀ key w, (key, w) ∈ ws →
      ∃ v f, (key, v) ∈ es ∧ d.field? key = some f ∧ v.decodeWith declare f = .ok w := by
  intro key w hw
  rw [decodeEntries_eq_traverse] at h
  obtain ⟨v, hv, hvw⟩ := Entries.mem_traverse h key w hw
  obtain ⟨f, hf, hfw⟩ := decodeEntry_eq_ok_iff.mp hvw
  exact ⟨v, f, hv, hf, hfw⟩

end Mappings

/-! ## Readers of declarations -/

theorem decodeItems_congr {declare' : DeclarationReader} {items : List Value}
    (candidates : List Field)
    (h : ∀ v ∈ items, ∀ f, v.decodeWith declare f = v.decodeWith declare' f) :
    decodeItems declare candidates items = decodeItems declare' candidates items := by
  induction items with
  | nil => rfl
  | cons v rest ih =>
    have hv : v.decodeWith declare = v.decodeWith declare' := funext (h v List.mem_cons_self)
    rw [decodeItems_cons, decodeItems_cons, decodeElement, decodeElement, hv,
      ih fun w hw => h w (List.mem_cons_of_mem v hw)]

/-- Of a reader of declarations, decoding depends on what it makes of the mappings in the value. -/
theorem decodeWith_congr {declare declare' : DeclarationReader} {v : Value} :
    (∀ es j, v.Within (.map es) → toJson (.map es) = .ok j → declare j = declare' j) →
      ∀ f, v.decodeWith declare f = v.decodeWith declare' f := by
  induction v using containerInduction with
  | leaf v hv =>
    intro _ f
    rw [decodeWith_leaf hv, decodeWith_leaf hv]
  | list items ih =>
    intro h f
    rw [decodeWith, decodeWith]
    cases f.kind with
    | list candidates =>
      dsimp only
      rw [decodeItems_congr candidates fun v hv => ih v hv fun es j hes => h es j (.item hv hes)]
    | _ => rfl
  | map es ih =>
    intro h f
    rw [decodeWith, decodeWith]
    cases f.kind with
    | dict d =>
      dsimp only
      rw [decodeEntries_eq_traverse, decodeEntries_eq_traverse]
      refine congrArg (Except.map map) (Entries.traverse_congr ?_)
      intro key v hv
      have hdecode := ih key v hv fun sub j hsub => h sub j (.entry hv hsub)
      exact bind_congr fun g => congrArg _ (hdecode g)
    | field =>
      dsimp only
      cases hj : toJson (.map es) with
      | error => rfl
      | ok j => rw [asConvertError, ok_bind, ok_bind, h es j (.self _) hj]
    | _ => rfl

end Value

end TypedDocument
