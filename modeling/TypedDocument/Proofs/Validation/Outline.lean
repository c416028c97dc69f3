import TypedDocument.Proofs.Document.Containers
import TypedDocument.Proofs.Field.Nesting
import TypedDocument.Proofs.Outcome
import TypedDocument.Schema.Basic

/-!
# What validation reads of a field

Validation goes by the kinds and options of fields and never looks at a default. The outline of a
field leaves the defaults out, also those of its parts, and has all fields for null nullable, as
they are unless a declaration says otherwise. A field whose parts for null are nullable finds the
same fault with a value as its outline does.
-/

namespace TypedDocument

/-- Options with what goes without saying: a field for null is nullable. -/
def FieldOptions.impliedBy (kind : FieldKind) (o : FieldOptions) : FieldOptions :=
  match kind with
  | .null => { o with nullable := true }
  | _ => o

mutual

/-- A field without defaults and with fields for null that are nullable. -/
def Field.outline : Field → Field
  | .mk kind options _ => .mk kind.outline (options.impliedBy kind) .unset
termination_by structural f => f

def FieldKind.outline : FieldKind → FieldKind
  | .list candidates least most => .list (Field.outlineAll candidates) least most
  | .dict d => .dict (Field.outlineEntries d)
  | kind => kind
termination_by structural kind => kind

def Field.outlineAll : List Field → List Field
  | [] => []
  | f :: rest => f.outline :: Field.outlineAll rest
termination_by structural fs => fs

def Field.outlineEntries : List (SchemaKey × Field) → List (SchemaKey × Field)
  | [] => []
  | (key, f) :: rest => (key, f.outline) :: Field.outlineEntries rest
termination_by structural es => es

end

/-- The schema of the outlines of its fields. -/
def Schema.outline (s : Schema) : Schema := { s with root := Field.outlineEntries s.root }

/-- Every field for null within a field is nullable. -/
def Field.NullsNullable (f : Field) : Prop :=
  ∀ g, f.Within g → g.kind = .null → g.nullable = true

/-- Every field for null within the fields of a dict is nullable. -/
def Dict.NullsNullable (d : Dict) : Prop := ∀ key f, (key, f) ∈ d → f.NullsNullable

variable {f : Field} {d : Dict} {kind : FieldKind} {v : Value} {partially : Bool}

theorem FieldOptions.impliedBy_of_nullable {o : FieldOptions}
    (h : kind = .null → o.nullable = true) : o.impliedBy kind = o := by
  cases kind with
  | null => rw [impliedBy, ← h rfl]
  | _ => rfl

theorem Field.outlineAll_eq_map (fs : List Field) : outlineAll fs = fs.map outline := by
  induction fs with
  | nil => rfl
  | cons f rest ih => rw [outlineAll, ih, List.map_cons]

theorem Field.outlineEntries_eq_map (d : Dict) :
    outlineEntries d = d.map fun e => (e.1, e.2.outline) := by
  induction d with
  | nil => rfl
  | cons e rest ih => rw [outlineEntries, ih, List.map_cons]

@[simp] theorem Field.kind_outline (f : Field) : f.outline.kind = f.kind.outline := by
  cases f
  rfl

theorem Field.nullsNullable_iff : f.NullsNullable ↔
    (f.kind = .null → f.nullable = true) ∧
      (∀ candidates least most, f.kind = .list candidates least most →
        ∀ c ∈ candidates, c.NullsNullable) ∧
      ∀ d : Dict, f.kind = .dict d → d.NullsNullable := by
  constructor
  · intro h
    refine ⟨h f (.self f), ?_, ?_⟩
    · exact fun _ _ _ hk c hc g hg => h g (.candidate hk hc hg)
    · exact fun _ hk _ c hc g hg => h g (.entry hk hc hg)
  · rintro ⟨hself, hcandidates, hentries⟩ g hg
    cases hg with
    | self => exact hself
    | candidate kind mem within => exact hcandidates _ _ _ kind _ mem g within
    | entry kind mem within => exact hentries _ kind _ _ mem g within

theorem Field.NullsNullable.nullable_outline (h : f.NullsNullable) :
    f.outline.nullable = f.nullable := by
  have hnull := h f (.self f)
  obtain ⟨kind, options, default⟩ := f
  exact congrArg FieldOptions.nullable (FieldOptions.impliedBy_of_nullable hnull)

@[simp] theorem Field.optional_outline (f : Field) : f.outline.optional = f.optional := by
  obtain ⟨kind, options, default⟩ := f
  cases kind <;> rfl

/-! ## Lookups -/

section Map

variable {κ α β : Type} [BEq κ] (r : α → β) (key : κ)

@[simp] theorem Entries.get?_map_snd (es : Entries κ α) :
    Entries.get? key (es.map fun e => (e.1, r e.2)) = (Entries.get? key es).map r := by
  induction es with
  | nil => rfl
  | cons e rest ih =>
    rw [List.map_cons, Entries.get?, Entries.get?, ih]
    split <;> rfl

@[simp] theorem Entries.contains_map_snd (es : Entries κ α) :
    Entries.contains key (es.map fun e => (e.1, r e.2)) = Entries.contains key es := by
  rw [Entries.contains, Entries.contains, Entries.get?_map_snd, Option.isSome_map]

end Map

@[simp] theorem Dict.field?_map (r : Field → Field) (d : Dict) (key : String) :
    Dict.field? (d.map fun e => (e.1, r e.2)) key = (d.field? key).map r := by
  simp only [field?, get?, Entries.get?_map_snd, Option.map_or]

@[simp] theorem Dict.field?_outlineEntries (d : Dict) (key : String) :
    Dict.field? (Field.outlineEntries d) key = (d.field? key).map Field.outline := by
  rw [Field.outlineEntries_eq_map, field?_map]

theorem Dict.NullsNullable.field {key : String} (h : d.NullsNullable)
    (hf : d.field? key = some f) : f.NullsNullable := by
  obtain ⟨k, hmem⟩ := exists_mem_of_field?_eq_some hf
  exact h k f hmem

/-! ## Checks of single values -/

@[simp] theorem FieldKind.offence?_outline (kind : FieldKind) (v : Value) :
    kind.outline.offence? v = kind.offence? v := by
  cases kind with
  | list | dict => cases v <;> rfl
  | _ => rfl

@[simp] theorem Dict.firstLack?_outlineEntries (d : Dict) (name : String) (keys : List String) :
    Dict.firstLack? (Field.outlineEntries d) name keys = d.firstLack? name keys := by
  have hlack : ∀ key f, Dict.lack? (Field.outlineEntries d) name keys key f.outline =
      d.lack? name keys key f := by
    intro key f
    simp only [lack?, Field.optional_outline, Field.outlineEntries_eq_map,
      Entries.contains_map_snd]
  have hfind : ∀ es : Dict, (Field.outlineEntries es).findSome?
      (fun e => Dict.lack? (Field.outlineEntries d) name keys e.1 e.2) =
        es.findSome? fun e => d.lack? name keys e.1 e.2 := by
    intro es
    rw [Field.outlineEntries_eq_map es, List.findSome?_map]
    exact congrArg (es.findSome? ·) (funext fun e => hlack e.1 e.2)
  exact hfind d

namespace Value

theorem validateItems_outlineAll {candidates : List Field} {name : String} {items : List Value}
    (h : ∀ v ∈ items, ∀ c ∈ candidates, ∀ element,
      v.validate partially c.outline element = v.validate partially c element) (index : Nat) :
    validateItems partially (Field.outlineAll candidates) name index items =
      validateItems partially candidates name index items := by
  induction items generalizing index with
  | nil => rfl
  | cons v rest ih =>
    have hany : ∀ element, (Field.outlineAll candidates).any
        (fun c => (v.validate partially c element).toBool) =
          candidates.any fun c => (v.validate partially c element).toBool := by
      intro element
      rw [Field.outlineAll_eq_map, List.any_map, Bool.eq_iff_iff, List.any_eq_true,
        List.any_eq_true]
      refine exists_congr fun c => and_congr_right fun hc => ?_
      rw [Function.comp_apply, h v List.mem_cons_self c hc]
    rw [validateItems, validateItems, hany,
      ih fun w hw => h w (List.mem_cons_of_mem v hw)]

theorem validateEntries_outlineEntries {name : String} {es : Mapping}
    (h : ∀ key v, (key, v) ∈ es → ∀ f, d.field? key = some f → ∀ path,
      v.validate partially f.outline path = v.validate partially f path) :
    validateEntries partially (Field.outlineEntries d) name es =
      validateEntries partially d name es := by
  induction es with
  | nil => rfl
  | cons e rest ih =>
    obtain ⟨key, v⟩ := e
    rw [validateEntries, validateEntries, Dict.field?_outlineEntries,
      ih fun k w hw => h k w (List.mem_cons_of_mem _ hw)]
    cases hf : d.field? key with
    | none => rfl
    | some f =>
      rw [Option.map_some]
      dsimp only
      rw [h key v List.mem_cons_self f hf]

/-- A field whose parts for null are nullable finds the same fault as its outline. -/
theorem validate_outline {v : Value} :
    ∀ {f : Field}, f.NullsNullable → ∀ name,
      v.validate partially f.outline name = v.validate partially f name := by
  induction v using containerInduction with
  | leaf v hv =>
    intro f hf name
    have hkind : f.outline.kind.offence? v = f.kind.offence? v := by
      rw [Field.kind_outline, FieldKind.offence?_outline]
    cases v with
    | null => rw [validate, validate, hf.nullable_outline]
    | list => cases hv
    | map => cases hv
    | _ => rw [validate, validate, hkind] <;> simp
  | list items ih =>
    intro f hf name
    rw [validate, validate, Field.kind_outline]
    cases hk : f.kind with
    | list candidates least most =>
      have hcandidates := (Field.nullsNullable_iff.mp hf).2.1 candidates least most hk
      have hitems : validateItems partially (Field.outlineAll candidates) name 0 items =
          validateItems partially candidates name 0 items :=
        validateItems_outlineAll (fun v hv c hc element => ih v hv (hcandidates c hc) element) 0
      have hempty : (Field.outlineAll candidates).isEmpty = candidates.isEmpty := by
        rw [Field.outlineAll_eq_map, List.isEmpty_map]
      rw [FieldKind.outline]
      dsimp only
      rw [hempty, hitems]
    | _ => rfl
  | map es ih =>
    intro f hf name
    rw [validate, validate, Field.kind_outline]
    cases hk : f.kind with
    | dict d =>
      have hd := (Field.nullsNullable_iff.mp hf).2.2 d hk
      have hentries : validateEntries partially (Field.outlineEntries d) name es =
          validateEntries partially d name es :=
        validateEntries_outlineEntries fun key v hv f hf path => ih key v hv (hd.field hf) path
      rw [FieldKind.outline]
      dsimp only
      rw [hentries, Dict.firstLack?_outlineEntries]
    | _ => rfl

end Value

theorem Schema.validate_outline {s : Schema} (h : s.root.NullsNullable) (doc : Value)
    (partially : Bool) : s.outline.validate doc partially = s.validate doc partially := by
  have hroot : (Field.dict s.root).NullsNullable := by
    refine Field.nullsNullable_iff.mpr ⟨fun hk => ?_, fun _ _ _ hk => ?_, fun d hk => ?_⟩
    · cases hk
    · cases hk
    · cases hk
      exact h
  cases doc with
  | null => rfl
  | _ => exact Value.validate_outline hroot ""

end TypedDocument
