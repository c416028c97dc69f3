import TypedDocument.Document.Basic

/-!
# Induction over documents

Documents nest through lists and mappings only; fields held as data are leaves. A property of
all documents follows from the leaves, from lists whose elements have it, and from mappings
whose values have it. `Value.Everywhere` says that a condition holds for a value and all its
parts.
-/

namespace TypedDocument.Value

/-- Whether a value holds further values. -/
def isContainer : Value → Bool
  | list _ => true
  | map _ => true
  | _ => false

/-- Whether a value has no parts at all: neither further values nor those of a field. -/
def isScalar : Value → Bool
  | list _ => false
  | map _ => false
  | field _ => false
  | _ => true

theorem isContainer_of_isScalar {v : Value} (h : v.isScalar = true) : v.isContainer = false := by
  cases v with
  | list => cases h
  | map => cases h
  | _ => rfl

@[simp] theorem map?_eq_some_iff {v : Value} {es : Mapping} : v.map? = some es ↔ v = map es := by
  cases v <;> simp [map?]

theorem sizeOf_lt_list {v : Value} {items : List Value} (h : v ∈ items) :
    sizeOf v < sizeOf (list items) := by
  have hmem := List.sizeOf_lt_of_mem h
  simp only [list.sizeOf_spec]
  omega

theorem sizeOf_lt_map {key : String} {v : Value} {es : Mapping} (h : (key, v) ∈ es) :
    sizeOf v < sizeOf (map es) := by
  have hmem := List.sizeOf_lt_of_mem h
  simp only [Prod.mk.sizeOf_spec] at hmem
  simp only [map.sizeOf_spec]
  omega

/-- The induction principle of documents. The recursor of the type itself also goes into fields
and their defaults, which no function on documents enters. -/
@[elab_as_elim]
theorem containerInduction {motive : Value → Prop}
    (leaf : ∀ v : Value, v.isContainer = false → motive v)
    (list : ∀ items : List Value, (∀ v ∈ items, motive v) → motive (list items))
    (map : ∀ es : Mapping, (∀ key v, (key, v) ∈ es → motive v) → motive (map es)) (v : Value) :
    motive v := by
  match v with
  | .list items => exact list items fun w _ => containerInduction leaf list map w
  | .map es => exact map es fun key w _ => containerInduction leaf list map w
  | .null | .bool _ | .int _ | .long _ | .float _ | .text _ | .dateTime _ | .date _ | .time _ |
    .field _ =>
    exact leaf _ rfl
termination_by sizeOf v
decreasing_by
  · exact sizeOf_lt_list ‹_›
  · exact sizeOf_lt_map ‹_›

/-- The induction principle for what enters a value through mappings only. -/
@[elab_as_elim]
theorem mappingInduction {motive : Value → Prop} (plain : ∀ v : Value, v.map? = none → motive v)
    (map : ∀ es : Mapping, (∀ key v, (key, v) ∈ es → motive v) → motive (map es)) (v : Value) :
    motive v := by
  induction v using containerInduction with
  | leaf v hv =>
    refine plain v ?_
    cases v with
    | map => cases hv
    | _ => rfl
  | list items => exact plain _ rfl
  | map es ih => exact map es ih

/-- Induction over mappings within mappings. Lists are not entered. -/
@[elab_as_elim]
theorem nestedInduction {motive : Mapping → Prop}
    (step : ∀ es : Mapping, (∀ key sub, (key, Value.map sub) ∈ es → motive sub) → motive es)
    (es : Mapping) : motive es := by
  have hvalue : ∀ v : Value, ∀ sub, v = .map sub → motive sub := by
    intro v
    induction v using containerInduction with
    | leaf v hv =>
      rintro sub rfl
      cases hv
    | list items =>
      rintro sub h
      cases h
    | map es ih =>
      rintro sub h
      cases h
      exact step es fun key sub hsub => ih key _ hsub sub rfl
  exact hvalue (.map es) es rfl

/-- The second value is the first one or a part of it. -/
inductive Within : Value → Value → Prop where
  | self (v : Value) : Within v v
  | item {items : List Value} {v w : Value} (mem : v ∈ items) (within : Within v w) :
    Within (.list items) w
  | entry {es : Mapping} {key : String} {v w : Value} (mem : (key, v) ∈ es) (within : Within v w) :
    Within (.map es) w

theorem Within.trans {u v w : Value} (huv : u.Within v) (hvw : v.Within w) : u.Within w := by
  induction huv with
  | self => exact hvw
  | item mem _ ih => exact .item mem (ih hvw)
  | entry mem _ ih => exact .entry mem (ih hvw)

/-- A condition holds for a value and all its parts. -/
def Everywhere (p : Value → Prop) (v : Value) : Prop := ∀ w, v.Within w → p w

variable {p : Value → Prop}

theorem everywhere_leaf_iff {v : Value} (hv : v.isContainer = false) : v.Everywhere p ↔ p v := by
  constructor
  · exact fun h => h v (.self v)
  · rintro h w hw
    cases hw with
    | self => exact h
    | item => cases hv
    | entry => cases hv

@[simp] theorem everywhere_list_iff {items : List Value} :
    (Value.list items).Everywhere p ↔ p (.list items) ∧ ∀ v ∈ items, v.Everywhere p := by
  constructor
  · exact fun h => ⟨h _ (.self _), fun v hv w hw => h w (.item hv hw)⟩
  · rintro ⟨hlist, hitems⟩ w hw
    cases hw with
    | self => exact hlist
    | item mem within => exact hitems _ mem w within

@[simp] theorem everywhere_map_iff {es : Mapping} :
    (Value.map es).Everywhere p ↔ p (.map es) ∧ ∀ key v, (key, v) ∈ es → v.Everywhere p := by
  constructor
  · exact fun h => ⟨h _ (.self _), fun key v hv w hw => h w (.entry hv hw)⟩
  · rintro ⟨hmap, hentries⟩ w hw
    cases hw with
    | self => exact hmap
    | entry mem within => exact hentries _ _ mem w within

/-- A mapping within a value that keys alone lead to. -/
inductive Reaches : Value → Mapping → Prop where
  | self (es : Mapping) : Reaches (.map es) es
  | entry {es sub : Mapping} {key : String} {v : Value} (mem : (key, v) ∈ es)
    (reaches : Reaches v sub) : Reaches (.map es) sub

end TypedDocument.Value
