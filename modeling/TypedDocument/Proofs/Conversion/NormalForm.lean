import TypedDocument.Proofs.Calendar.RoundTrip
import TypedDocument.Proofs.Document.Json
import TypedDocument.Proofs.Field.Nesting
import TypedDocument.Proofs.Validation.Conformance

/-!
# The normal form of a value under a field

What is written out and read back is not always the same: fractions of a second are gone, a day
with a time is a day where the field asks for one, and integers are narrowed where no field says
how wide they are. `Value.normalised` makes exactly these changes. It leaves the shape of a
value alone, and a value that conforms still does.
-/

namespace TypedDocument

/-- Kinds whose encoded values say all that decoding has to know: no meta fields, and no choice
between candidates. -/
def FieldKind.Reversible : FieldKind → Prop
  | field => False
  | list candidates _ _ => candidates.length ≤ 1
  | _ => True

instance : DecidablePred FieldKind.Reversible
  | .field => inferInstanceAs (Decidable False)
  | .list candidates _ _ => inferInstanceAs (Decidable (candidates.length ≤ 1))
  | .any | .null | .bool | .int _ | .long _ | .float _ | .text _ | .dateTime | .date | .time |
    .dict _ => inferInstanceAs (Decidable True)

theorem FieldKind.Reversible.eq_nil_or_singleton {candidates : List Field} {least : Nat}
    {most : Option Nat} (h : (FieldKind.list candidates least most).Reversible) :
    candidates = [] ∨ ∃ c, candidates = [c] := by
  cases candidates with
  | nil => exact .inl rfl
  | cons c rest =>
    cases rest with
    | nil => exact .inr ⟨c, rfl⟩
    | cons => simp [Reversible] at h

/-- What encoding and decoding under a kind make of a value that is not taken apart. -/
def FieldKind.normaliseScalar : FieldKind → Value → Value
  | any, v => v.narrowed
  | dateTime, .dateTime t => .dateTime t.wholeSeconds
  | date, .dateTime t => .date t.date
  | time, .time t => .time t.wholeSeconds
  | _, v => v

namespace Value

mutual

/-- The form in which a value comes back that is written out and read under a field. -/
def normalised : Value → Field → Value
  | list items, f =>
    match f.kind with
    | .list candidates _ _ => list (normalisedItems items candidates)
    | kind => kind.normaliseScalar (list items)
  | map es, f =>
    match f.kind with
    | .dict d => map (normalisedEntries es d)
    | kind => kind.normaliseScalar (map es)
  | v, f => f.kind.normaliseScalar v
termination_by structural v => v

/-- Elements take the form of the first candidate; without candidates only integers are narrowed. -/
def normalisedItems : List Value → List Field → List Value
  | [], _ => []
  | v :: rest, candidates =>
    (match candidates with
      | [] => narrowed v
      | c :: _ => normalised v c) :: normalisedItems rest candidates
termination_by structural items => items

def normalisedEntries : List (String × Value) → Dict → List (String × Value)
  | [], _ => []
  | (key, v) :: rest, d =>
    (key, match Dict.field? d key with
      | some f => normalised v f
      | none => v) :: normalisedEntries rest d
termination_by structural entries => entries

end

mutual

/-- The lists and mappings of a value with everything else blotted out: how long the lists are,
and which keys the mappings have in which order. -/
def outline : Value → Value
  | list items => list (outlineItems items)
  | map es => map (outlineEntries es)
  | _ => null
termination_by structural v => v

def outlineItems : List Value → List Value
  | [] => []
  | v :: rest => outline v :: outlineItems rest
termination_by structural items => items

def outlineEntries : List (String × Value) → List (String × Value)
  | [] => []
  | (key, v) :: rest => (key, outline v) :: outlineEntries rest
termination_by structural entries => entries

end

variable {partially : Bool} {f : Field} {v : Value}

/-! ## Narrowing -/

@[simp] theorem outline_narrowed : v.narrowed.outline = v.outline := by
  induction v using containerInduction with
  | leaf v hv =>
    cases v with
    | long i =>
      rw [narrowed]
      split <;> rfl
    | list => cases hv
    | map => cases hv
    | _ => rfl
  | list items ih =>
    simp only [narrowed, outline, list.injEq]
    induction items with
    | nil => rfl
    | cons v rest ihrest =>
      rw [narrowedItems, outlineItems, outlineItems, ih v List.mem_cons_self,
        ihrest fun w hw => ih w (List.mem_cons_of_mem v hw)]
  | map es ih =>
    simp only [narrowed, outline, map.injEq]
    induction es with
    | nil => rfl
    | cons e rest ihrest =>
      obtain ⟨key, v⟩ := e
      rw [narrowedEntries, outlineEntries, outlineEntries, ih key v List.mem_cons_self,
        ihrest fun k w hw => ih k w (List.mem_cons_of_mem _ hw)]

/-! ## The normal form of each kind of value -/

@[simp] theorem normalised_of_any (hk : f.kind = .any) : v.normalised f = v.narrowed := by
  cases v <;> simp [normalised, hk, FieldKind.normaliseScalar]

@[simp] theorem normalised_leaf (hv : v.isContainer = false) :
    v.normalised f = f.kind.normaliseScalar v := by
  cases v with
  | list => cases hv
  | map => cases hv
  | _ => rfl

@[simp] theorem isContainer_narrowed : v.narrowed.isContainer = v.isContainer := by
  cases v with
  | long i =>
    rw [narrowed]
    split <;> rfl
  | _ => rfl

@[simp] theorem narrowed_eq_null_iff : v.narrowed = .null ↔ v = .null := by
  cases v with
  | long i =>
    rw [narrowed]
    split <;> simp
  | _ => simp [narrowed]

@[simp] theorem normaliseScalar_eq_null_iff (kind : FieldKind) :
    kind.normaliseScalar v = .null ↔ v = .null := by
  cases kind with
  | any => exact narrowed_eq_null_iff
  | _ => cases v <;> simp [FieldKind.normaliseScalar]

@[simp] theorem normalised_null : null.normalised f = null := by
  rw [normalised_leaf rfl, normaliseScalar_eq_null_iff]

theorem normalised_list {items : List Value} {candidates : List Field} {least : Nat}
    {most : Option Nat} (hk : f.kind = .list candidates least most) :
    (list items).normalised f = list (normalisedItems items candidates) := by
  simp [normalised, hk]

theorem normalised_map {es : Mapping} {d : Dict} (hk : f.kind = .dict d) :
    (map es).normalised f = map (normalisedEntries es d) := by
  simp [normalised, hk]

/-- A list under a field of another kind is treated as a scalar would be. -/
theorem normalised_list_of_kind_ne {items : List Value}
    (hk : ∀ cs least most, f.kind ≠ .list cs least most) :
    (list items).normalised f = f.kind.normaliseScalar (list items) := by
  rw [normalised]
  split
  · next h => exact absurd h (hk _ _ _)
  · rfl

theorem normalised_map_of_kind_ne {es : Mapping} (hk : ∀ d, f.kind ≠ .dict d) :
    (map es).normalised f = f.kind.normaliseScalar (map es) := by
  rw [normalised]
  split
  · next h => exact absurd h (hk _)
  · rfl

/-! ## The shape stays -/

@[simp] theorem outline_normaliseScalar (kind : FieldKind) :
    (kind.normaliseScalar v).outline = v.outline := by
  cases kind with
  | any => exact outline_narrowed
  | _ => cases v <;> rfl

@[simp] theorem outlineItems_normalisedItems {items : List Value} {candidates : List Field}
    (ih : ∀ v ∈ items, ∀ f, (v.normalised f).outline = v.outline) :
    outlineItems (normalisedItems items candidates) = outlineItems items := by
  induction items with
  | nil => rfl
  | cons v rest ihrest =>
    have hrest := ihrest fun w hw => ih w (List.mem_cons_of_mem v hw)
    cases candidates with
    | nil => rw [normalisedItems, outlineItems, outlineItems, outline_narrowed, hrest]
    | cons c cs =>
      rw [normalisedItems, outlineItems, outlineItems, ih v List.mem_cons_self c, hrest]

@[simp] theorem outlineEntries_normalisedEntries {es : Mapping} {d : Dict}
    (ih : ∀ key v, (key, v) ∈ es → ∀ f, (v.normalised f).outline = v.outline) :
    outlineEntries (normalisedEntries es d) = outlineEntries es := by
  induction es with
  | nil => rfl
  | cons e rest ihrest =>
    obtain ⟨key, v⟩ := e
    have hrest := ihrest fun k w hw => ih k w (List.mem_cons_of_mem _ hw)
    rw [normalisedEntries, outlineEntries, outlineEntries, hrest]
    cases Dict.field? d key with
    | none => rfl
    | some f => rw [ih key v List.mem_cons_self f]

/-- Lists keep their lengths and mappings their keys, in the same order. -/
@[simp] theorem outline_normalised {v : Value} : ∀ f, (v.normalised f).outline = v.outline := by
  induction v using containerInduction with
  | leaf v hv =>
    intro f
    rw [normalised_leaf hv, outline_normaliseScalar]
  | list items ih =>
    intro f
    rcases f.kind.eq_list_or_ne with ⟨candidates, least, most, hk⟩ | hne
    · rw [normalised_list hk, outline, outline, outlineItems_normalisedItems ih]
    · rw [normalised_list_of_kind_ne hne, outline_normaliseScalar]
  | map es ih =>
    intro f
    rcases f.kind.eq_dict_or_ne with ⟨d, hk⟩ | hne
    · rw [normalised_map hk, outline, outline, outlineEntries_normalisedEntries ih]
    · rw [normalised_map_of_kind_ne hne, outline_normaliseScalar]

/-! ## The normal form conforms as well -/

@[simp] theorem length_normalisedItems (items : List Value) (candidates : List Field) :
    (normalisedItems items candidates).length = items.length := by
  induction items with
  | nil => rfl
  | cons v rest ih =>
    cases candidates <;> rw [normalisedItems, List.length_cons, ih, List.length_cons]

@[simp] theorem keys_normalisedEntries (es : Mapping) (d : Dict) :
    Entries.keys (normalisedEntries es d) = Entries.keys es := by
  induction es with
  | nil => rfl
  | cons e rest ih =>
    obtain ⟨key, v⟩ := e
    simp only [Entries.keys, List.map_cons] at ih ⊢
    rw [normalisedEntries, List.map_cons, ih]

theorem mem_normalisedItems {w : Value} {items : List Value} {c : Field} {cs : List Field}
    (h : w ∈ normalisedItems items (c :: cs)) : ∃ v ∈ items, w = v.normalised c := by
  induction items with
  | nil => simp [normalisedItems] at h
  | cons v rest ih =>
    rw [normalisedItems, List.mem_cons] at h
    rcases h with rfl | h
    · exact ⟨v, List.mem_cons_self, rfl⟩
    · obtain ⟨u, hu, rfl⟩ := ih h
      exact ⟨u, List.mem_cons_of_mem v hu, rfl⟩

theorem mem_normalisedEntries {key : String} {w : Value} {es : Mapping} {d : Dict}
    (h : (key, w) ∈ normalisedEntries es d) :
    ∃ v, (key, v) ∈ es ∧ ∀ f, d.field? key = some f → w = v.normalised f := by
  induction es with
  | nil => simp [normalisedEntries] at h
  | cons e rest ih =>
    obtain ⟨k, v⟩ := e
    rw [normalisedEntries, List.mem_cons] at h
    rcases h with h | h
    · cases h
      refine ⟨v, List.mem_cons_self, ?_⟩
      intro f hf
      rw [hf]
    · obtain ⟨u, hu, hform⟩ := ih h
      exact ⟨u, List.mem_cons_of_mem _ hu, hform⟩

@[simp] theorem accepts_normaliseScalar {kind : FieldKind} (h : kind.accepts v = true) :
    kind.accepts (kind.normaliseScalar v) = true := by
  cases kind <;> cases v <;> first | rfl | cases h

theorem rulesHold_normaliseScalar {kind : FieldKind} (h : kind.RulesHold v) :
    kind.RulesHold (kind.normaliseScalar v) := by
  cases kind <;> cases v <;> exact h

/-- The normal form of a value of any kind that is not taken apart. -/
theorem conforms_normaliseScalar (h : Conforms partially v f) (kind : f.kind.isContainer = false) :
    Conforms partially (f.kind.normaliseScalar v) f := by
  cases h with
  | null h =>
    rw [(normaliseScalar_eq_null_iff f.kind).mpr rfl]
    exact .null h
  | plain present _ accepted rules =>
    have hne : f.kind.normaliseScalar v ≠ .null :=
      fun hn => present ((normaliseScalar_eq_null_iff f.kind).mp hn)
    exact .plain hne kind (accepts_normaliseScalar accepted) (rulesHold_normaliseScalar rules)
  | list hk => simp [hk, FieldKind.isContainer] at kind
  | map hk => simp [hk, FieldKind.isContainer] at kind

/-- The normal form of a conforming value conforms. -/
theorem conforms_normalised {v : Value} :
    ∀ f : Field, f.Everywhere FieldKind.Reversible → Conforms partially v f →
      Conforms partially (v.normalised f) f := by
  induction v using containerInduction with
  | leaf v hv =>
    intro f hf h
    rw [normalised_leaf hv]
    have hconforms := h
    cases h with
    | null h =>
      rw [(normaliseScalar_eq_null_iff f.kind).mpr rfl]
      exact hconforms
    | plain _ kind => exact conforms_normaliseScalar hconforms kind
    | list => cases hv
    | map => cases hv
  | list items ih =>
    intro f hf h
    rcases f.kind.eq_list_or_ne with ⟨candidates, least, most, hk⟩ | hne
    · rw [normalised_list hk, conforms_list_iff hk, length_normalisedItems]
      obtain ⟨hlength, helements⟩ := (conforms_list_iff hk).mp h
      refine ⟨hlength, ?_⟩
      intro hne w hw
      have hkind := hf.kind
      rw [hk] at hkind
      rcases hkind.eq_nil_or_singleton with rfl | ⟨c, rfl⟩
      · exact absurd rfl hne
      · obtain ⟨v, hv, rfl⟩ := mem_normalisedItems hw
        obtain ⟨c', hc', hconforms⟩ := helements hne v hv
        cases List.mem_singleton.mp hc'
        exact ⟨c, List.mem_cons_self, ih v hv c (hf.candidate hk List.mem_cons_self) hconforms⟩
    · have hcontainer : f.kind.isContainer = false := by
        cases h with
        | plain _ kind => exact kind
        | list kind => exact absurd kind (hne _ _ _)
      rw [normalised_list_of_kind_ne hne]
      exact conforms_normaliseScalar h hcontainer
  | map es ih =>
    intro f hf h
    rcases f.kind.eq_dict_or_ne with ⟨d, hk⟩ | hne
    · rw [normalised_map hk, conforms_map_iff hk, keys_normalisedEntries]
      obtain ⟨hentries, hcomplete⟩ := (conforms_map_iff hk).mp h
      refine ⟨?_, hcomplete⟩
      intro key w hw
      obtain ⟨v, hv, hform⟩ := mem_normalisedEntries hw
      obtain ⟨g, hg, hconforms⟩ := hentries key v hv
      rw [hform g hg]
      exact ⟨g, hg, ih key v hv g ((hf.dict hk).field hg) hconforms⟩
    · have hcontainer : f.kind.isContainer = false := by
        cases h with
        | plain _ kind => exact kind
        | map kind => exact absurd kind (hne _)
      rw [normalised_map_of_kind_ne hne]
      exact conforms_normaliseScalar h hcontainer

end Value

end TypedDocument
