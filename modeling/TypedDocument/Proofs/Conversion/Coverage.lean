import TypedDocument.Proofs.Conversion.Description
import TypedDocument.Proofs.Conversion.Steps

/-!
# Which values can be written out

Encoding fails at a key that no field governs, and it leaves a day, a time or a field in its
result where that does not meet a field that writes it. `Value.Covered` says of a value and the
field that encodes it that nothing of either kind happens at any depth, without saying in which
order the parts are encoded.
-/

namespace TypedDocument

namespace Value

/-- A field held as data whose lengths are machine words. -/
def FieldHasWordLengths : Value → Prop
  | field g => g.Everywhere FieldKind.HasWordLengths
  | _ => True

mutual

/-- A value is written out in full under a field: each part is of a type JSON has, or meets a
field that writes it. -/
inductive Covered : Value → Field → Prop where
  | dateTime {t : DateTime} {f : Field} (kind : f.kind = .dateTime ∨ f.kind = .date) :
    Covered (.dateTime t) f
  | date {d : Date} {f : Field} (kind : f.kind = .date) : Covered (.date d) f
  | time {t : Time} {f : Field} (kind : f.kind = .time) : Covered (.time t) f
  | field {g f : Field} (kind : f.kind = .field) : Covered (.field g) f
  | list {items : List Value} {f : Field} {candidates : List Field} {least : Nat}
    {most : Option Nat} (kind : f.kind = .list candidates least most)
    (elements : ∀ v ∈ items, ElementCovered v candidates) : Covered (.list items) f
  | map {es : Mapping} {f : Field} {d : Dict} (kind : f.kind = .dict d)
    (entries : ∀ key v, (key, v) ∈ es → EntryCovered d key v) : Covered (.map es) f
  /-- The field does not look into the value, and the value needs nothing. -/
  | unchanged {v : Value} {f : Field} (other : f.kind.isContainer = true → f.kind.accepts v = false)
    (plain : v.Everywhere HasJsonType) : Covered v f

/-- An element of a list is written out in full. -/
inductive ElementCovered : Value → List Field → Prop where
  | first {v : Value} {candidates : List Field} {c : Field}
    (first : v.firstCandidate? candidates = some c) (covered : Covered v c) :
    ElementCovered v candidates
  | passed {v : Value} {candidates : List Field} (none : v.firstCandidate? candidates = none)
    (plain : v.Everywhere HasJsonType) : ElementCovered v candidates

/-- An entry of a mapping is written out in full. -/
inductive EntryCovered : Dict → String → Value → Prop where
  | intro {d : Dict} {key : String} {v : Value} {f : Field} (governed : d.field? key = some f)
    (covered : Covered v f) : EntryCovered d key v

end

variable {f : Field} {v : Value}

/-- Encoding succeeds, and the result has a JSON form. -/
def WrittenOut (v : Value) (f : Field) : Prop := ∃ w, v.encode f = .ok w ∧ w.Everywhere HasJsonType

/-! ## Scalars -/

theorem writtenOut_iff_of_encode {w : Value} (h : v.encode f = .ok w) :
    v.WrittenOut f ↔ w.Everywhere HasJsonType := by
  simp [WrittenOut, h]

theorem accepts_leaf (hv : v.isContainer = false) {kind : FieldKind}
    (hk : kind.isContainer = true) :
    kind.accepts v = false := by
  cases kind <;> cases hk <;> cases v <;> first | rfl | cases hv

theorem covered_of_hasJsonType (hv : v.isContainer = false) (h : v.HasJsonType) : v.Covered f :=
  .unchanged (fun hk => accepts_leaf hv hk) ((everywhere_leaf_iff hv).mpr h)

/-- A scalar of a type that JSON lacks is covered only where it is written as a text. -/
theorem covered_leaf_iff (hv : v.isContainer = false) :
    v.Covered f ↔ v.HasJsonType ∨
      match v with
      | dateTime _ => f.kind = .dateTime ∨ f.kind = .date
      | date _ => f.kind = .date
      | time _ => f.kind = .time
      | field _ => f.kind = .field
      | _ => False := by
  constructor
  · intro h
    cases h with
    | dateTime kind => exact .inr kind
    | date kind => exact .inr kind
    | time kind => exact .inr kind
    | field kind => exact .inr kind
    | list => cases hv
    | map => cases hv
    | unchanged _ plain => exact .inl ((everywhere_leaf_iff hv).mp plain)
  · rintro (h | h)
    · exact covered_of_hasJsonType hv h
    · cases v with
      | dateTime => exact .dateTime h
      | date => exact .date h
      | time => exact .time h
      | field => exact .field h
      | _ => cases h

theorem writtenOut_leaf_iff (hv : v.isContainer = false) (hwords : v.FieldHasWordLengths) :
    v.WrittenOut f ↔ v.Covered f := by
  rw [covered_leaf_iff hv]
  cases v with
  | list => cases hv
  | map => cases hv
  | field g =>
    cases hk : f.kind with
    | field =>
      have hencode : (field g).encode f = .ok (ofJson g.describe) := by simp [encode, hk]
      simp [writtenOut_iff_of_encode hencode,
        everywhere_hasJsonType_ofJson (inRange_describe hwords)]
    | _ =>
      have hencode : (field g).encode f = .ok (field g) := by simp [encode, hk]
      simp [writtenOut_iff_of_encode hencode, everywhere_leaf_iff hv, HasJsonType]
  | _ =>
    have hencode := encode_scalar (f := f) hv (by simp)
    rw [writtenOut_iff_of_encode hencode,
      everywhere_leaf_iff (by rw [isContainer_encodeScalar, hv])]
    cases f.kind <;> simp [FieldKind.encodeScalar, HasJsonType]

/-! ## Lists and mappings -/

theorem covered_list_iff {items : List Value} {candidates : List Field} {least : Nat}
    {most : Option Nat} (hk : f.kind = .list candidates least most) :
    (list items).Covered f ↔ ∀ v ∈ items, v.ElementCovered candidates := by
  constructor
  · intro h
    cases h with
    | list kind elements =>
      rw [hk] at kind
      cases kind
      exact elements
    | unchanged other =>
      have haccepts := other (by rw [hk, FieldKind.isContainer])
      simp [hk, FieldKind.accepts] at haccepts
  · exact .list hk

theorem covered_map_iff {es : Mapping} {d : Dict} (hk : f.kind = .dict d) :
    (map es).Covered f ↔ ∀ key v, (key, v) ∈ es → ∃ g, d.field? key = some g ∧ v.Covered g := by
  constructor
  · intro h
    cases h with
    | map kind entries =>
      rw [hk] at kind
      cases kind
      intro key v hv
      obtain ⟨governed, covered⟩ := entries key v hv
      exact ⟨_, governed, covered⟩
    | unchanged other =>
      have haccepts := other (by rw [hk, FieldKind.isContainer])
      simp [hk, FieldKind.accepts] at haccepts
  · intro h
    apply Covered.map hk
    intro key v hv
    obtain ⟨g, governed, covered⟩ := h key v hv
    exact ⟨governed, covered⟩

theorem covered_list_of_kind_ne_iff {items : List Value}
    (hk : ∀ cs least most, f.kind ≠ .list cs least most) :
    (list items).Covered f ↔ (list items).Everywhere HasJsonType := by
  constructor
  · intro h
    cases h with
    | list kind => exact absurd kind (hk _ _ _)
    | unchanged _ plain => exact plain
  · apply Covered.unchanged
    intro _
    cases hkind : f.kind with
    | list => exact absurd hkind (hk _ _ _)
    | any => simp_all [FieldKind.isContainer]
    | _ => rfl

theorem covered_map_of_kind_ne_iff {es : Mapping} (hk : ∀ d, f.kind ≠ .dict d) :
    (map es).Covered f ↔ (map es).Everywhere HasJsonType := by
  constructor
  · intro h
    cases h with
    | map kind => exact absurd kind (hk _)
    | unchanged _ plain => exact plain
  · apply Covered.unchanged
    intro _
    cases hkind : f.kind with
    | dict => exact absurd hkind (hk _)
    | any => simp_all [FieldKind.isContainer]
    | _ => rfl

theorem elementCovered_iff {candidates : List Field} (ih : ∀ c, v.WrittenOut c ↔ v.Covered c) :
    v.ElementCovered candidates ↔
      ∃ w, v.encodeElement candidates = .ok w ∧ w.Everywhere HasJsonType := by
  rw [encodeElement]
  cases hfirst : v.firstCandidate? candidates with
  | some c =>
    show _ ↔ v.WrittenOut c
    rw [ih c]
    constructor
    · intro h
      cases h with
      | first first covered =>
        rw [hfirst] at first
        cases first
        exact covered
      | passed none => simp [hfirst] at none
    · exact .first hfirst
  | none =>
    constructor
    · intro h
      cases h with
      | first first => simp [hfirst] at first
      | passed _ plain => exact ⟨v, rfl, plain⟩
    · rintro ⟨w, hw, plain⟩
      cases hw
      exact .passed hfirst plain

theorem encodeItems_written_iff {items : List Value} {candidates : List Field}
    (ih : ∀ v ∈ items, ∀ c, v.WrittenOut c ↔ v.Covered c) :
    (∃ ws, encodeItems items candidates = .ok ws ∧ ∀ w ∈ ws, w.Everywhere HasJsonType) ↔
      ∀ v ∈ items, v.ElementCovered candidates := by
  induction items with
  | nil => simp [encodeItems]
  | cons v rest ihrest =>
    rw [List.forall_mem_cons, elementCovered_iff (ih v List.mem_cons_self),
      ← ihrest fun w hw => ih w (List.mem_cons_of_mem v hw)]
    simp only [encodeItems_cons_eq_ok_iff]
    constructor
    · rintro ⟨_, ⟨w, hw, ws, hws, rfl⟩, h⟩
      rw [List.forall_mem_cons] at h
      exact ⟨⟨w, hw, h.1⟩, ws, hws, h.2⟩
    · rintro ⟨⟨w, hw, h⟩, ws, hws, hs⟩
      exact ⟨w :: ws, ⟨w, hw, ws, hws, rfl⟩, List.forall_mem_cons.mpr ⟨h, hs⟩⟩

theorem encodeEntries_written_iff {es : Mapping} {d : Dict}
    (ih : ∀ key v, (key, v) ∈ es → ∀ g, v.WrittenOut g ↔ v.Covered g) :
    (∃ ws, encodeEntries es d = .ok ws ∧ ∀ key w, (key, w) ∈ ws → w.Everywhere HasJsonType) ↔
      ∀ key v, (key, v) ∈ es → ∃ g, d.field? key = some g ∧ v.Covered g := by
  induction es with
  | nil => simp [encodeEntries]
  | cons e rest ihrest =>
    obtain ⟨k, v⟩ := e
    have hrest := ihrest fun key w hw => ih key w (List.mem_cons_of_mem _ hw)
    simp only [encodeEntries_cons_eq_ok_iff, List.mem_cons, Prod.mk.injEq]
    constructor
    · rintro ⟨_, ⟨g, hg, w, hw, ws, hws, rfl⟩, h⟩ key u (⟨rfl, rfl⟩ | hu)
      · exact ⟨g, hg, (ih key u List.mem_cons_self g).mp ⟨w, hw, h key w List.mem_cons_self⟩⟩
      · exact hrest.mp ⟨ws, hws, fun key' w' h' => h key' w' (List.mem_cons_of_mem _ h')⟩ key u hu
    · intro h
      obtain ⟨g, hg, hcovered⟩ := h k v (.inl ⟨rfl, rfl⟩)
      obtain ⟨w, hw, hplain⟩ := (ih k v List.mem_cons_self g).mpr hcovered
      obtain ⟨ws, hws, hplains⟩ := hrest.mpr fun key u hu => h key u (.inr hu)
      refine ⟨(k, w) :: ws, ⟨g, hg, w, hw, ws, hws, rfl⟩, ?_⟩
      intro key u hu
      cases hu with
      | head => exact hplain
      | tail _ hu => exact hplains key u hu

/-- A list is written out if its elements are. -/
theorem writtenOut_list_iff {items : List Value} {candidates : List Field} {least : Nat}
    {most : Option Nat} (hk : f.kind = .list candidates least most) :
    (list items).WrittenOut f ↔
      ∃ ws, encodeItems items candidates = .ok ws ∧ ∀ w ∈ ws, w.Everywhere HasJsonType := by
  rw [WrittenOut, encode_list hk]
  constructor
  · rintro ⟨w, hw, hplain⟩
    obtain ⟨ws, hws, rfl⟩ := map_eq_ok_iff.mp hw
    exact ⟨ws, hws, (everywhere_list_iff.mp hplain).2⟩
  · rintro ⟨ws, hws, hplain⟩
    exact ⟨list ws, map_eq_ok_iff.mpr ⟨ws, hws, rfl⟩, everywhere_list_iff.mpr ⟨trivial, hplain⟩⟩

/-- A mapping is written out if its entries are. -/
theorem writtenOut_map_iff {es : Mapping} {d : Dict} (hk : f.kind = .dict d) :
    (map es).WrittenOut f ↔
      ∃ ws, encodeEntries es d = .ok ws ∧ ∀ key w, (key, w) ∈ ws → w.Everywhere HasJsonType := by
  rw [WrittenOut, encode_map hk]
  constructor
  · rintro ⟨w, hw, hplain⟩
    obtain ⟨ws, hws, rfl⟩ := map_eq_ok_iff.mp hw
    exact ⟨ws, hws, (everywhere_map_iff.mp hplain).2⟩
  · rintro ⟨ws, hws, hplain⟩
    exact ⟨map ws, map_eq_ok_iff.mpr ⟨ws, hws, rfl⟩, everywhere_map_iff.mpr ⟨trivial, hplain⟩⟩

/-- What is covered is what can be encoded with a result that has a JSON form. -/
theorem writtenOut_iff_covered {v : Value} :
    v.Everywhere FieldHasWordLengths → ∀ f, v.WrittenOut f ↔ v.Covered f := by
  induction v using containerInduction with
  | leaf v hv =>
    intro hwords f
    exact writtenOut_leaf_iff hv ((everywhere_leaf_iff hv).mp hwords)
  | list items ih =>
    intro hwords f
    have hitems : ∀ v ∈ items, ∀ c, v.WrittenOut c ↔ v.Covered c := by
      intro v hv
      exact ih v hv ((everywhere_list_iff.mp hwords).2 v hv)
    rcases f.kind.eq_list_or_ne with ⟨candidates, least, most, hk⟩ | hne
    · rw [covered_list_iff hk, writtenOut_list_iff hk, encodeItems_written_iff hitems]
    · rw [covered_list_of_kind_ne_iff hne, writtenOut_iff_of_encode (encode_list_of_kind_ne hne)]
  | map es ih =>
    intro hwords f
    have hentries : ∀ key v, (key, v) ∈ es → ∀ g, v.WrittenOut g ↔ v.Covered g := by
      intro key v hv
      exact ih key v hv ((everywhere_map_iff.mp hwords).2 key v hv)
    rcases f.kind.eq_dict_or_ne with ⟨d, hk⟩ | hne
    · rw [covered_map_iff hk, writtenOut_map_iff hk, encodeEntries_written_iff hentries]
    · rw [covered_map_of_kind_ne_iff hne, writtenOut_iff_of_encode (encode_map_of_kind_ne hne)]

end Value

end TypedDocument
