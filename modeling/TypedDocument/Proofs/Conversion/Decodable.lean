import TypedDocument.Proofs.Calendar.RoundTrip
import TypedDocument.Proofs.Conversion.Steps
import TypedDocument.Proofs.Document.Raw
import TypedDocument.Proofs.Validation.Outline

/-!
# What can be decoded

Decoding fails for three reasons only: a text under a field for days or times that is none, a key
that no field governs, and a declaration under a meta field that cannot be read. Lists never fail,
since an element that no candidate can decode stays as it is. Values that were decoded or that were
found valid have no such text where they are written, so what they are written as can be decoded if
the declarations of the fields they hold can be read.
-/

namespace TypedDocument

/-- Whether a kind reads texts. -/
def FieldKind.readsTexts : FieldKind → Bool
  | dateTime | date | time => true
  | _ => false

namespace Value

/-- A value that a field can decode. -/
def Decodes (declare : DeclarationReader) (v : Value) (f : Field) : Prop :=
  ∃ w, v.decodeWith declare f = .ok w

variable {declare : DeclarationReader} {f g : Field} {v w : Value} {es : Mapping} {d : Dict}

/-! ## By form -/

theorem decodes_leaf (hv : v.isContainer = false)
    (h : f.kind.readsTexts = true → ∀ s, v ≠ .text s) : Decodes declare v f := by
  rw [Decodes, decodeWith_leaf hv]
  cases hk : f.kind with
  | dateTime | date | time =>
    rw [hk] at h
    cases v with
    | text s => exact absurd rfl (h rfl s)
    | _ => exact ⟨_, rfl⟩
  | _ => cases v <;> exact ⟨_, rfl⟩

theorem decodes_list (items : List Value) : Decodes declare (list items) f := by
  rw [Decodes, decodeWith]
  cases f.kind <;> exact ⟨_, rfl⟩

theorem decodes_map_of_dict (hk : f.kind = .dict d) :
    Decodes declare (map es) f ↔
      ∀ key v, (key, v) ∈ es → ∃ g, d.field? key = some g ∧ Decodes declare v g := by
  have hentry : ∀ key v, (∃ w, decodeEntry declare d key v = .ok w) ↔
      ∃ g, d.field? key = some g ∧ Decodes declare v g := by
    intro key v
    simp only [decodeEntry_eq_ok_iff, Decodes]
    constructor
    · rintro ⟨w, g, hg, hw⟩
      exact ⟨g, hg, w, hw⟩
    · rintro ⟨g, hg, w, hw⟩
      exact ⟨w, g, hg, hw⟩
  simp only [← hentry]
  rw [← Entries.traverse_ok_iff, ← decodeEntries_eq_traverse, Decodes, decodeWith_map hk]
  simp only [map_eq_ok_iff]
  constructor
  · rintro ⟨_, ws, hws, -⟩
    exact ⟨ws, hws⟩
  · rintro ⟨ws, hws⟩
    exact ⟨_, ws, hws, rfl⟩

theorem decodes_map_of_field (hk : f.kind = .field) :
    Decodes declare (map es) f ↔ ∃ j, (map es).toJson = .ok j ∧ ∃ g, declare j = .ok g := by
  simp only [Decodes, decodeWith_map_of_field_eq_ok_iff hk]
  constructor
  · rintro ⟨_, j, hj, g, hg, -⟩
    exact ⟨j, hj, g, hg⟩
  · rintro ⟨j, hj, g, hg⟩
    exact ⟨_, j, hj, g, hg, rfl⟩

theorem decodes_map_of_kind_ne (hdict : ∀ d, f.kind ≠ .dict d) (hfield : f.kind ≠ .field) :
    Decodes declare (map es) f :=
  ⟨_, decodeWith_map_of_kind_ne hdict hfield⟩

/-! ## What decoding does not depend on -/

@[simp] theorem decodeScalar_outline (kind : FieldKind) (hv : v.isContainer = false) :
    kind.outline.decodeScalar v = kind.decodeScalar v := by
  cases kind with
  | list | dict => cases v <;> rfl
  | _ => rfl

/-- Whether a value can be decoded depends on the outline of the field. -/
theorem decodes_outline_iff {v : Value} :
    ∀ {f : Field}, Decodes declare v f.outline ↔ Decodes declare v f := by
  induction v using containerInduction with
  | leaf v hv =>
    intro f
    rw [Decodes, Decodes, decodeWith_leaf hv, decodeWith_leaf hv, Field.kind_outline,
      decodeScalar_outline _ hv]
  | list items => exact fun {f} => iff_of_true (decodes_list items) (decodes_list items)
  | map es ih =>
    intro f
    cases hk : f.kind with
    | dict d =>
      have houtline : f.outline.kind = .dict (Field.outlineEntries d) := by
        rw [Field.kind_outline, hk, FieldKind.outline]
      rw [decodes_map_of_dict houtline, decodes_map_of_dict hk]
      refine forall₃_congr fun key v hv => ?_
      rw [Dict.field?_outlineEntries]
      constructor
      · rintro ⟨_, houtlined, hdecodes⟩
        obtain ⟨g, hg, rfl⟩ := Option.map_eq_some_iff.mp houtlined
        exact ⟨g, hg, (ih key v hv).mp hdecodes⟩
      · rintro ⟨g, hg, hdecodes⟩
        exact ⟨g.outline, by rw [hg, Option.map_some], (ih key v hv).mpr hdecodes⟩
    | field =>
      have houtline : f.outline.kind = .field := by
        rw [Field.kind_outline, hk]
        rfl
      rw [decodes_map_of_field houtline, decodes_map_of_field hk]
    | _ =>
      refine iff_of_true (decodes_map_of_kind_ne ?_ ?_) (decodes_map_of_kind_ne ?_ ?_) <;>
        simp [hk, FieldKind.outline]

theorem decodes_congr_outline (h : f.kind.outline = g.kind.outline) :
    Decodes declare v f ↔ Decodes declare v g := by
  have hkind : f.outline.kind = g.outline.kind := by rw [Field.kind_outline, h, Field.kind_outline]
  rw [← decodes_outline_iff, ← decodes_outline_iff (f := g), Decodes, Decodes,
    decodeWith_of_kind_eq hkind]

/-- What can be decoded can be decoded after it has gone through JSON. -/
theorem decodes_ofJson {v : Value} :
    ∀ {f : Field} {j : Json}, v.toJson = .ok j → Decodes declare v f →
      Decodes declare (ofJson j) f := by
  induction v using containerInduction with
  | leaf v hv =>
    intro f j hj h
    have hplain : ∀ u : Value, u.isContainer = false → (∀ s, u ≠ .text s) → Decodes declare u f :=
      fun u hu hs => decodes_leaf hu fun _ => hs
    cases v with
    | text s =>
      cases hj
      exact h
    | null | bool =>
      cases hj
      exact h
    | int i =>
      cases hj
      rw [ofJson, ofInteger_toInt32]
      exact hplain _ rfl (by simp)
    | long i =>
      cases hj
      rw [ofJson, ofInteger_toInt64, narrowed]
      split
      · exact hplain _ rfl (by simp)
      · exact hplain _ rfl (by simp)
    | float x =>
      rw [toJson] at hj
      split at hj
      · cases hj
        exact h
      · cases hj
    | list => cases hv
    | map => cases hv
    | dateTime | date | time | field => cases hj
  | list items =>
    intro f j hj _
    obtain ⟨js, -, rfl⟩ := toJson_list_eq_ok_iff.mp hj
    rw [ofJson]
    exact decodes_list _
  | map es ih =>
    intro f j hj h
    have hstable := Json.stable_of_toJson j hj
    obtain ⟨ms, hms, rfl⟩ := toJson_map_eq_ok_iff.mp hj
    rw [Json.Stable, ofJson] at hstable
    rw [ofJson]
    cases hk : f.kind with
    | dict d =>
      rw [decodes_map_of_dict hk] at h ⊢
      intro key w hw
      obtain ⟨i, hi, rfl⟩ := mem_ofJsonMembers key w hw
      obtain ⟨v, hv, hvi⟩ := mem_toJsonMembers hms key i hi
      obtain ⟨g, hg, hdecodes⟩ := h key v hv
      exact ⟨g, hg, ih key v hv hvi hdecodes⟩
    | field =>
      rw [decodes_map_of_field hk] at h ⊢
      obtain ⟨_, hj', hdeclared⟩ := h
      cases hj.symm.trans hj'
      exact ⟨_, hstable, hdeclared⟩
    | _ => refine decodes_map_of_kind_ne ?_ ?_ <;> simp [hk]

/-! ## What was written -/

/-- A condition on values and the fields they stand under, with which a value can be decoded once
it is written: no text stands under a field that reads texts and no mapping under a meta field, the
fields that are held can be read from their declarations, and the entries of a mapping are in the
same position as the mapping is. -/
structure Returns (declare : DeclarationReader) (p : Value → Field → Prop) : Prop where
  text : ∀ s f, p (.text s) f → f.kind.readsTexts = false
  field : ∀ g f, p (.field g) f → f.kind = .field → Decodes declare (ofJson g.describe) f
  map : ∀ es f, p (.map es) f → f.kind ≠ .field
  entry : ∀ es f (d : Dict), p (.map es) f → f.kind = .dict d →
    ∀ key v, (key, v) ∈ es → ∀ g, d.field? key = some g → p v g

/-- Encoding leaves a scalar as it is or makes a text of it that can be read. -/
theorem encodeScalar_cases (kind : FieldKind) (v : Value) :
    kind.encodeScalar v = v ∨
      ∃ s w, kind.encodeScalar v = .text s ∧ kind.decodeScalar (.text s) = .ok w := by
  cases kind with
  | dateTime =>
    cases v with
    | dateTime t =>
      refine .inr ⟨t.text, .dateTime t.wholeSeconds, rfl, ?_⟩
      rw [FieldKind.decodeScalar, DateTime.read_text, FieldKind.readText]
    | _ => exact .inl rfl
  | date =>
    have hread : ∀ d : Date, FieldKind.date.decodeScalar (.text d.text) = .ok (.date d) := by
      intro d
      rw [FieldKind.decodeScalar, Date.read_text, FieldKind.readText]
    cases v with
    | date d => exact .inr ⟨d.text, _, rfl, hread d⟩
    | dateTime t => exact .inr ⟨t.date.text, _, rfl, hread t.date⟩
    | _ => exact .inl rfl
  | time =>
    cases v with
    | time t =>
      refine .inr ⟨t.text, .time t.wholeSeconds, rfl, ?_⟩
      rw [FieldKind.decodeScalar, Time.read_text, FieldKind.readText]
    | _ => exact .inl rfl
  | _ => exact .inl rfl

theorem decodes_encodeScalar (hv : v.isContainer = false)
    (h : ∀ s, v = .text s → f.kind.readsTexts = false) :
    Decodes declare (f.kind.encodeScalar v) f := by
  rcases encodeScalar_cases f.kind v with hsame | ⟨s, w, hs, hw⟩
  · rw [hsame]
    refine decodes_leaf hv fun hreads s hs => ?_
    rw [h s hs] at hreads
    cases hreads
  · rw [hs]
    exact ⟨w, (decodeWith_leaf rfl).trans hw⟩

/-- What is written under such a condition can be decoded. -/
theorem decodes_of_encode {p : Value → Field → Prop} (hp : Returns declare p) {v : Value} :
    ∀ {f w}, p v f → v.encode f = .ok w → Decodes declare w f := by
  induction v using containerInduction with
  | leaf v hv =>
    intro f w h hw
    cases v with
    | list => cases hv
    | map => cases hv
    | field g =>
      by_cases hk : f.kind = .field
      · have hencode : (Value.field g).encode f = .ok (ofJson g.describe) := by
          simp [encode, hk]
        cases hencode.symm.trans hw
        exact hp.field g f h hk
      · cases (encode_leaf rfl hk).symm.trans hw
        exact decodes_encodeScalar rfl (by simp)
    | text s =>
      cases hw
      exact decodes_encodeScalar rfl fun _ _ => hp.text s f h
    | _ =>
      cases hw
      exact decodes_encodeScalar rfl (by simp)
  | list items =>
    intro f w _ hw
    rcases f.kind.eq_list_or_ne with ⟨candidates, least, most, hk⟩ | hk
    · rw [encode_list hk] at hw
      obtain ⟨ws, -, rfl⟩ := map_eq_ok_iff.mp hw
      exact decodes_list ws
    · cases (encode_list_of_kind_ne hk).symm.trans hw
      exact decodes_list items
  | map es ih =>
    intro f w h hw
    rcases f.kind.eq_dict_or_ne with ⟨d, hk⟩ | hk
    · rw [encode_map hk] at hw
      obtain ⟨ws, hws, rfl⟩ := map_eq_ok_iff.mp hw
      refine (decodes_map_of_dict hk).mpr fun key w hmem => ?_
      obtain ⟨v, g, hv, hg, hvw⟩ := mem_encodeEntries hws key w hmem
      exact ⟨g, hg, ih key v hv (hp.entry es f d h hk key v hv g hg) hvw⟩
    · cases (encode_map_of_kind_ne hk).symm.trans hw
      exact decodes_map_of_kind_ne hk (hp.map es f h)

end Value

end TypedDocument
