import TypedDocument.Proofs.Conversion.NormalForm
import TypedDocument.Proofs.Conversion.Steps
import TypedDocument.Proofs.Schema.Document

/-!
# Writing a document out and reading it back

A valid document is encoded, turned into JSON, read as a raw document and decoded. What comes
back is the normal form of the document. The law needs lists to have one candidate at most, for
decoding may prefer another candidate than encoding did, and it excludes meta fields.
-/

namespace TypedDocument

namespace Value

variable {declare : DeclarationReader} {partially : Bool} {f : Field} {v : Value}

/-! ## Values that are not taken apart -/

/-- Decoding a scalar undoes its encoding, although an integer may be narrowed in between. -/
theorem decodeScalar_narrowed_encodeScalar {kind : FieldKind} (reversible : kind.Reversible)
    (container : kind.isContainer = false) (accepted : kind.accepts v = true) :
    kind.decodeScalar (kind.encodeScalar v).narrowed = .ok (kind.normaliseScalar v) := by
  cases kind with
  | any => rfl
  | field => cases reversible
  | list => cases container
  | dict => cases container
  | null | bool | text => cases v <;> first | rfl | cases accepted
  | int => cases v <;> first | rfl | cases accepted
  | float => cases v <;> first | rfl | cases accepted
  | long =>
    cases v with
    | long i =>
      simp only [FieldKind.encodeScalar, narrowed, FieldKind.normaliseScalar]
      split
      · next h => rw [FieldKind.decodeScalar, toInt64_toInt32_of_fitsInt32 h]
      · rfl
    | _ => cases accepted
  | dateTime =>
    cases v with
    | dateTime t =>
      simp [FieldKind.encodeScalar, narrowed, FieldKind.decodeScalar, FieldKind.readText,
        FieldKind.normaliseScalar]
    | _ => cases accepted
  | date =>
    cases v with
    | date d =>
      simp [FieldKind.encodeScalar, narrowed, FieldKind.decodeScalar, FieldKind.readText,
        FieldKind.normaliseScalar]
    | dateTime t =>
      simp [FieldKind.encodeScalar, narrowed, FieldKind.decodeScalar, FieldKind.readText,
        FieldKind.normaliseScalar]
    | _ => cases accepted
  | time =>
    cases v with
    | time t =>
      simp [FieldKind.encodeScalar, narrowed, FieldKind.decodeScalar, FieldKind.readText,
        FieldKind.normaliseScalar]
    | _ => cases accepted

/-- Under a field, a value is written out and, where that has a JSON form, read back from it as
another. -/
def ReadsBackAs (declare : DeclarationReader) (v : Value) (f : Field) (u : Value) : Prop :=
  ∃ w, v.encode f = .ok w ∧ ∀ j, w.toJson = .ok j → (ofJson j).decodeWith declare f = .ok u

theorem readsBackAs_of_any (hk : f.kind = .any) : ReadsBackAs declare v f v.narrowed := by
  refine ⟨v, encode_of_any hk, ?_⟩
  intro j hj
  rw [decodeWith_of_any hk, ofJson_of_toJson j hj]

theorem readsBackAs_leaf (hv : v.isContainer = false) (reversible : f.kind.Reversible)
    (h : f.kind.decodeScalar (f.kind.encodeScalar v).narrowed = .ok (f.kind.normaliseScalar v)) :
    ReadsBackAs declare v f (v.normalised f) := by
  have hfield : f.kind ≠ .field := by
    intro hk
    simp [hk, FieldKind.Reversible] at reversible
  refine ⟨_, encode_leaf hv hfield, ?_⟩
  intro j hj
  rw [ofJson_of_toJson j hj, normalised_leaf hv, decodeWith_leaf, h]
  rw [isContainer_narrowed, isContainer_encodeScalar, hv]

theorem readsBackAs_null (reversible : f.kind.Reversible) :
    ReadsBackAs declare null f (null.normalised f) := by
  apply readsBackAs_leaf rfl reversible
  cases f.kind <;> rfl

/-- A value under a kind that is not taken apart comes back in its normal form. -/
theorem readsBackAs_plain (kind : f.kind.isContainer = false) (reversible : f.kind.Reversible)
    (accepted : f.kind.accepts v = true) : ReadsBackAs declare v f (v.normalised f) := by
  by_cases hany : f.kind = .any
  · rw [normalised_of_any hany]
    exact readsBackAs_of_any hany
  · have hv : v.isContainer = false := by
      cases hk : f.kind <;> cases v <;>
        simp_all [FieldKind.accepts, FieldKind.isContainer, isContainer]
    have hscalar := decodeScalar_narrowed_encodeScalar reversible kind accepted
    exact readsBackAs_leaf hv reversible hscalar

/-! ## Lists and mappings -/

theorem accepts_normalised (accepted : f.kind.accepts v = true) :
    f.kind.accepts (v.normalised f) = true := by
  cases v with
  | list items =>
    rcases f.kind.eq_list_or_ne with ⟨candidates, least, most, hk⟩ | hne
    · rw [normalised_list hk, hk, FieldKind.accepts]
    · rw [normalised_list_of_kind_ne hne]
      exact accepts_normaliseScalar accepted
  | map es =>
    rcases f.kind.eq_dict_or_ne with ⟨d, hk⟩ | hne
    · rw [normalised_map hk, hk, FieldKind.accepts]
    · rw [normalised_map_of_kind_ne hne]
      exact accepts_normaliseScalar accepted
  | _ => exact accepts_normaliseScalar accepted

/-- One element of a list: where the candidate passes over it, it is null and null it stays. -/
theorem readsBack_element {c : Field} (conforms : Conforms partially v c)
    (ih : ReadsBackAs declare v c (v.normalised c)) :
    ∃ w, v.encodeElement [c] = .ok w ∧
      ∀ j, w.toJson = .ok j → (ofJson j).decodeElement declare [c] = v.normalised c := by
  cases haccepts : c.kind.accepts v with
  | true =>
    obtain ⟨w, hw, hback⟩ := ih
    refine ⟨w, by simpa [encodeElement, firstCandidate?, haccepts] using hw, ?_⟩
    intro j hj
    simp [decodeElement, hback j hj, accepts_normalised haccepts]
  | false =>
    have hnull : v = null := by
      by_cases hne : v = null
      · exact hne
      · simp [accepts_of_conforms hne conforms] at haccepts
    subst hnull
    refine ⟨null, by simp [encodeElement, firstCandidate?, haccepts], ?_⟩
    intro j hj
    cases hj
    simp [ofJson, decodeElement, decodeWith, haccepts]

theorem readsBack_items (declare : DeclarationReader) {c : Field} {items : List Value}
    (conforms : ∀ v ∈ items, Conforms partially v c)
    (ih : ∀ v ∈ items, ReadsBackAs declare v c (v.normalised c)) :
    ∃ ws, encodeItems items [c] = .ok ws ∧
      ∀ js, toJsonItems ws = .ok js →
        decodeItems declare [c] (ofJsonItems js) = normalisedItems items [c] := by
  induction items with
  | nil =>
    refine ⟨[], rfl, ?_⟩
    intro js hjs
    cases hjs
    rfl
  | cons v rest ihrest =>
    obtain ⟨w, hw, hback⟩ := readsBack_element (conforms v List.mem_cons_self)
      (ih v List.mem_cons_self)
    obtain ⟨ws, hws, hbacks⟩ := ihrest (fun u hu => conforms u (List.mem_cons_of_mem v hu))
      fun u hu => ih u (List.mem_cons_of_mem v hu)
    refine ⟨w :: ws, encodeItems_cons_eq_ok_iff.mpr ⟨w, hw, ws, hws, rfl⟩, ?_⟩
    intro js hjs
    obtain ⟨j, hj, js', hjs', rfl⟩ := toJsonItems_cons_eq_ok_iff.mp hjs
    rw [ofJsonItems, decodeItems_cons, normalisedItems, hbacks js' hjs', hback j hj]

@[simp] theorem normalisedItems_nil (items : List Value) :
    normalisedItems items [] = narrowedItems items := by
  induction items with
  | nil => rfl
  | cons v rest ih => rw [normalisedItems, narrowedItems, ih]

theorem readsBack_entries (declare : DeclarationReader) {d : Dict} {es : Mapping}
    (ih : ∀ key v, (key, v) ∈ es →
      ∃ f, d.field? key = some f ∧ ReadsBackAs declare v f (v.normalised f)) :
    ∃ ws, encodeEntries es d = .ok ws ∧
      ∀ ms, toJsonMembers ws = .ok ms →
        decodeEntries declare d (ofJsonMembers ms) = .ok (normalisedEntries es d) := by
  induction es with
  | nil =>
    refine ⟨[], rfl, ?_⟩
    intro ms hms
    cases hms
    rfl
  | cons e rest ihrest =>
    obtain ⟨key, v⟩ := e
    obtain ⟨f, hf, w, hw, hback⟩ := ih key v List.mem_cons_self
    obtain ⟨ws, hws, hbacks⟩ := ihrest fun k u hu => ih k u (List.mem_cons_of_mem _ hu)
    refine ⟨(key, w) :: ws, encodeEntries_cons_eq_ok_iff.mpr ⟨f, hf, w, hw, ws, hws, rfl⟩, ?_⟩
    intro ms hms
    obtain ⟨j, hj, ms', hms', rfl⟩ := toJsonMembers_cons_eq_ok_iff.mp hms
    rw [ofJsonMembers, normalisedEntries, hf]
    exact decodeEntries_cons_eq_ok_iff.mpr ⟨f, hf, _, hback j hj, _, hbacks ms' hms', rfl⟩

/-- What conforms to a field whose parts are all reversible comes back in its normal form. -/
theorem readsBackAs_normalised (declare : DeclarationReader) {v : Value} :
    ∀ f : Field, f.Everywhere FieldKind.Reversible → Conforms partially v f →
      ReadsBackAs declare v f (v.normalised f) := by
  induction v using containerInduction with
  | leaf v hv =>
    intro f hf h
    cases h with
    | null => exact readsBackAs_null hf.kind
    | plain _ kind accepted => exact readsBackAs_plain kind hf.kind accepted
    | list => cases hv
    | map => cases hv
  | list items ih =>
    intro f hf h
    have hconforms := h
    cases h with
    | plain _ kind accepted => exact readsBackAs_plain kind hf.kind accepted
    | @list _ _ candidates least most hk =>
      have hkind := hf.kind
      rw [hk] at hkind
      rcases hkind.eq_nil_or_singleton with rfl | ⟨c, rfl⟩
      · refine ⟨list items, by rw [encode_list hk, encodeItems_nil, Except.map], ?_⟩
        intro j hj
        rw [ofJson_of_toJson j hj, normalised_list hk, normalisedItems_nil, narrowed,
          decodeWith_list hk, decodeItems_nil]
      · have helements : ∀ v ∈ items, Conforms partially v c := by
          intro v hv
          obtain ⟨c', hc', hv⟩ := ((conforms_list_iff hk).mp hconforms).2 (by simp) v hv
          cases List.mem_singleton.mp hc'
          exact hv
        obtain ⟨ws, hws, hback⟩ := readsBack_items declare helements fun v hv =>
          ih v hv c (hf.candidate hk List.mem_cons_self) (helements v hv)
        refine ⟨list ws, by rw [encode_list hk, hws, Except.map], ?_⟩
        intro j hj
        obtain ⟨js, hjs, rfl⟩ := toJson_list_eq_ok_iff.mp hj
        rw [ofJson, normalised_list hk, decodeWith_list hk, hback js hjs]
  | map es ih =>
    intro f hf h
    have hconforms := h
    cases h with
    | plain _ kind accepted => exact readsBackAs_plain kind hf.kind accepted
    | @map _ _ d hk =>
      have hentries : ∀ key v, (key, v) ∈ es →
          ∃ g, d.field? key = some g ∧ ReadsBackAs declare v g (v.normalised g) := by
        intro key v hv
        obtain ⟨g, hg, hv'⟩ := ((conforms_map_iff hk).mp hconforms).1 key v hv
        exact ⟨g, hg, ih key v hv g ((hf.dict hk).field hg) hv'⟩
      obtain ⟨ws, hws, hback⟩ := readsBack_entries declare hentries
      refine ⟨map ws, by rw [encode_map hk, hws, Except.map], ?_⟩
      intro j hj
      obtain ⟨ms, hms, rfl⟩ := toJson_map_eq_ok_iff.mp hj
      rw [ofJson, normalised_map hk, decodeWith_map hk, hback ms hms, Except.map]

end Value

variable {s : Schema} {partially : Bool} {doc : Value}

end TypedDocument
