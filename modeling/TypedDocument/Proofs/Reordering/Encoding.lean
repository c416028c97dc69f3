import TypedDocument.Proofs.Reordering.Decoding

/-!
# Encoding does not depend on the order of entries

The encoded form of a document keeps its keys, so no key comes up twice in it, and a document whose
entries stand in another order has the same encoded form up to that order. A field held as data is
encoded as its description, which has an order of its own, so fields held as data are the same in
both documents.
-/

namespace TypedDocument

theorem FieldKind.Reordered.encodeScalar {kind kind' : FieldKind} (h : kind.Reordered kind')
    (v : Value) : kind.encodeScalar v = kind'.encodeScalar v := by
  cases h with
  | refl => rfl
  | list => rfl
  | dict => rfl

namespace Value

variable {f g : Field} {v w : Value}

/-! ## Encoded documents have no repeated keys -/

/-- No mapping has a key twice, also in the descriptions of the fields in a document. -/
structure WellFormed (v : Value) : Prop where
  proper : v.Proper
  described : ∀ g, v.Within (.field g) → (ofJson g.describe).Proper

theorem WellFormed.item {items : List Value} (h : (list items).WellFormed) (hv : v ∈ items) :
    v.WellFormed :=
  ⟨proper_list_iff.mp h.proper v hv, fun g hg => h.described g (.item hv hg)⟩

theorem WellFormed.entry {es : Mapping} {key : String} (h : (map es).WellFormed)
    (hv : (key, v) ∈ es) : v.WellFormed :=
  ⟨(proper_map_iff.mp h.proper).2 key v hv, fun g hg => h.described g (.entry hv hg)⟩

theorem WellFormed.map {es : Mapping} (distinct : es.Distinct)
    (values : ∀ key v, (key, v) ∈ es → v.WellFormed) : (map es).WellFormed where
  proper := proper_map_iff.mpr ⟨distinct, fun key v hv => (values key v hv).proper⟩
  described g hg := by
    cases hg with
    | entry mem within => exact (values _ _ mem).described g within

theorem WellFormed.scalar (hv : v.isContainer = false) (hfield : ∀ g, v ≠ .field g) :
    v.WellFormed where
  proper := proper_of_leaf hv
  described g hg := by
    cases hg with
    | self => exact absurd rfl (hfield g)
    | item => cases hv
    | entry => cases hv

theorem proper_encodeScalar (hv : v.isContainer = false) (kind : FieldKind) :
    (kind.encodeScalar v).Proper :=
  proper_of_leaf ((isContainer_encodeScalar kind).trans hv)

theorem proper_of_encode {v : Value} :
    ∀ {f w}, v.WellFormed → v.encode f = .ok w → w.Proper := by
  induction v using containerInduction with
  | leaf v hv =>
    intro f w h hw
    cases v with
    | list => cases hv
    | map => cases hv
    | field g =>
      rw [encode] at hw
      split at hw
      · cases hw
        exact h.described g (.self _)
      · cases hw
        exact h.proper
    | _ =>
      cases hw
      exact proper_encodeScalar hv f.kind
  | list items ih =>
    intro f w h hw
    rcases f.kind.eq_list_or_ne with ⟨candidates, least, most, hk⟩ | hk
    · rw [encode_list hk] at hw
      obtain ⟨ws, hws, rfl⟩ := map_eq_ok_iff.mp hw
      refine proper_list_iff.mpr fun w hmem => ?_
      obtain ⟨v, hv, hvw⟩ := mem_encodeItems hws w hmem
      rw [encodeElement] at hvw
      split at hvw
      · exact ih v hv (h.item hv) hvw
      · cases hvw
        exact (h.item hv).proper
    · cases (encode_list_of_kind_ne hk).symm.trans hw
      exact h.proper
  | map es ih =>
    intro f w h hw
    rcases f.kind.eq_dict_or_ne with ⟨d, hk⟩ | hk
    · rw [encode_map hk] at hw
      obtain ⟨ws, hws, rfl⟩ := map_eq_ok_iff.mp hw
      refine proper_map_iff.mpr ⟨?_, fun key w hmem => ?_⟩
      · rw [Entries.Distinct, keys_encodeEntries hws]
        exact (proper_map_iff.mp h.proper).1
      · obtain ⟨v, g, hv, -, hvw⟩ := mem_encodeEntries hws key w hmem
        exact ih key v hv (h.entry hv) hvw
    · cases (encode_map_of_kind_ne hk).symm.trans hw
      exact h.proper

/-! ## Documents in another order -/

mutual

/-- The second document is the first one with the entries of its mappings in another order, at any
depth. Lists keep the order of their elements, and fields held as data stay as they are. -/
inductive Permuted : Value → Value → Prop where
  | leaf {v : Value} (plain : v.isContainer = false) : Permuted v v
  | list {items items' : List Value} (elements : ItemsPermuted items items') :
    Permuted (.list items) (.list items')
  | map {es es' : Mapping} (distinct : es.Distinct) (distinct' : es'.Distinct)
    (keys : ∀ key, key ∈ Entries.keys es ↔ key ∈ Entries.keys es')
    (values : ∀ key v w, (key, v) ∈ es → (key, w) ∈ es' → Permuted v w) :
    Permuted (.map es) (.map es')

inductive ItemsPermuted : List Value → List Value → Prop where
  | nil : ItemsPermuted [] []
  | cons {v w : Value} {vs ws : List Value} (head : Permuted v w) (tail : ItemsPermuted vs ws) :
    ItemsPermuted (v :: vs) (w :: ws)

end

theorem permuted_map {es es' : Mapping} (h : Entries.Reordered Permuted es es') :
    (map es).Permuted (map es') :=
  .map h.distinct h.distinct' h.keys h.values

theorem ItemsPermuted.reordered {items items' : List Value} (h : ItemsPermuted items items')
    (ih : ∀ v ∈ items, ∀ w, v.Permuted w → v.Reordered w) : ItemsReordered items items' := by
  induction items generalizing items' with
  | nil =>
    cases h
    exact .nil
  | cons v rest ihrest =>
    cases h with
    | cons head tail =>
      exact .cons (ih v List.mem_cons_self _ head)
        (ihrest tail fun u hu => ih u (List.mem_cons_of_mem v hu))

theorem Permuted.reordered {v : Value} : ∀ {w : Value}, v.Permuted w → v.Reordered w := by
  induction v using containerInduction with
  | leaf v hv =>
    intro w h
    cases h with
    | leaf => exact .leaf hv
    | list => cases hv
    | map => cases hv
  | list items ih =>
    intro w h
    cases h with
    | leaf plain => cases plain
    | list elements => exact .list (elements.reordered fun v hv w => ih v hv)
  | map es ih =>
    intro w h
    cases h with
    | leaf plain => cases plain
    | map distinct distinct' keys values =>
      exact .map distinct distinct' keys fun key v w hv hw => ih key v hv (values key v w hv hw)

/-! ## Encoding -/

theorem firstCandidate?_reordered {candidates candidates' : List Field}
    (h : Field.CandidatesReordered candidates candidates') (hvw : v.Reordered w) :
    Option.Rel Field.Reordered (v.firstCandidate? candidates) (w.firstCandidate? candidates') := by
  induction candidates generalizing candidates' with
  | nil =>
    cases h
    exact .none
  | cons c rest ih =>
    cases h with
    | @cons _ c' _ _ head tail =>
      rw [firstCandidate?, firstCandidate?, List.find?_cons, List.find?_cons,
        head.kind.accepts hvw]
      cases c'.kind.accepts w with
      | true => exact .some head
      | false => exact ih tail

theorem encodeElement_reordered {candidates candidates' : List Field}
    (h : Field.CandidatesReordered candidates candidates') (hvw : v.Reordered w)
    (ih : ∀ f g, f.Reordered g → Agree Value.Reordered (v.encode f) (w.encode g)) :
    Agree Value.Reordered (v.encodeElement candidates) (w.encodeElement candidates') := by
  have hfirst := firstCandidate?_reordered h hvw
  rw [encodeElement, encodeElement]
  generalize v.firstCandidate? candidates = o at hfirst ⊢
  generalize w.firstCandidate? candidates' = o' at hfirst ⊢
  cases hfirst with
  | none => exact hvw
  | some hfg => exact ih _ _ hfg

theorem encodeItems_cons (items : List Value) (candidates : List Field) :
    encodeItems (v :: items) candidates = (do
      let w ← v.encodeElement candidates
      let ws ← encodeItems items candidates
      return w :: ws) := by
  rw [encodeItems, encodeElement, firstCandidate?]
  cases candidates.find? fun f => f.kind.accepts v <;> rfl

theorem encodeItems_reordered {items items' : List Value} {candidates candidates' : List Field}
    (ih : ∀ v ∈ items, ∀ w f g, v.Permuted w → f.Reordered g →
      Agree Value.Reordered (v.encode f) (w.encode g))
    (hcandidates : Field.CandidatesReordered candidates candidates')
    (h : ItemsPermuted items items') :
    Agree ItemsReordered (encodeItems items candidates) (encodeItems items' candidates') := by
  induction items generalizing items' with
  | nil =>
    cases h
    exact ItemsReordered.nil
  | cons v rest ihrest =>
    cases h with
    | cons head tail =>
      rw [encodeItems_cons, encodeItems_cons]
      refine (encodeElement_reordered hcandidates head.reordered fun f g =>
        ih v List.mem_cons_self _ f g head).bind ?_
      intro x y hxy
      refine (ihrest (fun u hu => ih u (List.mem_cons_of_mem v hu)) tail).bind ?_
      intro xs ys hxys
      exact ItemsReordered.cons hxy hxys

theorem encodeEntries_reordered {es es' : Mapping} {d d' : Dict}
    (ih : ∀ key v, (key, v) ∈ es → ∀ w f g, v.Permuted w → f.Reordered g →
      Agree Value.Reordered (v.encode f) (w.encode g))
    (hd : ∀ key, Option.Rel Field.Reordered (d.field? key) (d'.field? key))
    (h : Entries.Reordered Permuted es es') :
    Agree (Entries.Reordered Value.Reordered) (encodeEntries es d) (encodeEntries es' d') := by
  rw [encodeEntries_eq_traverse, encodeEntries_eq_traverse]
  apply h.traverse
  intro key v w hv hvw
  refine ((Dict.fieldOf_reordered hd key).convertError _ _).bind ?_
  intro f g hfg
  exact (ih key v hv w f g hvw hfg).convertError _ _

/-- Encoding respects the order of entries in the document and in the field. -/
theorem encode_permuted {v : Value} :
    ∀ {w f g}, v.WellFormed → v.Permuted w → f.Reordered g →
      Agree Value.Reordered (v.encode f) (w.encode g) := by
  induction v using containerInduction with
  | leaf v hv =>
    intro w f g hwell hvw hfg
    have hkind := hfg.kind
    cases hvw with
    | leaf =>
      -- Fields that differ in order only have kinds that do the same to what is not taken apart.
      have hsame : v.encode f = v.encode g := by
        cases v with
        | list => cases hv
        | map => cases hv
        | field =>
          rw [encode, encode]
          generalize f.kind = kind at hkind
          generalize g.kind = kind' at hkind
          cases hkind <;> rfl
        | _ => rw [encode_scalar hv (by simp), encode_scalar hv (by simp), hkind.encodeScalar]
      rw [hsame]
      apply Agree.of_iff Iff.rfl
      intro x y hx hy
      cases hx.symm.trans hy
      exact (proper_of_encode hwell hx).reordered
    | list => cases hv
    | map => cases hv
  | list items ih =>
    intro w f g hwell hvw hfg
    have hsame := hvw.reordered
    cases hvw with
    | leaf plain => cases plain
    | list elements =>
      have hkind := hfg.kind
      rcases f.kind.eq_list_or_ne with ⟨candidates, least, most, hk⟩ | hk
      · rw [hk] at hkind
        obtain ⟨candidates', hk', hcandidates⟩ := hkind.list_left
        rw [encode_list hk, encode_list hk']
        refine (encodeItems_reordered ?_ hcandidates elements).map fun _ _ => .list
        exact fun v hv w f g => ih v hv (hwell.item hv)
      · rw [encode_list_of_kind_ne hk, encode_list_of_kind_ne (hkind.list_ne hk)]
        exact hsame
  | map es ih =>
    intro w f g hwell hvw hfg
    have hsame := hvw.reordered
    cases hvw with
    | leaf plain => cases plain
    | map distinct distinct' keys values =>
      have hkind := hfg.kind
      rcases f.kind.eq_dict_or_ne with ⟨d, hk⟩ | hk
      · rw [hk] at hkind
        obtain ⟨d', hk', hd⟩ := hkind.dict_left
        rw [encode_map hk, encode_map hk']
        refine (encodeEntries_reordered ?_ hd ⟨distinct, distinct', keys, values⟩).map
          fun _ _ => reordered_map_iff.mpr
        exact fun key v hv w f g => ih key v hv (hwell.entry hv)
      · rw [encode_map_of_kind_ne hk, encode_map_of_kind_ne (hkind.dict_ne hk)]
        exact hsame

end Value

end TypedDocument
