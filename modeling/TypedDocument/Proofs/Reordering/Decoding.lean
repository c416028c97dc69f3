import TypedDocument.Proofs.Conversion.Steps
import TypedDocument.Proofs.Reordering.Json

/-!
# Decoding does not depend on the order of entries

Documents that are the same up to order are decoded to documents that are, under fields that are
the same up to order, or neither can be decoded. Mappings under meta fields go to the reader of
declarations, so the reader has to respect the order of members on what the document holds.
-/

namespace TypedDocument

theorem Agree.convertError {ε ε' α β : Type} {r : α → β → Prop} {x : Except ε α}
    {y : Except ε' β} (h : Agree r x y) (wrap : ε → ConvertError) (wrap' : ε' → ConvertError) :
    Agree r (asConvertError wrap x) (asConvertError wrap' y) := by
  cases x <;> cases y <;> exact h

/-- A key that one of two dicts governs is governed by the other, with the same field up to
order. -/
theorem Dict.fieldOf_reordered {d d' : Dict}
    (h : ∀ key, Option.Rel Field.Reordered (d.field? key) (d'.field? key)) (key : String) :
    Agree Field.Reordered (d.fieldOf key) (d'.fieldOf key) := by
  have hkey := h key
  rw [fieldOf, fieldOf]
  cases hf : d.field? key <;> cases hg : d'.field? key <;> rw [hf, hg] at hkey <;> cases hkey
  · trivial
  · assumption

theorem FieldKind.Reordered.decodeScalar {kind kind' : FieldKind} (h : kind.Reordered kind')
    (v : Value) : kind.decodeScalar v = kind'.decodeScalar v := by
  cases h with
  | refl => rfl
  | list => rfl
  | dict => rfl

namespace Value

/-- The readers of declarations agree on the mappings of a value, in whatever order their members
stand. -/
def ReadersAgree (declare declare' : DeclarationReader) (v : Value) : Prop :=
  ∀ es i j, v.Within (.map es) → toJson (.map es) = .ok i → i.Reordered j →
    Agree Field.Reordered (declare i) (declare' j)

variable {declare declare' : DeclarationReader} {v w : Value}

theorem decodeElement_reordered
    (ih : ∀ f g, f.Reordered g →
      Agree Value.Reordered (v.decodeWith declare f) (w.decodeWith declare' g))
    (hvw : v.Reordered w) {candidates candidates' : List Field}
    (h : Field.CandidatesReordered candidates candidates') :
    (v.decodeElement declare candidates).Reordered (w.decodeElement declare' candidates') := by
  induction candidates generalizing candidates' with
  | nil =>
    cases h
    exact hvw
  | cons f rest ihrest =>
    cases h with
    | @cons _ g _ _ head tail =>
      have hagree := ih f g head
      rw [decodeElement_cons, decodeElement_cons]
      cases hx : v.decodeWith declare f with
      | error =>
        cases hy : w.decodeWith declare' g with
        | error => exact ihrest tail
        | ok y =>
          rw [hx, hy] at hagree
          cases hagree
      | ok x =>
        obtain ⟨y, hy, hxy⟩ := hagree.of_eq_ok hx
        simp only [hy, head.kind.accepts hxy]
        split
        · exact hxy
        · exact ihrest tail

theorem decodeItems_reordered {items items' : List Value} {candidates candidates' : List Field}
    (ih : ∀ v ∈ items, ∀ w f g, v.Reordered w → f.Reordered g →
      Agree Value.Reordered (v.decodeWith declare f) (w.decodeWith declare' g))
    (hcandidates : Field.CandidatesReordered candidates candidates')
    (h : ItemsReordered items items') :
    ItemsReordered (decodeItems declare candidates items)
      (decodeItems declare' candidates' items') := by
  induction items generalizing items' with
  | nil =>
    cases h
    exact .nil
  | cons v rest ihrest =>
    cases h with
    | cons head tail =>
      rw [decodeItems_cons, decodeItems_cons]
      refine .cons ?_ (ihrest (fun u hu => ih u (List.mem_cons_of_mem v hu)) tail)
      exact decodeElement_reordered (fun f g => ih v List.mem_cons_self _ f g head) head hcandidates

theorem decodeEntries_reordered {es es' : Mapping} {d d' : Dict}
    (ih : ∀ key v, (key, v) ∈ es → ∀ w f g, v.Reordered w → f.Reordered g →
      Agree Value.Reordered (v.decodeWith declare f) (w.decodeWith declare' g))
    (hd : ∀ key, Option.Rel Field.Reordered (d.field? key) (d'.field? key))
    (h : Entries.Reordered Value.Reordered es es') :
    Agree (Entries.Reordered Value.Reordered) (decodeEntries declare d es)
      (decodeEntries declare' d' es') := by
  rw [decodeEntries_eq_traverse, decodeEntries_eq_traverse]
  apply h.traverse
  intro key v w hv hvw
  refine ((Dict.fieldOf_reordered hd key).convertError _ _).bind ?_
  intro f g hfg
  exact (ih key v hv w f g hvw hfg).convertError _ _

/-- Decoding respects the order of entries in the document and in the field. -/
theorem decodeWith_reordered :
    ∀ {w : Value} {f g : Field}, v.ReadersAgree declare declare' → v.Reordered w → f.Reordered g →
      Agree Value.Reordered (v.decodeWith declare f) (w.decodeWith declare' g) := by
  induction v using containerInduction with
  | leaf v hv =>
    intro w f g _ hvw hfg
    cases hvw with
    | leaf =>
      rw [decodeWith_leaf hv, decodeWith_leaf hv, hfg.kind.decodeScalar v]
      apply Agree.of_iff Iff.rfl
      intro x y hx hy
      cases hx.symm.trans hy
      exact .leaf (isContainer_decodeScalar hv hx)
    | field fields =>
      rw [decodeWith_leaf rfl, decodeWith_leaf rfl]
      have hscalar : ∀ (kind : FieldKind) (f : Field),
          kind.decodeScalar (.field f) = .ok (.field f) := by
        intro kind f
        cases kind <;> rfl
      rw [hscalar, hscalar]
      exact .field fields
    | list => cases hv
    | map => cases hv
  | list items ih =>
    intro w f g hreaders hvw hfg
    cases hvw with
    | leaf plain => cases plain
    | list elements =>
      have hkind := hfg.kind
      rcases f.kind.eq_list_or_ne with ⟨candidates, least, most, hk⟩ | hk
      · rw [hk] at hkind
        obtain ⟨candidates', hk', hcandidates⟩ := hkind.list_left
        rw [decodeWith_list hk, decodeWith_list hk']
        refine .list (decodeItems_reordered ?_ hcandidates elements)
        intro v hv w f g
        exact ih v hv fun es i j hes => hreaders es i j (.item hv hes)
      · rw [decodeWith_list_of_kind_ne hk, decodeWith_list_of_kind_ne (hkind.list_ne hk)]
        exact .list elements
  | map es ih =>
    intro w f g hreaders hvw hfg
    cases hvw with
    | leaf plain => cases plain
    | map distinct distinct' keys values =>
      have hes : Entries.Reordered Value.Reordered es _ := ⟨distinct, distinct', keys, values⟩
      have hkind := hfg.kind
      rcases f.kind.eq_dict_or_field_or_ne with ⟨d, hk⟩ | hk | ⟨hdict, hfield⟩
      · rw [hk] at hkind
        obtain ⟨d', hk', hd⟩ := hkind.dict_left
        rw [decodeWith_map hk, decodeWith_map hk']
        refine (decodeEntries_reordered ?_ hd hes).map fun _ _ => reordered_map_iff.mpr
        intro key v hv w f g
        exact ih key v hv fun sub i j hsub => hreaders sub i j (.entry hv hsub)
      · rw [decodeWith_map_of_field hk, decodeWith_map_of_field (hkind.field_iff.mpr hk)]
        have hjson := toJson_reordered (reordered_map_iff.mpr hes)
        apply Agree.bind_of_eq_ok (hjson.convertError _ _)
        intro i j hi hij
        rw [asConvertError_eq_ok_iff] at hi
        refine ((hreaders es i j (.self _) hi hij).convertError _ _).bind ?_
        intro f g hfg
        exact Value.Reordered.field hfg
      · rw [decodeWith_map_of_kind_ne hdict hfield,
          decodeWith_map_of_kind_ne (hkind.dict_ne hdict) (mt hkind.field_iff.mp hfield)]
        exact reordered_map_iff.mpr hes

end Value

end TypedDocument
