import TypedDocument.Proofs.Reordering.Basic
import TypedDocument.Proofs.Schema.Document

/-!
# Validation does not depend on the order of entries

A document conforms to a field exactly if the same document in another order conforms to the same
field in another order. The order only decides which offence is reported.
-/

namespace TypedDocument

/-! ## What a dict requires -/

namespace Dict

/-- A key under which a mapping has to have an entry. -/
def Requires (d : Dict) (key : SchemaKey) : Prop := ∃ f, (key, f) ∈ d ∧ f.optional = false

variable {d d' : Dict} {keys keys' : List String}

theorem completedBy_iff_of_requires :
    d.CompletedBy keys ↔ (∀ n, d.Requires (.name n) → n ∈ keys) ∧
      ∀ t, d.Requires (.type t) → ∃ k ∈ keys, KeyType.ofKey k = t ∧ d.get? (.name k) = none := by
  constructor
  · rintro ⟨names, types⟩
    exact ⟨fun n ⟨f, hf, hrequired⟩ => names n f hf hrequired,
      fun t ⟨f, hf, hrequired⟩ => types t f hf hrequired⟩
  · rintro ⟨hnames, htypes⟩
    exact ⟨fun n f hf hrequired => hnames n ⟨f, hf, hrequired⟩,
      fun t f hf hrequired => htypes t ⟨f, hf, hrequired⟩⟩

theorem requires_iff_of_reordered (h : Entries.Reordered Field.Reordered d d') (key : SchemaKey) :
    d.Requires key ↔ d'.Requires key := by
  have hoptional : ∀ {f g : Field}, f.Reordered g → f.optional = g.optional :=
    fun hfg => congrArg FieldOptions.optional hfg.options
  constructor
  · rintro ⟨f, hf, hrequired⟩
    obtain ⟨g, hg, hfg⟩ := h.exists_mem hf
    exact ⟨g, hg, hoptional hfg ▸ hrequired⟩
  · rintro ⟨g, hg, hrequired⟩
    obtain ⟨f, hf, hfg⟩ := h.exists_mem' hg
    exact ⟨f, hf, (hoptional hfg).trans hrequired⟩

/-- Dicts that are the same up to order are completed by the same keys. -/
theorem completedBy_reordered (h : (FieldKind.dict d).Reordered (.dict d'))
    (hkeys : ∀ key, key ∈ keys ↔ key ∈ keys') : d.CompletedBy keys ↔ d'.CompletedBy keys' := by
  have hdicts : (∀ key, d.Requires key ↔ d'.Requires key) ∧
      ∀ key, d.get? key = none ↔ d'.get? key = none := by
    cases h with
    | refl => exact ⟨fun _ => Iff.rfl, fun _ => Iff.rfl⟩
    | dict distinct distinct' keys values =>
      have hentries : Entries.Reordered Field.Reordered d d' := ⟨distinct, distinct', keys, values⟩
      refine ⟨requires_iff_of_reordered hentries, fun key => ?_⟩
      rw [get?, get?, Entries.get?_eq_none_iff, Entries.get?_eq_none_iff, keys]
  obtain ⟨hrequires, hnone⟩ := hdicts
  simp only [completedBy_iff_of_requires, hrequires, hnone, hkeys]

end Dict

/-! ## Conformance -/

namespace Value

variable {partially : Bool} {v w : Value} {f g : Field}

theorem conforms_candidates_reordered {candidates candidates' : List Field}
    (h : Field.CandidatesReordered candidates candidates')
    (ih : ∀ f g, f.Reordered g → (v.Conforms partially f ↔ w.Conforms partially g)) :
    (∃ c ∈ candidates, v.Conforms partially c) ↔ ∃ c ∈ candidates', w.Conforms partially c := by
  induction candidates generalizing candidates' with
  | nil =>
    cases h
    simp
  | cons c rest ihrest =>
    cases h with
    | cons head tail => simp only [List.mem_cons, exists_eq_or_imp, ih _ _ head, ihrest tail]

theorem forall_items_reordered {items items' : List Value} {p q : Value → Prop}
    (h : ItemsReordered items items') (ih : ∀ v ∈ items, ∀ w, v.Reordered w → (p v ↔ q w)) :
    (∀ v ∈ items, p v) ↔ ∀ w ∈ items', q w := by
  induction items generalizing items' with
  | nil =>
    cases h
    simp
  | cons v rest ihrest =>
    cases h with
    | cons head tail =>
      simp only [List.forall_mem_cons, ih v List.mem_cons_self _ head,
        ihrest tail fun u hu => ih u (List.mem_cons_of_mem v hu)]

theorem ItemsReordered.length_eq {items items' : List Value} (h : ItemsReordered items items') :
    items.length = items'.length := by
  induction items generalizing items' with
  | nil =>
    cases h
    rfl
  | cons v rest ih =>
    cases h with
    | cons head tail => rw [List.length_cons, List.length_cons, ih tail]

theorem Reordered.rulesHold_iff {kind kind' : FieldKind} (hkind : kind.Reordered kind')
    (h : v.Reordered w) : kind.RulesHold v ↔ kind'.RulesHold w := by
  cases h with
  | leaf => cases hkind <;> cases v <;> rfl
  | _ =>
    cases hkind with
    | refl => cases kind <;> rfl
    | _ => rfl

/-- Of a value that is not taken apart only the type and the rules count. -/
theorem conforms_reordered_of_plain (hvw : v.Reordered w) (hfg : f.Reordered g)
    (present : v ≠ .null) (hlist : ∀ candidates least most, v.type = .list →
      f.kind ≠ .list candidates least most) (hmap : ∀ d, v.type = .map → f.kind ≠ .dict d) :
    v.Conforms partially f ↔ w.Conforms partially g := by
  have hkind := hfg.kind
  have htype := hvw.type
  rw [conforms_iff_accepts present, conforms_iff_accepts, hkind.accepts hvw,
    hvw.rulesHold_iff hkind]
  · rintro rfl
    cases v with
    | null => exact present rfl
    | _ => cases htype
  · rintro items candidates least most rfl
    exact hkind.list_ne (fun _ _ _ => hlist _ _ _ htype) _ _ _
  · rintro es d rfl
    exact hkind.dict_ne (fun _ => hmap _ htype) _
  · rintro items candidates least most rfl
    exact hlist _ _ _ rfl
  · rintro es d rfl
    exact hmap _ rfl

theorem conforms_reordered :
    ∀ {w f g}, v.Reordered w → f.Reordered g →
      (v.Conforms partially f ↔ w.Conforms partially g) := by
  induction v using containerInduction with
  | leaf v hv =>
    intro w f g hvw hfg
    by_cases present : v = .null
    · subst present
      cases hvw with
      | leaf =>
        have hnullable : f.nullable = g.nullable := congrArg FieldOptions.nullable hfg.options
        rw [conforms_null_iff, conforms_null_iff, hnullable]
    · refine conforms_reordered_of_plain hvw hfg present ?_ ?_
      · intro _ _ _ htype
        cases v <;> cases htype
        cases hv
      · intro _ htype
        cases v <;> cases htype
        cases hv
  | list items ih =>
    intro w f g hvw hfg
    rcases f.kind.eq_list_or_ne with ⟨candidates, least, most, hk⟩ | hk
    · cases hvw with
      | leaf plain => cases plain
      | @list _ items' elements =>
        obtain ⟨candidates', hk', hcandidates⟩ := (hk ▸ hfg.kind).list_left
        have hempty : candidates ≠ [] ↔ candidates' ≠ [] := by cases hcandidates <;> simp
        have hitems : (∀ v ∈ items, ∃ c ∈ candidates, v.Conforms partially c) ↔
            ∀ w ∈ items', ∃ c ∈ candidates', w.Conforms partially c :=
          forall_items_reordered elements fun v hv w hvw =>
            conforms_candidates_reordered hcandidates fun f g hfg => ih v hv hvw hfg
        rw [conforms_list_iff hk, conforms_list_iff hk', elements.length_eq, hempty, hitems]
    · exact conforms_reordered_of_plain hvw hfg (by simp) (fun _ _ _ _ => hk _ _ _)
        fun _ htype => by cases htype
  | map es ih =>
    intro w f g hvw hfg
    rcases f.kind.eq_dict_or_ne with ⟨d, hk⟩ | hk
    · cases hvw with
      | leaf plain => cases plain
      | @map _ es' distinct distinct' keys values =>
        have hes : Entries.Reordered Value.Reordered es es' := ⟨distinct, distinct', keys, values⟩
        have hkind := hk ▸ hfg.kind
        obtain ⟨d', hk', hd⟩ := hkind.dict_left
        rw [conforms_map_iff hk, conforms_map_iff hk',
          Dict.completedBy_reordered (hk' ▸ hkind) keys]
        refine and_congr_left fun _ => hes.forall_iff fun key v w hv hvw => ?_
        have hkey := hd key
        generalize Dict.field? d key = o at hkey ⊢
        generalize Dict.field? d' key = o' at hkey ⊢
        cases hkey with
        | none => simp
        | some hfg => simpa using ih key v hv hvw hfg
    · exact conforms_reordered_of_plain hvw hfg (by simp) (fun _ _ _ htype => by cases htype)
        fun _ _ => hk _

end Value

end TypedDocument
