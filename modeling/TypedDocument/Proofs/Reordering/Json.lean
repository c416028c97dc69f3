import TypedDocument.Proofs.Document.JsonForm
import TypedDocument.Proofs.Reordering.Basic

/-!
# JSON values up to the order of members

Writing a document as JSON and reading it back both respect the order of entries: documents that
are the same up to order have JSON forms that are, and JSON values that are have raw documents that
are.
-/

namespace TypedDocument

namespace Json

mutual

/-- Two JSON values are the same up to the order of members. -/
inductive Reordered : Json → Json → Prop where
  | leaf {j : Json} (plain : j.isContainer = false) : Reordered j j
  | array {items items' : List Json} (elements : ItemsReordered items items') :
    Reordered (.array items) (.array items')
  | object {ms ms' : List (String × Json)} (distinct : Entries.Distinct ms)
    (distinct' : Entries.Distinct ms')
    (keys : ∀ key, key ∈ Entries.keys ms ↔ key ∈ Entries.keys ms')
    (values : ∀ key i j, (key, i) ∈ ms → (key, j) ∈ ms' → Reordered i j) :
    Reordered (.object ms) (.object ms')

/-- The same elements in the same order. -/
inductive ItemsReordered : List Json → List Json → Prop where
  | nil : ItemsReordered [] []
  | cons {i j : Json} {is js : List Json} (head : Reordered i j) (tail : ItemsReordered is js) :
    ItemsReordered (i :: is) (j :: js)

end

@[simp] theorem reordered_object_iff {ms ms' : List (String × Json)} :
    (Json.object ms).Reordered (.object ms') ↔ Entries.Reordered Json.Reordered ms ms' := by
  constructor
  · intro h
    cases h with
    | leaf plain => cases plain
    | object distinct distinct' keys values => exact ⟨distinct, distinct', keys, values⟩
  · intro h
    exact .object h.distinct h.distinct' h.keys h.values

/-- No object in a JSON value has a key twice. -/
inductive Proper : Json → Prop where
  | leaf {j : Json} (plain : j.isContainer = false) : Proper j
  | array {items : List Json} (each : ∀ j ∈ items, Proper j) : Proper (.array items)
  | object {members : List (String × Json)} (distinct : Entries.Distinct members)
    (each : ∀ key j, (key, j) ∈ members → Proper j) : Proper (.object members)

namespace Proper

theorem item {items : List Json} {j : Json} (h : (Json.array items).Proper) (hj : j ∈ items) :
    j.Proper := by
  cases h with
  | leaf plain => cases plain
  | array each => exact each j hj

theorem distinct {ms : List (String × Json)} (h : (Json.object ms).Proper) :
    Entries.Distinct ms := by
  cases h with
  | leaf plain => cases plain
  | object distinct => exact distinct

theorem member {ms : List (String × Json)} {key : String} {j : Json}
    (h : (Json.object ms).Proper) (hj : (key, j) ∈ ms) : j.Proper := by
  cases h with
  | leaf plain => cases plain
  | object distinct each => exact each key j hj

end Proper

/-- Whether an object has no key twice. -/
def keepsApart : Json → Bool
  | object ms => decide (Entries.Distinct ms)
  | _ => true

theorem all_keepsApart_iff {j : Json} : j.all keepsApart = true ↔ j.Proper := by
  induction j using containerInduction with
  | leaf j hj =>
    refine iff_of_true ?_ (.leaf hj)
    rw [all_leaf hj]
    cases j with
    | object => cases hj
    | _ => rfl
  | array items ih =>
    rw [all_array_iff, forall₂_congr ih]
    exact ⟨fun h => .array h.2, fun h => ⟨rfl, fun j => h.item⟩⟩
  | object ms ih =>
    rw [all_object_iff, forall₃_congr ih, keepsApart, decide_eq_true_eq]
    exact ⟨fun h => .object h.1 h.2, fun h => ⟨h.distinct, fun key j => h.member⟩⟩

instance {j : Json} : Decidable j.Proper := decidable_of_iff _ all_keepsApart_iff

theorem ItemsReordered.of_forall {items : List Json} (h : ∀ j ∈ items, j.Reordered j) :
    ItemsReordered items items := by
  induction items with
  | nil => exact .nil
  | cons j rest ih =>
    exact .cons (h j List.mem_cons_self) (ih fun i hi => h i (List.mem_cons_of_mem j hi))

/-- A JSON value without repeated keys is the same as itself. -/
theorem Proper.reordered {j : Json} (h : j.Proper) : j.Reordered j := by
  induction h with
  | leaf plain => exact .leaf plain
  | array each ih => exact .array (.of_forall ih)
  | object distinct each ih =>
    refine .object distinct distinct (fun _ => Iff.rfl) ?_
    intro key i j hi hj
    have hij : some i = some j :=
      ((Entries.mem_iff_get? distinct).mp hi).symm.trans ((Entries.mem_iff_get? distinct).mp hj)
    cases hij
    exact ih key i hi

end Json

namespace Value

/-! ## Writing JSON -/

theorem toJsonItems_reordered {items items' : List Value}
    (ih : ∀ v ∈ items, ∀ w, v.Reordered w → Agree Json.Reordered v.toJson w.toJson)
    (h : ItemsReordered items items') :
    Agree Json.ItemsReordered (toJsonItems items) (toJsonItems items') := by
  induction items generalizing items' with
  | nil =>
    cases h
    exact Json.ItemsReordered.nil
  | cons v rest ihrest =>
    cases h with
    | cons head tail =>
      rw [toJsonItems, toJsonItems]
      refine (ih v List.mem_cons_self _ head).bind ?_
      intro i j hij
      refine (ihrest (fun u hu => ih u (List.mem_cons_of_mem v hu)) tail).bind ?_
      intro is js hijs
      exact Json.ItemsReordered.cons hij hijs

/-- Documents that are the same up to the order of entries have JSON forms that are, if they have
any. -/
theorem toJson_reordered {v : Value} :
    ∀ {w : Value}, v.Reordered w → Agree Json.Reordered v.toJson w.toJson := by
  induction v using containerInduction with
  | leaf v hv =>
    intro w h
    cases h with
    | leaf =>
      apply Agree.of_iff Iff.rfl
      intro i j hi hj
      cases hi.symm.trans hj
      refine .leaf ?_
      cases v with
      | list => cases hv
      | map => cases hv
      | float x =>
        simp only [toJson] at hi
        split at hi
        · cases hi
          rfl
        · cases hi
      | _ =>
        cases hi
        try rfl
    | field => trivial
    | list => cases hv
    | map => cases hv
  | list items ih =>
    intro w h
    cases h with
    | leaf plain => cases plain
    | list elements =>
      rw [toJson, toJson]
      exact (toJsonItems_reordered ih elements).map fun _ _ => .array
  | map es ih =>
    intro w h
    cases h with
    | leaf plain => cases plain
    | map distinct distinct' keys values =>
      rw [toJson, toJson, toJsonMembers_eq_traverse, toJsonMembers_eq_traverse]
      have hes : Entries.Reordered Value.Reordered es _ := ⟨distinct, distinct', keys, values⟩
      have hmembers := hes.traverse fun key v w hv => ih key v hv (w := w)
      exact hmembers.map fun _ _ => Json.reordered_object_iff.mpr

/-! ## Reading JSON -/

@[simp] theorem keys_ofJsonMembers (ms : List (String × Json)) :
    Entries.keys (ofJsonMembers ms) = Entries.keys ms := by
  induction ms with
  | nil => rfl
  | cons m rest ih => exact congrArg (m.1 :: ·) ih

mutual

/-- JSON values that are the same up to the order of members have raw documents that are. -/
theorem ofJson_reordered {i j : Json} : i.Reordered j → (ofJson i).Reordered (ofJson j)
  | .leaf plain => by
    refine .leaf ?_
    cases i with
    | array => cases plain
    | object => cases plain
    | integer i =>
      rw [ofJson, ofInteger]
      split
      · rfl
      · split <;> rfl
    | _ => rfl
  | .array elements => .list (ofJsonItems_reordered elements)
  | .object distinct distinct' keys values => by
    refine .map ?_ ?_ ?_ ?_
    · rw [Entries.Distinct, keys_ofJsonMembers]
      exact distinct
    · rw [Entries.Distinct, keys_ofJsonMembers]
      exact distinct'
    · intro key
      rw [keys_ofJsonMembers, keys_ofJsonMembers]
      exact keys key
    · intro key v w hv hw
      obtain ⟨i, hi, rfl⟩ := mem_ofJsonMembers key v hv
      obtain ⟨j, hj, rfl⟩ := mem_ofJsonMembers key w hw
      exact ofJson_reordered (values key i j hi hj)

theorem ofJsonItems_reordered {is js : List Json} :
    Json.ItemsReordered is js → ItemsReordered (ofJsonItems is) (ofJsonItems js)
  | .nil => .nil
  | .cons head tail => .cons (ofJson_reordered head) (ofJsonItems_reordered tail)

end

end Value

end TypedDocument
