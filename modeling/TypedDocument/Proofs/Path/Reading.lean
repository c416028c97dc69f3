import TypedDocument.Path.Access
import TypedDocument.Proofs.Document.Containers
import TypedDocument.Proofs.Entries

/-!
# Reading along segments

Segments lead from container to container, a key into a mapping and an index into a list, and what
they lead to is a part of the value. Nothing leads on from a scalar.
-/

namespace TypedDocument.Value

variable {v u c : Value} {s : Segment} {chain : List Segment} {keys : List String} {key : String}
  {i : Nat} {es : Mapping}

theorem exists_map_of_child? (h : v.child? (.key key) = some c) :
    ∃ es, v = map es ∧ Entries.get? key es = some c := by
  cases v with
  | map es => exact ⟨es, rfl, h⟩
  | _ => cases h

theorem exists_list_of_child? (h : v.child? (.index i) = some c) :
    ∃ items, v = list items ∧ items[i]? = some c := by
  cases v with
  | list items => exact ⟨items, rfl, h⟩
  | _ => cases h

@[simp] theorem at?_append (v : Value) (chain more : List Segment) :
    v.at? (chain ++ more) = (v.at? chain).bind (·.at? more) := by
  induction chain generalizing v with
  | nil => rfl
  | cons s rest ih =>
    rw [List.cons_append, at?, at?, Option.bind_assoc]
    simp only [ih]

@[simp] theorem at?_singleton (v : Value) (s : Segment) : v.at? [s] = v.child? s :=
  Option.bind_fun_some (v.child? s)

theorem within_of_at? (h : v.at? chain = some u) : v.Within u := by
  induction chain generalizing v with
  | nil =>
    cases h
    exact .self _
  | cons s rest ih =>
    obtain ⟨c, hc, hu⟩ := Option.bind_eq_some_iff.mp h
    match s with
    | .key key =>
      obtain ⟨es, rfl, hget⟩ := exists_map_of_child? hc
      exact .entry (Entries.mem_of_get?_eq_some hget) (ih hu)
    | .index i =>
      obtain ⟨items, rfl, hget⟩ := exists_list_of_child? hc
      exact .item (List.mem_of_getElem? hget) (ih hu)

/-- Further keys do not lead on from anything but a mapping. -/
theorem at?_of_map?_eq_none (h : v.map? = none) (hkeys : keys ≠ []) :
    v.at? (keys.map .key) = none := by
  obtain ⟨key, rest, rfl⟩ := List.exists_cons_of_ne_nil hkeys
  have hchild : v.child? (.key key) = none := by
    cases v with
    | map => cases h
    | _ => rfl
  rw [List.map_cons, at?, hchild, Option.bind_none]

/-- Keys lead to a mapping through mappings only. -/
theorem exists_map_of_at? (h : v.at? (keys.map .key) = some (map es)) :
    ∃ es', v = map es' := by
  match hmap : v.map? with
  | some es' => exact ⟨es', map?_eq_some_iff.mp hmap⟩
  | none =>
    match keys with
    | [] =>
      cases h
      cases hmap
    | key :: rest =>
      rw [at?_of_map?_eq_none hmap (List.cons_ne_nil key rest)] at h
      cases h

end TypedDocument.Value
