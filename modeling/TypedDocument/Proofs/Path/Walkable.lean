import TypedDocument.Proofs.Entries
import TypedDocument.Proofs.Path.Keys
import TypedDocument.Proofs.Path.Walk

/-!
# Documents whose walk comes to its end

If no key on the way has a dot, the walk visits every entry, and the path of an entry goes along
the keys that lead to it.
-/

namespace TypedDocument

/-- The mappings that keys lead to hold each key once, as all mappings do, and no key with a dot. -/
structure Value.Walkable (v : Value) : Prop where
  distinct : ∀ es, v.Reaches es → Entries.Distinct es
  undotted : ∀ es, v.Reaches es → ∀ key ∈ Entries.keys es, Path.isDotted key = false

/-- The entries of a mapping satisfy the conditions of `Value.Walkable`, apart from the mapping
itself. -/
structure Mapping.Walkable (es : Mapping) : Prop where
  distinct : Entries.Distinct es
  undotted : ∀ key ∈ Entries.keys es, Path.isDotted key = false
  values : ∀ key v, (key, v) ∈ es → v.Walkable

@[simp] theorem Value.walkable_map_iff {es : Mapping} :
    (Value.map es).Walkable ↔ Mapping.Walkable es := by
  constructor
  · rintro ⟨hdistinct, hundotted⟩
    refine ⟨hdistinct es (.self es), hundotted es (.self es), ?_⟩
    intro key v hv
    constructor
    · intro sub hsub
      exact hdistinct sub (.entry hv hsub)
    · intro sub hsub
      exact hundotted sub (.entry hv hsub)
  · rintro ⟨hdistinct, hundotted, hvalues⟩
    constructor
    · intro sub hsub
      cases hsub with
      | self => exact hdistinct
      | entry mem reaches => exact (hvalues _ _ mem).distinct sub reaches
    · intro sub hsub
      cases hsub with
      | self => exact hundotted
      | entry mem reaches => exact (hvalues _ _ mem).undotted sub reaches

variable {key : String} {v : Value} {rest : Mapping}

theorem Value.walkable_of_map?_eq_none (h : v.map? = none) : v.Walkable := by
  have hreaches : ∀ es, ¬ v.Reaches es := by
    intro es hes
    cases hes <;> cases h
  exact ⟨fun es hes => absurd hes (hreaches es), fun es hes => absurd hes (hreaches es)⟩

theorem Mapping.walkable_nil : Mapping.Walkable [] :=
  ⟨List.nodup_nil, fun _ h => (by cases h), fun _ _ h => (by cases h)⟩

@[simp] theorem Mapping.walkable_cons_iff :
    Mapping.Walkable ((key, v) :: rest) ↔
      Path.isDotted key = false ∧ key ∉ Entries.keys rest ∧ v.Walkable ∧ Mapping.Walkable rest := by
  constructor
  · rintro ⟨hdistinct, hundotted, hvalues⟩
    obtain ⟨hkey, hrest⟩ := List.nodup_cons.mp hdistinct
    refine ⟨hundotted key List.mem_cons_self, hkey, hvalues key v List.mem_cons_self, hrest, ?_, ?_⟩
    · intro k hk
      exact hundotted k (List.mem_cons_of_mem _ hk)
    · intro k w hw
      exact hvalues k w (List.mem_cons_of_mem _ hw)
  · rintro ⟨hundotted, hkey, hv, hrest⟩
    refine ⟨List.nodup_cons.mpr ⟨hkey, hrest.distinct⟩, ?_, ?_⟩
    · exact List.forall_mem_cons.mpr ⟨hundotted, hrest.undotted⟩
    · intro k w hw
      cases hw with
      | head => exact hv
      | tail _ hw => exact hrest.values k w hw

mutual

/-- The test for `Value.Walkable`. -/
def Value.isWalkable : Value → Bool
  | .map es => Mapping.isWalkable es
  | _ => true
termination_by structural v => v

def Mapping.isWalkable : List (String × Value) → Bool
  | [] => true
  | (key, v) :: rest =>
    !Path.isDotted key && decide (key ∉ Entries.keys rest) && Value.isWalkable v &&
      Mapping.isWalkable rest
termination_by structural es => es

end

theorem Mapping.isWalkable_iff_of_values {es : Mapping}
    (ih : ∀ key v, (key, v) ∈ es → (v.isWalkable = true ↔ v.Walkable)) :
    Mapping.isWalkable es = true ↔ Mapping.Walkable es := by
  induction es with
  | nil => exact iff_of_true rfl walkable_nil
  | cons e rest ihrest =>
    obtain ⟨key, v⟩ := e
    obtain ⟨hv, hrest⟩ := Entries.forall_mem_cons_iff.mp ih
    rw [walkable_cons_iff, ← hv, ← ihrest hrest, isWalkable]
    simp only [Bool.and_eq_true, Bool.not_eq_true', decide_eq_true_eq, and_assoc]

@[simp] theorem Value.isWalkable_iff {v : Value} : v.isWalkable = true ↔ v.Walkable := by
  induction v using mappingInduction with
  | plain v hv =>
    refine iff_of_true ?_ (walkable_of_map?_eq_none hv)
    cases v with
    | map => cases hv
    | _ => rfl
  | map es ih =>
    rw [walkable_map_iff, isWalkable]
    exact Mapping.isWalkable_iff_of_values ih

instance {v : Value} : Decidable v.Walkable := decidable_of_iff _ Value.isWalkable_iff

/-! ## The walk of such a document -/

theorem Mapping.preorder_complete_of_values {es : Mapping}
    (ih : ∀ key v, (key, v) ∈ es → v.Walkable → ∀ path, (v.preorder path).2 = true)
    (h : Mapping.Walkable es) (parent : Option String) :
    (Mapping.preorder parent es).2 = true := by
  induction es with
  | nil => rfl
  | cons e rest ihrest =>
    obtain ⟨key, v⟩ := e
    obtain ⟨hundotted, -, hv, hrest⟩ := Mapping.walkable_cons_iff.mp h
    have hbelow := ih key v List.mem_cons_self hv (WalkFrame.path parent key)
    rw [Mapping.preorder, if_neg (by simp [hundotted])]
    simp only [hbelow, if_true]
    exact ihrest (fun k w hw => ih k w (List.mem_cons_of_mem _ hw)) hrest

/-- The walk below a value comes to its end. -/
theorem Value.preorder_complete {v : Value} : v.Walkable → ∀ path, (v.preorder path).2 = true := by
  induction v using mappingInduction with
  | plain v hv =>
    intro _ path
    cases v with
    | map => cases hv
    | _ => rfl
  | map es ih =>
    intro h path
    exact Mapping.preorder_complete_of_values ih (walkable_map_iff.mp h) (some path)

theorem Mapping.preorder_cons {parent : Option String} (hkey : Path.isDotted key = false)
    (hv : v.Walkable) :
    (Mapping.preorder parent ((key, v) :: rest)).1 =
      .ok (WalkFrame.path parent key, v) ::
        ((v.preorder (WalkFrame.path parent key)).1 ++ (Mapping.preorder parent rest).1) := by
  rw [Mapping.preorder, if_neg (by simp [hkey])]
  simp [Value.preorder_complete hv]

namespace WalkFrame

/-- The keys that lead to the mapping of a frame. -/
def chain : Option String → List String
  | some p => Path.keys p
  | none => []

/-- The root has no path and no empty key; every other mapping has a path that is not empty. -/
def Named (parent : Option String) (es : Mapping) : Prop :=
  parent ≠ some "" ∧ (parent = none → ∀ key ∈ Entries.keys es, key ≠ "")

theorem Named.tail {parent : Option String} (h : Named parent ((key, v) :: rest)) :
    Named parent rest :=
  ⟨h.1, fun hp k hk => h.2 hp k (List.mem_cons_of_mem _ hk)⟩

theorem keys_path {parent : Option String} (h : Named parent ((key, v) :: rest))
    (hkey : Path.isDotted key = false) : Path.keys (path parent key) = chain parent ++ [key] := by
  cases parent with
  | none => exact Path.keys_of_undotted hkey
  | some p =>
    have hp : p ≠ "" := fun hp => h.1 (by rw [hp])
    exact Path.keys_join hp hkey

theorem path_ne_empty {parent : Option String} (h : Named parent ((key, v) :: rest)) :
    path parent key ≠ "" := by
  cases parent with
  | none => exact h.2 rfl key List.mem_cons_self
  | some p =>
    have hp : p ≠ "" := fun hp => h.1 (by rw [hp])
    exact Path.join_ne_empty hp

theorem named_some {p : String} (hp : p ≠ "") (es : Mapping) : Named (some p) es :=
  ⟨fun h => hp (Option.some.inj h), fun h => by cases h⟩

end WalkFrame

theorem Mapping.preorder_keys_of_values {es : Mapping}
    (ih : ∀ key v, (key, v) ∈ es → v.Walkable → ∀ path, path ≠ "" →
      ∀ item ∈ (v.preorder path).1, ∃ p w, item = .ok (p, w) ∧ Path.keys path <+: Path.keys p)
    (h : Mapping.Walkable es) {parent : Option String} (hp : WalkFrame.Named parent es) :
    ∀ item ∈ (Mapping.preorder parent es).1,
      ∃ p w, item = .ok (p, w) ∧ WalkFrame.chain parent <+: Path.keys p := by
  induction es with
  | nil => simp [Mapping.preorder]
  | cons e rest ihrest =>
    obtain ⟨key, v⟩ := e
    obtain ⟨hundotted, -, hv, hrest⟩ := Mapping.walkable_cons_iff.mp h
    have hkeys := WalkFrame.keys_path hp hundotted
    have hpath : WalkFrame.chain parent <+: Path.keys (WalkFrame.path parent key) :=
      hkeys ▸ List.prefix_append _ _
    intro item hitem
    rw [Mapping.preorder_cons hundotted hv] at hitem
    rcases List.mem_cons.mp hitem with rfl | hitem
    · exact ⟨_, _, rfl, hpath⟩
    · rcases List.mem_append.mp hitem with hitem | hitem
      · have hbelow := ih key v List.mem_cons_self hv _ (WalkFrame.path_ne_empty hp)
        obtain ⟨p, w, rfl, hprefix⟩ := hbelow item hitem
        exact ⟨p, w, rfl, hpath.trans hprefix⟩
      · exact ihrest (fun k w hw => ih k w (List.mem_cons_of_mem _ hw)) hrest hp.tail item hitem

/-- The walk below a value visits paths below the path of the value. -/
theorem Value.preorder_keys {v : Value} : v.Walkable → ∀ path, path ≠ "" →
    ∀ item ∈ (v.preorder path).1, ∃ p w, item = .ok (p, w) ∧ Path.keys path <+: Path.keys p := by
  induction v using mappingInduction with
  | plain v hv =>
    intro _ path _ item hitem
    cases v with
    | map => cases hv
    | _ => cases hitem
  | map es ih =>
    intro h path hpath
    exact Mapping.preorder_keys_of_values ih (walkable_map_iff.mp h) (WalkFrame.named_some hpath es)

end TypedDocument
