import TypedDocument.Proofs.Document.Containers
import TypedDocument.Proofs.Document.Json
import TypedDocument.Proofs.Entries
import TypedDocument.Proofs.Field.Nesting
import TypedDocument.Proofs.Traversal

/-!
# Equality up to the order of entries

Two documents are the same up to the order of entries if their mappings have the same keys with
values that are again the same, at every depth. Lists keep the order of their elements. The same
goes for fields, whose nested mappings may list their entries in any order, and for JSON values. No
mapping that takes part has a key twice, so a value is related to itself exactly if it is a proper
document in this sense.
-/

namespace TypedDocument

/-- The same keys with related values, in any order. -/
structure Entries.Reordered {κ α : Type} (r : α → α → Prop) (es es' : Entries κ α) : Prop where
  distinct : es.Distinct
  distinct' : es'.Distinct
  keys : ∀ key, key ∈ Entries.keys es ↔ key ∈ Entries.keys es'
  values : ∀ key a b, (key, a) ∈ es → (key, b) ∈ es' → r a b

mutual

/-- Two documents are the same up to the order of entries. -/
inductive Value.Reordered : Value → Value → Prop where
  | leaf {v : Value} (plain : v.isContainer = false) : Value.Reordered v v
  | field {f g : Field} (fields : Field.Reordered f g) : Value.Reordered (.field f) (.field g)
  | list {items items' : List Value} (elements : Value.ItemsReordered items items') :
    Value.Reordered (.list items) (.list items')
  | map {es es' : Mapping} (distinct : es.Distinct) (distinct' : es'.Distinct)
    (keys : ∀ key, key ∈ Entries.keys es ↔ key ∈ Entries.keys es')
    (values : ∀ key v w, (key, v) ∈ es → (key, w) ∈ es' → Value.Reordered v w) :
    Value.Reordered (.map es) (.map es')

/-- The same elements in the same order. -/
inductive Value.ItemsReordered : List Value → List Value → Prop where
  | nil : Value.ItemsReordered [] []
  | cons {v w : Value} {vs ws : List Value} (head : Value.Reordered v w)
    (tail : Value.ItemsReordered vs ws) : Value.ItemsReordered (v :: vs) (w :: ws)

/-- Two fields are the same up to the order of entries in nested mappings and in defaults. -/
inductive Field.Reordered : Field → Field → Prop where
  | refl (f : Field) : Field.Reordered f f
  | mk {kind kind' : FieldKind} {options : FieldOptions} {default default' : Default}
    (kinds : FieldKind.Reordered kind kind') (defaults : Default.Reordered default default') :
    Field.Reordered (.mk kind options default) (.mk kind' options default')

inductive FieldKind.Reordered : FieldKind → FieldKind → Prop where
  | refl (kind : FieldKind) : FieldKind.Reordered kind kind
  | list {candidates candidates' : List Field} {least : Nat} {most : Option Nat}
    (same : Field.CandidatesReordered candidates candidates') :
    FieldKind.Reordered (.list candidates least most) (.list candidates' least most)
  | dict {d d' : Dict} (distinct : d.Distinct) (distinct' : d'.Distinct)
    (keys : ∀ key, key ∈ Entries.keys d ↔ key ∈ Entries.keys d')
    (values : ∀ key f g, (key, f) ∈ d → (key, g) ∈ d' → Field.Reordered f g) :
    FieldKind.Reordered (.dict d) (.dict d')

/-- The same candidates in the same order. -/
inductive Field.CandidatesReordered : List Field → List Field → Prop where
  | nil : Field.CandidatesReordered [] []
  | cons {f g : Field} {fs gs : List Field} (head : Field.Reordered f g)
    (tail : Field.CandidatesReordered fs gs) : Field.CandidatesReordered (f :: fs) (g :: gs)

inductive Default.Reordered : Default → Default → Prop where
  | refl (default : Default) : Default.Reordered default default
  | value {v w : Value} (same : Value.Reordered v w) : Default.Reordered (.value v) (.value w)

end

theorem rel_or {α β : Type} {r : α → β → Prop} {a c : Option α} {b d : Option β}
    (hab : Option.Rel r a b) (hcd : Option.Rel r c d) : Option.Rel r (a.or c) (b.or d) := by
  cases hab with
  | none => exact hcd
  | some h => exact .some h

/-! ## Entries in any order -/

namespace Entries

variable {κ α : Type} {r : α → α → Prop} {es es' : Entries κ α} {key : κ} {a b : α}

section Lookup

variable [BEq κ] [LawfulBEq κ]

/-- In entries that are the same up to order, a key has related values or none. -/
theorem Reordered.get? (h : Reordered r es es') (key : κ) :
    Option.Rel r (get? key es) (get? key es') := by
  cases hes : Entries.get? key es with
  | none =>
    have hes' : Entries.get? key es' = none := by
      rw [get?_eq_none_iff, ← h.keys, ← get?_eq_none_iff]
      exact hes
    rw [hes']
    exact .none
  | some a =>
    cases hes' : Entries.get? key es' with
    | none =>
      rw [get?_eq_none_iff, ← h.keys, ← get?_eq_none_iff, hes] at hes'
      cases hes'
    | some b =>
      exact .some (h.values key a b (mem_of_get?_eq_some hes) (mem_of_get?_eq_some hes'))

theorem reordered_of_get? (hes : es.Distinct) (hes' : es'.Distinct)
    (h : ∀ key, Option.Rel r (get? key es) (get? key es')) : Reordered r es es' where
  distinct := hes
  distinct' := hes'
  keys key := by
    have hkey := h key
    rw [← Decidable.not_iff_not, ← get?_eq_none_iff, ← get?_eq_none_iff]
    cases hl : Entries.get? key es <;> cases hr : Entries.get? key es' <;> simp_all
  values key a b ha hb := by
    have hkey := h key
    rw [(mem_iff_get? hes).mp ha, (mem_iff_get? hes').mp hb] at hkey
    cases hkey with
    | some hab => exact hab

theorem Reordered.put (h : Reordered r es es') (hab : r a b) :
    Reordered r (put key a es) (put key b es') := by
  refine reordered_of_get? h.distinct.put h.distinct'.put ?_
  intro k
  rw [get?_put, get?_put]
  split
  · exact .some hab
  · exact h.get? k

theorem Reordered.erase (h : Reordered r es es') : Reordered r (erase key es) (erase key es') := by
  refine reordered_of_get? h.distinct.erase h.distinct'.erase ?_
  intro k
  rw [get?_erase h.distinct, get?_erase h.distinct']
  split
  · exact .none
  · exact h.get? k

end Lookup

/-- Keys may be renamed, if none are brought together, and values replaced. -/
theorem Reordered.map {κ' β : Type} {s : β → β → Prop} (h : Reordered r es es') {name : κ → κ'}
    (hname : Function.Injective name) {make : α → β} (hmake : ∀ a b, r a b → s (make a) (make b)) :
    Reordered s (es.map fun e => (name e.1, make e.2)) (es'.map fun e => (name e.1, make e.2)) := by
  have hkeys : ∀ es : Entries κ α,
      Entries.keys (es.map fun e => (name e.1, make e.2)) = (Entries.keys es).map name := by
    intro es
    simp [Entries.keys]
  have hdistinct : ∀ es : Entries κ α, es.Distinct →
      Distinct (es.map fun e => (name e.1, make e.2)) := by
    intro es hes
    rw [Distinct, hkeys]
    exact List.Pairwise.map name (fun _ _ hne heq => hne (hname heq)) hes
  refine ⟨hdistinct es h.distinct, hdistinct es' h.distinct', ?_, ?_⟩
  · intro key
    simp only [hkeys, List.mem_map, h.keys]
  · intro key b c hb hc
    obtain ⟨⟨k, x⟩, hx, heq⟩ := List.mem_map.mp hb
    obtain ⟨⟨k', y⟩, hy, heq'⟩ := List.mem_map.mp hc
    cases heq
    obtain ⟨hk, rfl⟩ := Prod.mk.inj heq'
    cases hname hk
    exact hmake x y (h.values k x y hx hy)

/-- Two entries in either order. -/
theorem reordered_pair {k l : κ} {a a' b b' : α} (hne : k ≠ l) (ha : r a a') (hb : r b b') :
    Reordered r [(k, a), (l, b)] [(l, b'), (k, a')] where
  distinct := by simp [Distinct, Entries.keys, hne]
  distinct' := by simp [Distinct, Entries.keys, hne.symm]
  keys key := by simp [Entries.keys, or_comm]
  values key c d hc hd := by
    simp only [List.mem_cons, Prod.mk.injEq, List.not_mem_nil, or_false] at hc hd
    rcases hc with ⟨rfl, rfl⟩ | ⟨rfl, rfl⟩ <;> rcases hd with ⟨hkey, rfl⟩ | ⟨hkey, rfl⟩
    · exact absurd hkey hne
    · exact ha
    · exact hb
    · exact absurd hkey.symm hne

/-- The entries under the keys that meet a test. -/
theorem Reordered.filter (h : Reordered r es es') (test : κ → Bool) :
    Reordered r (es.filter fun e => test e.1) (es'.filter fun e => test e.1) := by
  have hkeys : ∀ es : Entries κ α,
      Entries.keys (es.filter fun e => test e.1) = (Entries.keys es).filter test := by
    intro es
    exact List.filter_map.symm
  refine ⟨?_, ?_, ?_, ?_⟩
  · rw [Distinct, hkeys]
    exact h.distinct.filter test
  · rw [Distinct, hkeys]
    exact h.distinct'.filter test
  · intro key
    rw [hkeys, hkeys, List.mem_filter, List.mem_filter, h.keys]
  · intro key a b ha hb
    exact h.values key a b (List.mem_filter.mp ha).1 (List.mem_filter.mp hb).1

theorem Reordered.exists_mem (h : Reordered r es es') (ha : (key, a) ∈ es) :
    ∃ b, (key, b) ∈ es' ∧ r a b := by
  obtain ⟨e, hb, rfl⟩ := List.mem_map.mp ((h.keys key).mp (List.mem_map_of_mem (f := (·.1)) ha))
  exact ⟨e.2, hb, h.values e.1 a e.2 ha hb⟩

theorem Reordered.exists_mem' (h : Reordered r es es') (hb : (key, b) ∈ es') :
    ∃ a, (key, a) ∈ es ∧ r a b := by
  obtain ⟨e, ha, rfl⟩ := List.mem_map.mp ((h.keys key).mpr (List.mem_map_of_mem (f := (·.1)) hb))
  exact ⟨e.2, ha, h.values e.1 e.2 b ha hb⟩

/-- Conditions on all entries that agree on related values do not depend on the order. -/
theorem Reordered.forall_iff (h : Reordered r es es') {p q : κ → α → Prop}
    (hpq : ∀ key a b, (key, a) ∈ es → r a b → (p key a ↔ q key b)) :
    (∀ key a, (key, a) ∈ es → p key a) ↔ ∀ key b, (key, b) ∈ es' → q key b := by
  constructor
  · intro hall key b hb
    obtain ⟨a, ha, hab⟩ := h.exists_mem' hb
    exact (hpq key a b ha hab).mp (hall key a ha)
  · intro hall key a ha
    obtain ⟨b, hb, hab⟩ := h.exists_mem ha
    exact (hpq key a b ha hab).mpr (hall key b hb)

/-- A traversal that makes related things of related entries keeps entries the same up to order. How
it fails may depend on the order, but not whether. -/
theorem Reordered.traverse {ε ε' β : Type} {s : β → β → Prop} {step : κ → α → Except ε β}
    {step' : κ → α → Except ε' β} (h : Reordered r es es')
    (hstep : ∀ key a b, (key, a) ∈ es → r a b → Agree s (step key a) (step' key b)) :
    Agree (Reordered s) (es.traverse step) (es'.traverse step') := by
  apply Agree.of_iff
  · rw [traverse_ok_iff, traverse_ok_iff]
    exact h.forall_iff fun key a b ha hab => (hstep key a b ha hab).ok_iff
  · intro ws ws' hws hws'
    have hkeys := keys_traverse hws
    have hkeys' := keys_traverse hws'
    refine ⟨?_, ?_, ?_, ?_⟩
    · rw [Distinct, hkeys]
      exact h.distinct
    · rw [Distinct, hkeys']
      exact h.distinct'
    · intro key
      rw [hkeys, hkeys']
      exact h.keys key
    · intro key w w' hw hw'
      obtain ⟨a, ha, haw⟩ := mem_traverse hws key w hw
      obtain ⟨b, hb, hbw⟩ := mem_traverse hws' key w' hw'
      exact (hstep key a b ha (h.values key a b ha hb)).rel haw hbw

end Entries

/-! ## Documents -/

namespace Value

/-- No mapping in a document has a key twice. -/
def Proper (v : Value) : Prop := v.Everywhere fun w => ∀ es, w = .map es → Entries.Distinct es

theorem proper_of_leaf {v : Value} (hv : v.isContainer = false) : v.Proper := by
  refine (everywhere_leaf_iff hv).mpr ?_
  rintro es rfl
  cases hv

@[simp] theorem proper_list_iff {items : List Value} :
    (Value.list items).Proper ↔ ∀ v ∈ items, v.Proper := by
  rw [Proper, everywhere_list_iff]
  exact and_iff_right fun _ h => by cases h

@[simp] theorem proper_map_iff {es : Mapping} :
    (Value.map es).Proper ↔ Entries.Distinct es ∧ ∀ key v, (key, v) ∈ es → v.Proper := by
  rw [Proper, everywhere_map_iff]
  refine and_congr_left fun _ => ?_
  constructor
  · exact fun h => h es rfl
  · rintro h _ ⟨⟩
    exact h

mutual

/-- The test for `Proper`. -/
def isProper : Value → Bool
  | map es => decide (Entries.Distinct es) && areProperEntries es
  | list items => areProperItems items
  | _ => true
termination_by structural v => v

def areProperItems : List Value → Bool
  | [] => true
  | v :: rest => v.isProper && areProperItems rest
termination_by structural items => items

def areProperEntries : List (String × Value) → Bool
  | [] => true
  | (_, v) :: rest => v.isProper && areProperEntries rest
termination_by structural es => es

end

@[simp] theorem areProperItems_iff {items : List Value} :
    areProperItems items = true ↔ ∀ v ∈ items, v.isProper = true := by
  induction items with
  | nil => simp [areProperItems]
  | cons v rest ih => rw [areProperItems, Bool.and_eq_true, ih, List.forall_mem_cons]

@[simp] theorem areProperEntries_iff {es : Mapping} :
    areProperEntries es = true ↔ ∀ key v, (key, v) ∈ es → v.isProper = true := by
  induction es with
  | nil => simp [areProperEntries]
  | cons e rest ih => rw [areProperEntries, Bool.and_eq_true, ih, Entries.forall_mem_cons_iff]

@[simp] theorem isProper_iff {v : Value} : v.isProper = true ↔ v.Proper := by
  induction v using containerInduction with
  | leaf v hv =>
    refine iff_of_true ?_ (proper_of_leaf hv)
    cases v with
    | list => cases hv
    | map => cases hv
    | _ => rfl
  | list items ih =>
    rw [isProper, areProperItems_iff, proper_list_iff]
    exact forall₂_congr ih
  | map es ih =>
    rw [isProper, Bool.and_eq_true, decide_eq_true_eq, areProperEntries_iff, proper_map_iff]
    exact and_congr_right' (forall₃_congr ih)

instance {v : Value} : Decidable v.Proper := decidable_of_iff _ isProper_iff

@[simp] theorem reordered_map_iff {es es' : Mapping} :
    (Value.map es).Reordered (.map es') ↔ Entries.Reordered Value.Reordered es es' := by
  constructor
  · intro h
    cases h with
    | leaf plain => cases plain
    | map distinct distinct' keys values => exact ⟨distinct, distinct', keys, values⟩
  · intro h
    exact .map h.distinct h.distinct' h.keys h.values

theorem ItemsReordered.of_forall {items : List Value} (h : ∀ v ∈ items, v.Reordered v) :
    ItemsReordered items items := by
  induction items with
  | nil => exact .nil
  | cons v rest ih =>
    exact .cons (h v List.mem_cons_self) (ih fun w hw => h w (List.mem_cons_of_mem v hw))

/-- A document without repeated keys is the same as itself. -/
theorem Proper.reordered {v : Value} : v.Proper → v.Reordered v := by
  induction v using containerInduction with
  | leaf v hv => exact fun _ => .leaf hv
  | list items ih =>
    intro h
    exact .list (.of_forall fun v hv => ih v hv (proper_list_iff.mp h v hv))
  | map es ih =>
    intro h
    obtain ⟨hdistinct, hvalues⟩ := proper_map_iff.mp h
    refine .map hdistinct hdistinct (fun _ => Iff.rfl) ?_
    intro key v w hv hw
    have hvw : some v = some w :=
      ((Entries.mem_iff_get? hdistinct).mp hv).symm.trans ((Entries.mem_iff_get? hdistinct).mp hw)
    cases hvw
    exact ih key v hv (hvalues key v hv)

variable {v w : Value}

theorem Reordered.type (h : v.Reordered w) : v.type = w.type := by
  cases h <;> rfl

end Value

/-! ## Fields -/

theorem Field.CandidatesReordered.refl (candidates : List Field) :
    CandidatesReordered candidates candidates := by
  induction candidates with
  | nil => exact .nil
  | cons c rest ih => exact .cons (.refl c) ih

namespace Field.Reordered

variable {f g : Field}

theorem kind (h : f.Reordered g) : f.kind.Reordered g.kind := by
  cases h with
  | refl => exact .refl _
  | mk kinds defaults => exact kinds

theorem options (h : f.Reordered g) : f.options = g.options := by
  cases h <;> rfl

theorem default (h : f.Reordered g) : f.default.Reordered g.default := by
  cases h with
  | refl => exact .refl _
  | mk kinds defaults => exact defaults

end Field.Reordered

theorem Field.reordered_of_parts {f g : Field} (kind : f.kind.Reordered g.kind)
    (options : f.options = g.options) (default : f.default.Reordered g.default) :
    f.Reordered g := by
  obtain ⟨kindf, optionsf, defaultf⟩ := f
  obtain ⟨kindg, optionsg, defaultg⟩ := g
  cases options
  exact .mk kind default

namespace FieldKind.Reordered

variable {kind kind' : FieldKind}

theorem accepts (h : kind.Reordered kind') {v w : Value} (hvw : v.Reordered w) :
    kind.accepts v = kind'.accepts w := by
  cases h with
  | refl =>
    cases hvw with
    | leaf => rfl
    | _ => cases kind <;> rfl
  | list =>
    cases hvw with
    | leaf => cases v <;> rfl
    | _ => rfl
  | dict =>
    cases hvw with
    | leaf => cases v <;> rfl
    | _ => rfl

theorem list_left {candidates : List Field} {least : Nat} {most : Option Nat}
    (h : (FieldKind.list candidates least most).Reordered kind') :
    ∃ candidates', kind' = .list candidates' least most ∧
      Field.CandidatesReordered candidates candidates' := by
  cases h with
  | refl => exact ⟨candidates, rfl, .refl candidates⟩
  | list same => exact ⟨_, rfl, same⟩

theorem list_ne (h : kind.Reordered kind')
    (hk : ∀ candidates least most, kind ≠ .list candidates least most) :
    ∀ candidates least most, kind' ≠ .list candidates least most := by
  rintro candidates least most rfl
  cases h with
  | refl => exact hk _ _ _ rfl
  | list => exact hk _ _ _ rfl

theorem dict_ne (h : kind.Reordered kind') (hk : ∀ d, kind ≠ .dict d) : ∀ d, kind' ≠ .dict d := by
  rintro d rfl
  cases h with
  | refl => exact hk _ rfl
  | dict => exact hk _ rfl

theorem field_iff (h : kind.Reordered kind') : kind' = .field ↔ kind = .field := by
  cases h with
  | refl => exact Iff.rfl
  | list => exact iff_of_false nofun nofun
  | dict => exact iff_of_false nofun nofun

/-- A key is governed by the same field in both dicts, up to order, or by none. -/
theorem dict_left {d : Dict} (h : (FieldKind.dict d).Reordered kind') :
    ∃ d' : Dict, kind' = .dict d' ∧
      ∀ key, Option.Rel Field.Reordered (d.field? key) (d'.field? key) := by
  cases h with
  | refl =>
    refine ⟨d, rfl, ?_⟩
    intro key
    cases d.field? key with
    | none => exact .none
    | some f => exact .some (.refl f)
  | dict distinct distinct' keys values =>
    refine ⟨_, rfl, ?_⟩
    intro key
    have hentries : Entries.Reordered Field.Reordered d _ := ⟨distinct, distinct', keys, values⟩
    exact rel_or (hentries.get? (.name key)) (hentries.get? (.type (KeyType.ofKey key)))

end FieldKind.Reordered

end TypedDocument
