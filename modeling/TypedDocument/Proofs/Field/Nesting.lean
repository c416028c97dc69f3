import TypedDocument.Field.Builder
import TypedDocument.Proofs.Entries
import TypedDocument.Schema.Dict

/-!
# Fields within fields

A field for lists is made of its candidates and a field for mappings of the fields of its
entries, at any depth. Defaults are no part of a field in this sense. `Field.Everywhere` says
that a condition on kinds holds throughout a field.
-/

namespace TypedDocument

/-- Whether the values of a kind are described part by part. -/
def FieldKind.isContainer : FieldKind → Bool
  | list .. => true
  | dict _ => true
  | _ => false

theorem FieldKind.eq_list_or_ne (kind : FieldKind) :
    (∃ candidates least most, kind = .list candidates least most) ∨
      ∀ candidates least most, kind ≠ .list candidates least most := by
  cases kind with
  | list candidates least most => exact .inl ⟨candidates, least, most, rfl⟩
  | _ => simp

theorem FieldKind.eq_dict_or_ne (kind : FieldKind) :
    (∃ d, kind = .dict d) ∨ ∀ d, kind ≠ .dict d := by
  cases kind with
  | dict d => exact .inl ⟨d, rfl⟩
  | _ => simp

/-- Mappings are taken apart, read as declarations, or passed as they are. -/
theorem FieldKind.eq_dict_or_field_or_ne (kind : FieldKind) :
    (∃ d, kind = .dict d) ∨ kind = .field ∨ (∀ d, kind ≠ .dict d) ∧ kind ≠ .field := by
  cases kind with
  | dict d => exact .inl ⟨d, rfl⟩
  | field => exact .inr (.inl rfl)
  | _ => simp

/-- The second field is the first one or a part of it. -/
inductive Field.Within : Field → Field → Prop where
  | self (f : Field) : Within f f
  | candidate {f c g : Field} {candidates : List Field} {least : Nat} {most : Option Nat}
    (kind : f.kind = .list candidates least most) (mem : c ∈ candidates) (within : Within c g) :
    Within f g
  | entry {f c g : Field} {d : Dict} {key : SchemaKey} (kind : f.kind = .dict d)
    (mem : (key, c) ∈ d) (within : Within c g) : Within f g

theorem Field.sizeOf_candidate_lt {f c : Field} {candidates : List Field} {least : Nat}
    {most : Option Nat} (hk : f.kind = .list candidates least most) (hc : c ∈ candidates) :
    sizeOf c < sizeOf f := by
  obtain ⟨kind, options, default⟩ := f
  cases hk
  have hmem := List.sizeOf_lt_of_mem hc
  simp only [mk.sizeOf_spec, FieldKind.list.sizeOf_spec]
  omega

theorem Field.sizeOf_entry_lt {f c : Field} {d : Dict} {key : SchemaKey} (hk : f.kind = .dict d)
    (hc : (key, c) ∈ d) : sizeOf c < sizeOf f := by
  obtain ⟨kind, options, default⟩ := f
  cases hk
  have hmem := List.sizeOf_lt_of_mem hc
  simp only [Prod.mk.sizeOf_spec] at hmem
  simp only [mk.sizeOf_spec, FieldKind.dict.sizeOf_spec]
  omega

/-- The induction principle of fields. The recursor of the type itself also goes into defaults. -/
theorem Field.partInduction {motive : Field → Prop}
    (step : ∀ f : Field,
      (∀ candidates least most, f.kind = .list candidates least most → ∀ c ∈ candidates, motive c) →
      (∀ d : Dict, f.kind = .dict d → ∀ key c, (key, c) ∈ d → motive c) → motive f)
    (f : Field) : motive f :=
  step f (fun _ _ _ hk c hc => have := sizeOf_candidate_lt hk hc; partInduction step c)
    fun _ hk _ c hc => have := sizeOf_entry_lt hk hc; partInduction step c
termination_by sizeOf f

/-- A condition on kinds holds for a field and all its parts. -/
def Field.Everywhere (p : FieldKind → Prop) (f : Field) : Prop := ∀ g, f.Within g → p g.kind

/-- A condition on kinds holds for all fields of a dict and all their parts. -/
def Dict.Everywhere (p : FieldKind → Prop) (d : Dict) : Prop :=
  ∀ key f, (key, f) ∈ d → f.Everywhere p

variable {p : FieldKind → Prop} {f : Field} {d : Dict}

theorem Field.Everywhere.kind (h : f.Everywhere p) : p f.kind := h f (.self f)

theorem Field.Everywhere.candidate {c : Field} {candidates : List Field} {least : Nat}
    {most : Option Nat} (h : f.Everywhere p) (hk : f.kind = .list candidates least most)
    (hc : c ∈ candidates) : c.Everywhere p :=
  fun g hg => h g (.candidate hk hc hg)

theorem Field.Everywhere.dict (h : f.Everywhere p) (hk : f.kind = .dict d) : d.Everywhere p :=
  fun _ _ hmem g hg => h g (.entry hk hmem hg)

/-- Throughout a field means at the field itself, throughout its candidates and throughout its
entries. -/
theorem Field.everywhere_iff :
    f.Everywhere p ↔ p f.kind ∧ (∀ candidates least most, f.kind = .list candidates least most →
      ∀ c ∈ candidates, c.Everywhere p) ∧ ∀ d : Dict, f.kind = .dict d → d.Everywhere p := by
  constructor
  · exact fun h => ⟨h.kind, fun _ _ _ hk _ hc => h.candidate hk hc, fun _ hk => h.dict hk⟩
  · rintro ⟨hkind, hlist, hdict⟩ g hg
    cases hg with
    | self => exact hkind
    | candidate kind mem within => exact hlist _ _ _ kind _ mem g within
    | entry kind mem within => exact hdict _ kind _ _ mem g within

/-- A field without parts needs to satisfy the condition itself. -/
theorem Field.everywhere_of_plain (hk : f.kind.isContainer = false) (h : p f.kind) :
    f.Everywhere p := by
  refine everywhere_iff.mpr ⟨h, ?_, ?_⟩
  · intro _ _ _ hlist
    simp [hlist, FieldKind.isContainer] at hk
  · intro _ hdict
    simp [hdict, FieldKind.isContainer] at hk

@[simp] theorem Dict.everywhere_nil : Dict.Everywhere p [] := fun _ _ h => by cases h

@[simp] theorem Dict.everywhere_cons {key : SchemaKey} :
    Dict.Everywhere p ((key, f) :: d) ↔ f.Everywhere p ∧ d.Everywhere p :=
  Entries.forall_mem_cons_iff

@[simp] theorem Field.everywhere_list_iff {candidates : List Field} :
    (Field.list candidates).Everywhere p ↔
      p (.list candidates 0 none) ∧ ∀ c ∈ candidates, c.Everywhere p := by
  rw [everywhere_iff]
  constructor
  · rintro ⟨hkind, hlist, -⟩
    exact ⟨hkind, hlist candidates 0 none rfl⟩
  · rintro ⟨hkind, hcandidates⟩
    refine ⟨hkind, ?_, ?_⟩
    · intro cs least most hk c hc
      cases hk
      exact hcandidates c hc
    · intro d hk
      cases hk

@[simp] theorem Field.everywhere_dict_iff :
    (Field.dict d).Everywhere p ↔ p (.dict d) ∧ d.Everywhere p := by
  rw [everywhere_iff]
  constructor
  · rintro ⟨hkind, -, hdict⟩
    exact ⟨hkind, hdict d rfl⟩
  · rintro ⟨hkind, hd⟩
    refine ⟨hkind, ?_, ?_⟩
    · intro _ _ _ hk
      cases hk
    · intro d' hk
      cases hk
      exact hd

mutual

/-- The test for `Field.Everywhere`, from a test of kinds. -/
def Field.all (q : FieldKind → Bool) : Field → Bool
  | .mk kind _ _ => q kind && FieldKind.allParts q kind
termination_by structural f => f

def FieldKind.allParts (q : FieldKind → Bool) : FieldKind → Bool
  | .list candidates _ _ => Field.allCandidates q candidates
  | .dict d => Dict.all q d
  | _ => true
termination_by structural kind => kind

def Field.allCandidates (q : FieldKind → Bool) : List Field → Bool
  | [] => true
  | f :: rest => Field.all q f && Field.allCandidates q rest
termination_by structural candidates => candidates

def Dict.all (q : FieldKind → Bool) : List (SchemaKey × Field) → Bool
  | [] => true
  | (_, f) :: rest => Field.all q f && Dict.all q rest
termination_by structural d => d

end

variable {q : FieldKind → Bool}

@[simp] theorem Field.allCandidates_iff {candidates : List Field} :
    allCandidates q candidates = true ↔ ∀ c ∈ candidates, c.all q = true := by
  induction candidates with
  | nil => simp [allCandidates]
  | cons f rest ih => rw [allCandidates, Bool.and_eq_true, ih, List.forall_mem_cons]

@[simp] theorem Dict.all_iff : Dict.all q d = true ↔ ∀ key f, (key, f) ∈ d → f.all q = true := by
  induction d with
  | nil => simp [all]
  | cons e rest ih => rw [all, Bool.and_eq_true, ih, Entries.forall_mem_cons_iff]

theorem Field.all_iff (f : Field) (hq : ∀ kind, q kind = true ↔ p kind) :
    f.all q = true ↔ f.Everywhere p := by
  induction f using partInduction with
  | step f ihlist ihdict =>
    obtain ⟨kind, options, default⟩ := f
    rw [all, Bool.and_eq_true, hq, everywhere_iff]
    refine and_congr_right' ?_
    cases kind with
    | list candidates least most =>
      rw [FieldKind.allParts, allCandidates_iff, forall₂_congr (ihlist candidates least most rfl)]
      constructor
      · intro h
        refine ⟨?_, fun _ hk => by cases hk⟩
        rintro _ _ _ ⟨⟩
        exact h
      · exact fun h => h.1 candidates least most rfl
    | dict d =>
      rw [FieldKind.allParts, Dict.all_iff, forall₃_congr (ihdict d rfl)]
      constructor
      · intro h
        refine ⟨fun _ _ _ hk => (by cases hk), ?_⟩
        rintro _ ⟨⟩
        exact h
      · exact fun h => h.2 d rfl
    | _ =>
      exact iff_of_true rfl ⟨fun _ _ _ hk => (by cases hk), fun _ hk => (by cases hk)⟩

instance [DecidablePred p] : Decidable (f.Everywhere p) :=
  decidable_of_iff _ (f.all_iff fun kind => decide_eq_true_iff (p := p kind))

instance [DecidablePred p] : Decidable (d.Everywhere p) :=
  decidable_of_iff (Dict.all (fun kind => decide (p kind)) d) (Dict.all_iff.trans
    (forall₃_congr fun _ f _ => f.all_iff fun kind => decide_eq_true_iff (p := p kind)))

/-- The field that governs a key is a field of the dict. -/
theorem Dict.exists_mem_of_field?_eq_some {key : String} (h : d.field? key = some f) :
    ∃ k, (k, f) ∈ d := by
  simp only [field?, get?, Option.or_eq_some_iff] at h
  rcases h with h | ⟨_, h⟩
  · exact ⟨_, Entries.mem_of_get?_eq_some h⟩
  · exact ⟨_, Entries.mem_of_get?_eq_some h⟩

theorem Dict.Everywhere.field {key : String} (h : d.Everywhere p) (hf : d.field? key = some f) :
    f.Everywhere p := by
  obtain ⟨k, hmem⟩ := exists_mem_of_field?_eq_some hf
  exact h k f hmem

end TypedDocument
