import TypedDocument.Proofs.Declaration.Parts
import TypedDocument.Proofs.Reordering.Encoding
import TypedDocument.Proofs.Reordering.Reading
import TypedDocument.Proofs.Reordering.Validation

/-!
# The order of entries does not matter to schemas

Schemas that are the same up to order validate, decode and encode documents alike in whatever order
their entries stand, and declarations with their members in another order declare such schemas. The
order decides which failure is reported, never whether there is one.
-/

namespace TypedDocument

namespace Schema

/-- The same schema with the entries of its dicts in another order, at any depth. -/
structure Reordered (s s' : Schema) : Prop where
  root : Entries.Reordered Field.Reordered s.root s'.root
  title : s.title = s'.title
  description : s.description = s'.description

variable {s s' : Schema} {v w : Value} {i j : Json} {ms ms' : List (String × Json)}

theorem Reordered.field (h : s.Reordered s') :
    (Field.dict s.root).Reordered (Field.dict s'.root) :=
  Field.reordered_dict h.root

/-! ## Documents -/

theorem validate_reordered (hs : s.Reordered s') (h : v.Reordered w) (partially : Bool) :
    s.validate v partially = .ok () ↔ s'.validate w partially = .ok () := by
  rw [validate_eq_ok_iff, validate_eq_ok_iff]
  have hconforms : v.Conforms partially (.dict s.root) ↔ w.Conforms partially (.dict s'.root) :=
    Value.conforms_reordered h hs.field
  constructor
  · rintro ⟨es, rfl, hes⟩
    cases h with
    | leaf plain => cases plain
    | map => exact ⟨_, rfl, hconforms.mp hes⟩
  · rintro ⟨es', rfl, hes'⟩
    cases h with
    | leaf plain => cases plain
    | map => exact ⟨_, rfl, hconforms.mpr hes'⟩

theorem encode_permuted (hs : s.Reordered s') (hwell : v.WellFormed) (h : v.Permuted w) :
    Agree Value.Reordered (s.encode v) (s'.encode w) := by
  have hencode := Value.encode_permuted hwell h hs.field
  cases h with
  | map =>
    rw [encode_map, encode_map]
    exact hencode
  | leaf plain =>
    cases v with
    | map => cases plain
    | _ => trivial
  | list => trivial

/-! ## Declarations -/

/-- Declarations of schemas that are the same up to the order of members declare schemas that are
the same up to the order of fields, or neither declares a schema. -/
theorem ofDeclaration_reordered (h : i.Reordered j) :
    Agree Reordered (ofDeclaration i) (ofDeclaration j) := by
  cases h with
  | leaf plain =>
    cases i with
    | object => cases plain
    | _ => trivial
  | array => trivial
  | @object ms ms' distinct distinct' keys values =>
    have hms : Entries.Reordered Json.Reordered ms ms' := ⟨distinct, distinct', keys, values⟩
    have hheadings : (∀ key i, (key, i) ∈ ms → isHeading key = true → i.string?.isSome = true) ↔
        ∀ key j, (key, j) ∈ ms' → isHeading key = true → j.string?.isSome = true :=
      hms.forall_iff fun key i j _ hij => by cases hij <;> exact Iff.rfl
    have hentries : Agree (Entries.Reordered SchemaEntry.Reordered)
        (Entries.traverse (fun key j => Declaration.readEntry [key] j) (entryMembers ms))
        (Entries.traverse (fun key j => Declaration.readEntry [key] j) (entryMembers ms')) := by
      refine (hms.filter fun key => !isHeading key).traverse fun key i j _ hij => ?_
      exact Declaration.readEntry_reordered (Declaration.readsAlike _) (Nat.lt_succ_self _) hij
    have hsaid : ∀ key,
        Declaration.said Json.string? key ms = Declaration.said Json.string? key ms' :=
      Declaration.said_reordered hms fun i j hij => by cases hij <;> rfl
    apply Agree.of_iff
    · rw [ofDeclaration_object_ok_iff distinct, ofDeclaration_object_ok_iff distinct']
      exact and_congr hheadings hentries.ok_iff
    · intro s s' hs hs'
      obtain ⟨-, es, hes, rfl⟩ := (ofDeclaration_object_eq_ok_iff distinct).mp hs
      obtain ⟨-, es', hes', rfl⟩ := (ofDeclaration_object_eq_ok_iff distinct').mp hs'
      exact ⟨Dict.ofEntries_reordered (hentries.rel hes hes'), hsaid _, hsaid _⟩

/-! ## All together -/

/-- The order of entries does not matter: not that of the fields of a schema, not that of the
entries of a document, and not that of the members of a declaration. -/
theorem order_irrelevant :
    (∀ (s s' : Schema) (v w : Value), s.Reordered s' → v.Permuted w →
      (∀ partially, s.validate v partially = .ok () ↔ s'.validate w partially = .ok ()) ∧
        Agree Value.Reordered (s.decode v) (s'.decode w) ∧
        (v.WellFormed → Agree Value.Reordered (s.encode v) (s'.encode w))) ∧
      ∀ i j : Json, i.Reordered j → Agree Reordered (ofDeclaration i) (ofDeclaration j) := by
  refine ⟨fun s s' v w hs hvw => ⟨?_, ?_, ?_⟩, fun i j => ofDeclaration_reordered⟩
  · exact validate_reordered hs hvw.reordered
  · exact decode_reordered hs.field hvw.reordered
  · exact fun hwell => encode_permuted hs hwell hvw

/-! ### Visits -/

def visitSchema : Schema where
  root := [
    (.name "day", .date),
    (.name "guest", .dict [(.name "age", .int), (.name "name", .text)])]

def visitSchema' : Schema where
  root := [
    (.name "guest", .dict [(.name "name", .text), (.name "age", .int)]),
    (.name "day", .date)]

def visit : Value :=
  .map [("day", .text "2024-02-29"), ("guest", .map [("age", .int 7), ("name", .text "Ada")])]

def visit' : Value :=
  .map [("guest", .map [("name", .text "Ada"), ("age", .int 7)]), ("day", .text "2024-02-29")]

/-- The declaration of a schema with a single field. -/
def ageDeclaration : Json :=
  .object [
    ("$title", .string "Ages"),
    ("age", .object [("type", .string "int"), ("min", .integer 0)])]

def ageDeclaration' : Json :=
  .object [
    ("age", .object [("min", .integer 0), ("type", .string "int")]),
    ("$title", .string "Ages")]

theorem visitSchema_reordered : visitSchema.Reordered visitSchema' where
  root := by
    refine Entries.reordered_pair (by decide) (.refl _) (Field.reordered_dict ?_)
    exact Entries.reordered_pair (by decide) (.refl _) (.refl _)
  title := rfl
  description := rfl

theorem visit_permuted : visit.Permuted visit' := by
  refine Value.permuted_map (Entries.reordered_pair (by decide) (.leaf rfl) ?_)
  exact Value.permuted_map (Entries.reordered_pair (by decide) (.leaf rfl) (.leaf rfl))

theorem wellFormed_visit : visit.WellFormed := by
  refine .map (by decide) ?_
  simp only [List.mem_cons, Prod.mk.injEq, List.not_mem_nil, or_false]
  rintro _ _ (⟨-, rfl⟩ | ⟨-, rfl⟩)
  · exact .scalar rfl nofun
  · refine .map (by decide) ?_
    simp only [List.mem_cons, Prod.mk.injEq, List.not_mem_nil, or_false]
    rintro _ _ (⟨-, rfl⟩ | ⟨-, rfl⟩) <;> exact .scalar rfl nofun

theorem ageDeclaration_reordered : ageDeclaration.Reordered ageDeclaration' := by
  refine Json.reordered_object_iff.mpr (Entries.reordered_pair (by decide) (.leaf rfl) ?_)
  exact Json.reordered_object_iff.mpr (Entries.reordered_pair (by decide) (.leaf rfl) (.leaf rfl))

theorem order_irrelevant_visit :
    (∀ partially, visitSchema.validate visit partially = .ok () ↔
        visitSchema'.validate visit' partially = .ok ()) ∧
      Agree Value.Reordered (visitSchema.decode visit) (visitSchema'.decode visit') ∧
      Agree Value.Reordered (visitSchema.encode visit) (visitSchema'.encode visit') ∧
      Agree Reordered (ofDeclaration ageDeclaration) (ofDeclaration ageDeclaration') := by
  obtain ⟨hvalidate, hdecode, hencode⟩ :=
    order_irrelevant.1 _ _ _ _ visitSchema_reordered visit_permuted
  exact ⟨hvalidate, hdecode, hencode wellFormed_visit,
    order_irrelevant.2 _ _ ageDeclaration_reordered⟩

end Schema

end TypedDocument
