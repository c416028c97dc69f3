import TypedDocument.Proofs.Conversion.Steps
import TypedDocument.Proofs.Validation.Conformance
import TypedDocument.Schema.Basic

/-!
# Whole documents

A schema treats a document as a field for mappings with the fields of the schema would, except
that it has no document other than a mapping.
-/

namespace TypedDocument.Schema

variable {s : Schema} {partially : Bool} {doc w : Value}

theorem validate_eq_ok_iff :
    s.validate doc partially = .ok () ↔
      ∃ es, doc = .map es ∧ Value.Conforms partially (.map es) (Field.dict s.root) := by
  have hnull : ¬ Value.Conforms partially .null (Field.dict s.root) := by
    rw [Value.conforms_null_iff]
    exact Bool.false_ne_true
  have hmap : ∀ v, Value.Conforms partially v (Field.dict s.root) → ∃ es, v = .map es := by
    intro v h
    cases h with
    | null h => exact absurd (.null h) hnull
    | plain _ kind => cases kind
    | list kind => cases kind
    | map => exact ⟨_, rfl⟩
  constructor
  · intro h
    have hconforms : Value.Conforms partially doc (Field.dict s.root) := by
      cases doc with
      | null => cases h
      | _ => exact (Value.validate_eq_ok_iff _ "").mp h
    obtain ⟨es, rfl⟩ := hmap doc hconforms
    exact ⟨es, rfl, hconforms⟩
  · rintro ⟨es, rfl, h⟩
    exact (Value.validate_eq_ok_iff _ "").mpr h

@[simp] theorem encode_map {es : Mapping} :
    s.encode (.map es) = Value.encode (.map es) (Field.dict s.root) :=
  (Value.encode_map rfl).symm

@[simp] theorem decode_map {es : Mapping} :
    s.decode (.map es) = Value.decodeWith Declaration.readField (.map es) (Field.dict s.root) :=
  (Value.decodeWith_map rfl).symm

end TypedDocument.Schema
