import TypedDocument.Proofs.Converter.SchemaConversion
import TypedDocument.Proofs.Schema.Document

/-!
# What exclusion hides

A converter with exclusions converts the pruned document: copying gives it, and a schema writes it
as it would on its own. In a document that is valid, though perhaps incomplete, mappings only stand
where a dict takes them apart or where anything may stand, so the walk comes by everything that is
excluded. What is excluded therefore has no influence on the wire form.
-/

namespace TypedDocument.Converter

variable {es : Mapping} {d : Dict} {s : Schema} {x : Value}

/-- In a valid mapping nothing below an entry is out of the reach of exclusions. -/
theorem exposed_of_conforms (listed : List String) (es : Mapping) :
    ∀ chain d, (∀ key v, (key, v) ∈ es → ∃ f, d.field? key = some f ∧ Value.Conforms true v f) →
      Exposed listed chain es d := by
  induction es using Value.nestedInduction with
  | step es ih =>
    intro chain d h
    have hfield : ∀ {key sub f}, (key, Value.map sub) ∈ es → d.field? key = some f →
        Value.Conforms true (.map sub) f := by
      intro key sub f hsub hf
      obtain ⟨g, hg, hconforms⟩ := h key _ hsub
      cases hf.symm.trans hg
      exact hconforms
    refine .intro ?_ ?_
    · intro key sub f d' hsub hf hk
      exact ih key sub hsub _ d' ((Value.conforms_map_iff hk).mp (hfield hsub hf)).1
    · intro key sub f hsub hf hdict hany
      have haccepts := Value.accepts_of_conforms (by simp) (hfield hsub hf)
      cases hk : f.kind with
      | dict d' => exact absurd hk (hdict d')
      | any => exact absurd hk hany
      | _ =>
        rw [hk] at haccepts
        cases haccepts

theorem exposed_of_validate (listed : List String) (h : s.validate (.map es) true = .ok ()) :
    Exposed listed [] es s.root := by
  obtain ⟨_, heq, hconforms⟩ := Schema.validate_eq_ok_iff.mp h
  cases heq
  exact exposed_of_conforms listed es [] s.root ((Value.conforms_map_iff rfl).mp hconforms).1

/-- The converter of a schema writes a valid document as the schema writes the pruned one. -/
theorem toWire_ofSchema_excluding {excluded : List String} (hes : (Value.map es).Walkable)
    (htop : "" ∉ Entries.keys es) (h : s.validate (.map es) true = .ok ()) :
    ({ rule := .ofSchema s, excluded } : Converter).toWire (.map es) = .ok x ↔
      s.encode (.map (Mapping.prune excluded [] es)) = .ok x := by
  have hwire : ({ rule := .ofSchema s, excluded } : Converter).toWire (.map es) =
      convertDocument (.ofSchema s) (convertAt s Value.encode) excluded (.map es) := bind_pure _
  rw [hwire]
  exact convertDocument_excluding_eq_ok_iff .encode hes htop (exposed_of_validate excluded h)

/-- The converter that copies values gives the pruned document. -/
theorem toWire_identity_excluding (excluded : List String) (hes : (Value.map es).Walkable)
    (htop : "" ∉ Entries.keys es) :
    ({ rule := .identity, excluded } : Converter).toWire (.map es) =
      .ok (.map (Mapping.prune excluded [] es)) := by
  have hwire : ({ rule := .identity, excluded } : Converter).toWire (.map es) =
      convertDocument .identity (fun _ v => .ok v) excluded (.map es) := bind_pure _
  rw [hwire, convertDocument_identity_excluding hes htop]

/-- Exclusion is exact pruning. For a document without dots in its keys and without an empty key at
the top, the converter that copies values gives the pruned document, which is the document itself if
nothing is excluded, and the converter of a schema under which the document is valid, though perhaps
incomplete, does what the schema does with the pruned document. So documents with the same pruning
have the same wire form, and a key is not excluded along with one that stands beside it. -/
theorem toWire_excluding (excluded : List String) (es : Mapping) (hes : (Value.map es).Walkable)
    (htop : "" ∉ Entries.keys es) :
    (({ rule := .identity, excluded } : Converter).toWire (.map es) =
      .ok (.map (Mapping.prune excluded [] es)) ∧
      ({ rule := .identity } : Converter).toWire (.map es) = .ok (.map es)) ∧
    (∀ s : Schema, s.validate (.map es) true = .ok () → ∀ x,
      ({ rule := .ofSchema s, excluded } : Converter).toWire (.map es) = .ok x ↔
        s.encode (.map (Mapping.prune excluded [] es)) = .ok x) ∧
    (∀ fs : Mapping, (Value.map fs).Walkable → "" ∉ Entries.keys fs →
      Mapping.prune excluded [] fs = Mapping.prune excluded [] es →
      ({ rule := .identity, excluded } : Converter).toWire (.map fs) =
          ({ rule := .identity, excluded } : Converter).toWire (.map es) ∧
        ∀ s : Schema, s.validate (.map es) true = .ok () → s.validate (.map fs) true = .ok () →
          ∀ x, ({ rule := .ofSchema s, excluded } : Converter).toWire (.map fs) = .ok x ↔
            ({ rule := .ofSchema s, excluded } : Converter).toWire (.map es) = .ok x) ∧
    ∀ chain a b, a ≠ b → (∀ key ∈ chain ++ [a, b], Path.isDotted key = false) →
      Path.isListed [Path.ofKeys (chain ++ [a])] (chain ++ [b]) = false := by
  refine ⟨⟨toWire_identity_excluding excluded hes htop, ?_⟩, ?_, ?_, ?_⟩
  · rw [toWire_identity_excluding [] hes htop, Mapping.prune_nil]
  · exact fun s h x => toWire_ofSchema_excluding hes htop h
  · intro fs hfs hfsTop hsame
    refine ⟨?_, fun s hvalid hfsValid x => ?_⟩
    · rw [toWire_identity_excluding excluded hfs hfsTop, hsame,
        toWire_identity_excluding excluded hes htop]
    · rw [toWire_ofSchema_excluding hfs hfsTop hfsValid, hsame,
        toWire_ofSchema_excluding hes htop hvalid]
  · exact fun chain a b hne h => Path.isListed_beside hne h

/-- A schema with a nested mapping and a key that starts with the key of the mapping. -/
def nestedSchema : Schema :=
  .ofDict [(.name "a", .dict [(.name "x", .any), (.name "b", .int)]), (.name "ab", .int)]

/-- One entry of a nested mapping is hidden, whatever it holds. -/
theorem toWire_excluding_nested :
    ({ rule := .identity, excluded := ["a.x"] } : Converter).toWire
        (.map [("a", .map [("x", .int 1), ("b", .int 2)]), ("ab", .int 3)]) =
      .ok (.map [("a", .map [("b", .int 2)]), ("ab", .int 3)]) ∧
    ({ rule := .ofSchema nestedSchema, excluded := ["a.x"] } : Converter).toWire
        (.map [("a", .map [("x", .int 1), ("b", .int 2)]), ("ab", .int 3)]) =
      .ok (.map [("a", .map [("b", .int 2)]), ("ab", .int 3)]) ∧
    ({ rule := .ofSchema nestedSchema, excluded := ["a.x"] } : Converter).toWire
        (.map [("a", .map [("x", .text "secret"), ("b", .int 2)]), ("ab", .int 3)]) =
      .ok (.map [("a", .map [("b", .int 2)]), ("ab", .int 3)]) ∧
    Path.isListed [Path.ofKeys ["a"]] ["ab"] = false := by
  obtain ⟨⟨hcopied, -⟩, hwritten, hothers, hbeside⟩ := toWire_excluding ["a.x"]
    [("a", .map [("x", .int 1), ("b", .int 2)]), ("ab", .int 3)] (by decide)
    (by decide)
  have hwire := (hwritten nestedSchema rfl (.map [("a", .map [("b", .int 2)]), ("ab", .int 3)])).mpr
    rfl
  obtain ⟨-, hsame⟩ := hothers [("a", .map [("x", .text "secret"), ("b", .int 2)]), ("ab", .int 3)]
    (by decide) (by decide) rfl
  exact ⟨hcopied, hwire, (hsame nestedSchema rfl rfl _).mpr hwire,
    hbeside [] "a" "ab" (by decide) (by decide)⟩

end TypedDocument.Converter
