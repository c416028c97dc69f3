import TypedDocument.Proofs.JsonSchema.Fields

/-!
# Valid documents pass the exported schema

The exported schema is checked against the encoded form of a document, validation looks at the
document itself. For schemas that are exported without loss, a valid document passes once it is
encoded: every element is checked by the only candidate and every member by the field that governs
its key. The export is not exact in the other direction.
-/

namespace TypedDocument

/-- A value under a field has another value as a part, which a field of its own governs. -/
inductive Value.PartUnder : Value → Field → Value → Field → Prop where
  | self (v : Value) (f : Field) : PartUnder v f v f
  | item {items : List Value} {candidates : List Field} {least : Nat} {most : Option Nat}
    {f c g : Field} {v w : Value} (kind : f.kind = .list candidates least most)
    (candidate : c ∈ candidates) (mem : v ∈ items) (part : PartUnder v c w g) :
    PartUnder (.list items) f w g
  | entry {es : Mapping} {d : Dict} {key : String} {f c g : Field} {v w : Value}
    (kind : f.kind = .dict d) (field : d.field? key = some c) (mem : (key, v) ∈ es)
    (part : PartUnder v c w g) : PartUnder (.map es) f w g

/-- All parts of a value under a field are written in the form that is exported. -/
def Value.PlainUnder (v : Value) (f : Field) : Prop :=
  ∀ w g, v.PartUnder f w g → g.kind.WritesPlainly w

variable {f : Field} {j : Json}

open JsonSchema

namespace Value

theorem plainUnder_leaf_iff {v : Value} (hv : v.isContainer = false) :
    v.PlainUnder f ↔ f.kind.WritesPlainly v := by
  constructor
  · exact fun h => h v f (.self v f)
  · rintro h w g hw
    cases hw with
    | self => exact h
    | item => cases hv
    | entry => cases hv

theorem plainUnder_list_iff {items : List Value} {candidates : List Field} {least : Nat}
    {most : Option Nat} (hk : f.kind = .list candidates least most) :
    (list items).PlainUnder f ↔ ∀ c ∈ candidates, ∀ v ∈ items, v.PlainUnder c := by
  constructor
  · exact fun h c hc v hv w g hw => h w g (.item hk hc hv hw)
  · rintro h w g hw
    cases hw with
    | self =>
      rw [hk]
      trivial
    | item kind candidate mem part =>
      rw [hk] at kind
      cases kind
      exact h _ candidate _ mem w g part

theorem plainUnder_map_iff {es : Mapping} {d : Dict} (hk : f.kind = .dict d) :
    (map es).PlainUnder f ↔ (∀ key ∈ Entries.keys es, ¬ IsOverlong key) ∧
      ∀ key v c, (key, v) ∈ es → d.field? key = some c → v.PlainUnder c := by
  constructor
  · intro h
    have hself := h _ f (.self _ f)
    rw [hk] at hself
    exact ⟨hself, fun key v c hv hc w g hw => h w g (.entry hk hc hv hw)⟩
  · rintro ⟨hkeys, hentries⟩ w g hw
    cases hw with
    | self =>
      rw [hk]
      exact hkeys
    | entry kind field mem part =>
      rw [hk] at kind
      cases kind
      exact hentries _ _ _ mem field w g part

end Value

/-! ## Parts of documents -/

/-- An element of a list is fine if it is fine under the only candidate. A null may be one that no
candidate accepts by its type; it is then written as it is. -/
theorem Value.allows_element {v w : Value} {c : Field} (hconforms : v.Conforms false c)
    (hw : v.encodeElement [c] = .ok w) (hj : w.toJson = .ok j)
    (ih : v.encode c = .ok w → c.jsonSchema.Allows j) : c.jsonSchema.Allows j := by
  by_cases haccepts : c.kind.accepts v = true
  · refine ih ?_
    simpa [encodeElement, firstCandidate?, haccepts] using hw
  · have hnull : v = .null := by
      apply Classical.byContradiction
      intro present
      exact haccepts (accepts_of_conforms present hconforms)
    subst hnull
    simp only [encodeElement, firstCandidate?, haccepts, List.find?_cons, List.find?_nil] at hw
    cases hw
    cases hj
    exact Field.allows_null (conforms_null_iff.mp hconforms)

/-- What conforms to a field is fine for its export once it is encoded. -/
theorem Value.allows_of_conforms (v : Value) :
    ∀ (f : Field) (w : Value) (j : Json), f.Everywhere FieldKind.Exportable →
      v.Conforms false f → v.PlainUnder f → v.encode f = .ok w →
      w.toJson = .ok j → f.jsonSchema.Allows j := by
  induction v using containerInduction with
  | leaf v hv =>
    intro f w j hexport hconforms hplain hw hj
    by_cases present : v = .null
    · subst present
      rw [encode_scalar rfl (by simp)] at hw
      cases hw
      have hnull : f.kind.encodeScalar .null = .null := by cases f.kind <;> rfl
      rw [hnull] at hj
      cases hj
      exact Field.allows_null (conforms_null_iff.mp hconforms)
    · have hleaf := (conforms_iff_accepts present (by rintro _ _ _ _ rfl; cases hv)
        (by rintro _ _ rfl; cases hv)).mp hconforms
      exact allows_scalar hv present hexport.kind hleaf.1 hleaf.2 (hplain v f (.self v f)) hw hj
  | list items ih =>
    intro f w j hexport hconforms hplain hw hj
    have haccepts := accepts_of_conforms (by simp) hconforms
    cases hk : f.kind with
    | any => exact Field.allows_of_any hk
    | list candidates least most =>
      obtain ⟨⟨hleast, hmost⟩, helements⟩ := (conforms_list_iff hk).mp hconforms
      rw [encode_list hk] at hw
      obtain ⟨ws, hws, rfl⟩ := map_eq_ok_iff.mp hw
      obtain ⟨js, hjs, rfl⟩ := toJson_list_eq_ok_iff.mp hj
      have hlength : js.length = items.length :=
        (length_toJsonItems hjs).trans (length_encodeItems hws)
      have hone := hexport.kind
      rw [hk] at hone
      apply Field.allows_array hk (hlength ▸ hleast) (fun n hn => hlength ▸ hmost n hn) hone
      intro c hc j hj
      obtain ⟨w, hw, hwj⟩ := mem_toJsonItems hjs j hj
      obtain ⟨v, hv, hvw⟩ := mem_encodeItems hws w hw
      have hcandidate : c ∈ candidates := hc ▸ List.mem_cons_self
      subst hc
      obtain ⟨c', hc', hvc⟩ := helements (by simp) v hv
      cases List.mem_singleton.mp hc'
      apply allows_element hvc hvw hwj
      intro hencode
      have hpart := (plainUnder_list_iff hk).mp hplain c hcandidate v hv
      exact ih v hv c w j (hexport.candidate hk hcandidate) hvc hpart hencode hwj
    | _ => simp [hk, FieldKind.accepts] at haccepts
  | map es ih =>
    intro f w j hexport hconforms hplain hw hj
    have haccepts := accepts_of_conforms (by simp) hconforms
    cases hk : f.kind with
    | any => exact Field.allows_of_any hk
    | dict d =>
      obtain ⟨hgoverned, hcomplete⟩ := (conforms_map_iff hk).mp hconforms
      obtain ⟨hkeys, hparts⟩ := (plainUnder_map_iff hk).mp hplain
      rw [encode_map hk] at hw
      obtain ⟨ws, hws, rfl⟩ := map_eq_ok_iff.mp hw
      obtain ⟨ms, hms, rfl⟩ := toJson_map_eq_ok_iff.mp hj
      have hsame : Entries.keys ms = Entries.keys es :=
        (keys_toJsonMembers hms).trans (keys_encodeEntries hws)
      apply Field.allows_object hk
      apply Dict.allows_members
      · intro name g hmem hg
        exact hsame ▸ (hcomplete rfl).names name g hmem hg
      · intro key j hmem
        obtain ⟨w, hw, hwj⟩ := mem_toJsonMembers hms key j hmem
        obtain ⟨v, g, hv, hg, hvw⟩ := mem_encodeEntries hws key w hw
        refine ⟨hkeys key (List.mem_map_of_mem (f := (·.1)) hv), g, hg, ?_⟩
        obtain ⟨g', hg', hvg⟩ := hgoverned key v hv
        rw [hg] at hg'
        cases hg'
        have hpart := hparts key v g hv hg
        exact ih key v hv g w j ((hexport.dict hk).field hg) hvg hpart hvw hwj
    | _ => simp [hk, FieldKind.accepts] at haccepts

/-! ## Documents -/

namespace Schema

variable {s : Schema}

/-- The export of a schema says of documents what the export of its dict says of mappings. -/
theorem mem_keywords_iff {p : Keyword → Prop} (hdialect : p (.dialect dialect))
    (htitle : ∀ t, p (.title t)) (hdescription : ∀ t, p (.description t)) :
    (∀ k ∈ Keyword.dialect dialect :: limit .title s.title ++ limit .description s.description ++
      [typed false "object", memberKeyword s.root (Dict.exportEntries s.root)], p k) ↔
      ∀ k ∈ FieldKind.exportKeywords false (.dict s.root), p k := by
  rw [List.forall_mem_append, List.cons_append, List.forall_mem_cons, List.forall_mem_append]
  apply and_iff_right
  refine ⟨hdialect, ?_, ?_⟩
  · exact forall_mem_limit_iff.mpr fun t _ => htitle t
  · exact forall_mem_limit_iff.mpr fun t _ => hdescription t

theorem allows_iff {j : Json} :
    s.jsonSchema.Allows j ↔ (Field.dict s.root).jsonSchema.Allows j := by
  rw [Field.allows_iff, jsonSchema, allows_all_iff]
  exact mem_keywords_iff (fun _ => rfl) (fun _ _ => rfl) fun _ _ => rfl

theorem isUsable_iff :
    isUsable s.jsonSchema = true ↔ isUsable (Field.dict s.root).jsonSchema = true := by
  rw [isUsable_jsonSchema_iff, jsonSchema, isUsable, areUsable_eq_true_iff]
  exact mem_keywords_iff rfl (fun _ => rfl) fun _ => rfl

/-- A valid document passes the exported schema in its encoded form, if the schema is exported
without loss and the document is written in the form the export describes. -/
theorem check_encode {doc w : Value} {j : Json}
    (hexport : (Field.dict s.root).Everywhere FieldKind.Exportable)
    (hvalid : s.validate doc false = .ok ())
    (hplain : doc.PlainUnder (Field.dict s.root))
    (hw : s.encode doc = .ok w) (hj : w.toJson = .ok j) : s.check j = .ok () := by
  obtain ⟨es, rfl, hconforms⟩ := validate_eq_ok_iff.mp hvalid
  rw [encode_map] at hw
  have hallows : s.jsonSchema.Allows j :=
    allows_iff.mpr (Value.allows_of_conforms _ _ w j hexport hconforms hplain hw hj)
  have husable : s.jsonSchema.isUsable = true :=
    isUsable_iff.mpr (isUsable_jsonSchema _ hexport)
  simp only [check, husable, hallows []]
  rfl

/-- A time on a day under a field for days, and two integer keys of which one has a field of its
own. -/
theorem check_encode_diary :
    (ofDict [(.name "day", .date), (.name "7", .bool),
        (.type .integer, .list [Field.int.withNullable true])]).check
      (.object [("day", .string "2024-02-29"), ("7", .bool true),
        ("+8", .array [.integer 3, .null])]) = .ok () := by
  have hcount : (Field.list [Field.int.withNullable true]).Everywhere FieldKind.Exportable := by
    refine Field.everywhere_list_iff.mpr ⟨Nat.le_refl 1, List.forall_mem_singleton.mpr ?_⟩
    exact Field.everywhere_of_plain rfl ⟨by simp, by simp⟩
  have hexport : (Field.dict [(.name "day", .date), (.name "7", .bool),
      (.type .integer, .list [Field.int.withNullable true])]).Everywhere
      FieldKind.Exportable := by
    refine Field.everywhere_dict_iff.mpr ⟨?_, ?_⟩
    · intro name f hmem
      simp only [List.mem_cons, Prod.mk.injEq, SchemaKey.name.injEq, reduceCtorEq, false_and,
        List.not_mem_nil, or_false] at hmem
      rcases hmem with ⟨rfl, -⟩ | ⟨rfl, -⟩ <;> decide
    · refine Dict.everywhere_cons.mpr ⟨Field.everywhere_of_plain rfl trivial, ?_⟩
      refine Dict.everywhere_cons.mpr ⟨Field.everywhere_of_plain rfl trivial, ?_⟩
      exact Dict.everywhere_cons.mpr ⟨hcount, Dict.everywhere_nil⟩
  have hvalid : (ofDict [(.name "day", .date), (.name "7", .bool),
      (.type .integer, .list [Field.int.withNullable true])]).validate
      (.map [("day", .dateTime ⟨⟨2024, 2, 29, by decide⟩, ⟨23, 59, 59, 0, by decide⟩⟩),
        ("7", .bool true), ("+8", .list [.int 3, .null])]) false = .ok () :=
    toBool_eq_true_iff.mp (by decide +kernel)
  have htext : Date.text ⟨2024, 2, 29, by decide⟩ = "2024-02-29" := by decide +kernel
  have hday : Dict.field? [(.name "day", .date), (.name "7", .bool),
      (.type .integer, .list [Field.int.withNullable true])] "day" = some .date := rfl
  have hseven : Dict.field? [(.name "day", .date), (.name "7", .bool),
      (.type .integer, .list [Field.int.withNullable true])] "7" = some .bool := rfl
  have height : Dict.field? [(.name "day", .date), (.name "7", .bool),
      (.type .integer, .list [Field.int.withNullable true])] "+8" =
        some (.list [Field.int.withNullable true]) := by
    have hinteger : KeyType.ofKey "+8" = .integer := by decide +kernel
    rw [Dict.field?, hinteger]
    rfl
  have hencode : (ofDict [(.name "day", .date), (.name "7", .bool),
      (.type .integer, .list [Field.int.withNullable true])]).encode
      (.map [("day", .dateTime ⟨⟨2024, 2, 29, by decide⟩, ⟨23, 59, 59, 0, by decide⟩⟩),
        ("7", .bool true), ("+8", .list [.int 3, .null])]) =
      .ok (.map [("day", .text "2024-02-29"), ("7", .bool true),
        ("+8", .list [.int 3, .null])]) := by
    rw [Schema.encode_map, Value.encode_map rfl, ← htext]
    refine map_eq_ok_iff.mpr ⟨_, ?_, rfl⟩
    refine Value.encodeEntries_cons_eq_ok_iff.mpr ⟨_, hday, _, rfl, _, ?_, rfl⟩
    refine Value.encodeEntries_cons_eq_ok_iff.mpr ⟨_, hseven, _, rfl, _, ?_, rfl⟩
    exact Value.encodeEntries_cons_eq_ok_iff.mpr ⟨_, height, _, rfl, _, rfl, rfl⟩
  refine check_encode hexport hvalid ?_ hencode rfl
  refine (Value.plainUnder_map_iff rfl).mpr ⟨by decide, ?_⟩
  intro key v c hv hc
  simp only [List.mem_cons, Prod.mk.injEq, List.not_mem_nil, or_false] at hv
  rcases hv with ⟨rfl, rfl⟩ | ⟨rfl, rfl⟩ | ⟨rfl, rfl⟩
  · cases hday.symm.trans hc
    exact (Value.plainUnder_leaf_iff rfl).mpr ⟨by decide, by decide⟩
  · cases hseven.symm.trans hc
    exact (Value.plainUnder_leaf_iff rfl).mpr trivial
  · cases height.symm.trans hc
    refine (Value.plainUnder_list_iff rfl).mpr (List.forall_mem_singleton.mpr ?_)
    intro v hv
    simp only [List.mem_cons, List.not_mem_nil, or_false] at hv
    rcases hv with rfl | rfl <;> exact (Value.plainUnder_leaf_iff rfl).mpr trivial

end Schema

end TypedDocument
