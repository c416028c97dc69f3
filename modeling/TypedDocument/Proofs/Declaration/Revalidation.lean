import TypedDocument.Proofs.Conversion.Decodable
import TypedDocument.Proofs.Declaration.RoundTrip

/-!
# Validating by a schema that was described and read

Every declared schema can be described and read again. Defaults may come back as others, since a
list with several candidates need not read what it wrote by the candidate that wrote it, but they
can always be read. All else comes back, save that a field for null is nullable in the end. Since
validation does not look at defaults, it finds the same fault as before with every document if all
fields for null were nullable in the first place.
-/

namespace TypedDocument

open Declaration

/-- What the declaration of a field is read as. -/
def Field.reread (f : Field) : Field := (readField f.describe).toOption.getD f

/-- A field whose declaration is read as a field of the same outline. -/
structure Field.Rereads (f : Field) : Prop where
  reads : f.ReadsAs f.reread
  readsEntry : f.EntryReadsAs f.reread
  outline : f.reread.outline = f.outline
  nullsNullable : f.reread.NullsNullable

namespace Declaration

variable {inDefault : Bool} {f g : Field} {kind : FieldKind} {r : Field → Field} {v : Value}

theorem reread_eq_of_readsAs (h : f.ReadsAs g) : f.reread = g := by
  rw [Field.reread, readField, h []]
  rfl

/-! ## What the parts are read as -/

/-- What is held may be exchanged for something of the same outline. -/
theorem outline_mapHeld
    (hcandidates : ∀ candidates least most, kind = .list candidates least most →
      ∀ c ∈ candidates, (r c).outline = c.outline)
    (hentries : ∀ d : Dict, kind = .dict d → ∀ key c, (key, c) ∈ d → (r c).outline = c.outline) :
    (kind.mapHeld r).outline = kind.outline := by
  cases kind with
  | list candidates least most =>
    rw [FieldKind.mapHeld, FieldKind.outline, FieldKind.outline, Field.outlineAll_eq_map,
      Field.outlineAll_eq_map, List.map_map]
    exact congrArg (FieldKind.list · least most)
      (List.map_congr_left (hcandidates candidates least most rfl))
  | dict d =>
    rw [FieldKind.mapHeld, FieldKind.outline, FieldKind.outline, Field.outlineEntries_eq_map,
      Field.outlineEntries_eq_map, List.map_map]
    refine congrArg FieldKind.dict (List.map_congr_left ?_)
    rintro ⟨key, c⟩ hc
    exact congrArg (Prod.mk key) (hentries d rfl key c hc)
  | _ => rfl

theorem outline_asDeclared {default : Default}
    (h : (f.kind.mapHeld r).outline = f.kind.outline) :
    (f.asDeclared r default).outline = f.outline := by
  obtain ⟨kind, options, _⟩ := f
  have hoptions : (options.impliedBy kind).impliedBy (kind.mapHeld r) = options.impliedBy kind := by
    cases kind <;> rfl
  rw [Field.asDeclared, Field.outline, Field.outline]
  exact congr (congr (congrArg Field.mk h) hoptions) rfl

theorem nullsNullable_asDeclared {default : Default}
    (hcandidates : ∀ candidates least most, f.kind = .list candidates least most →
      ∀ c ∈ candidates, (r c).NullsNullable)
    (hentries : ∀ d : Dict, f.kind = .dict d → ∀ key c, (key, c) ∈ d → (r c).NullsNullable) :
    (f.asDeclared r default).NullsNullable := by
  obtain ⟨kind, options, _⟩ := f
  refine Field.nullsNullable_iff.mpr ⟨?_, ?_, ?_⟩
  · intro hk
    cases kind with
    | null => rfl
    | _ => cases hk
  · intro _ _ _ hk
    cases kind with
    | list candidates least most =>
      cases hk
      intro _ hmem
      obtain ⟨c, hc, rfl⟩ := List.mem_map.mp hmem
      exact hcandidates _ _ _ rfl c hc
    | _ => cases hk
  · intro _ hk
    cases kind with
    | dict d =>
      cases hk
      intro _ _ hmem
      obtain ⟨⟨key, c⟩, hc, heq⟩ := List.mem_map.mp hmem
      cases heq
      exact hentries d rfl key c hc
    | _ => cases hk

/-! ## Defaults -/

/-- The value is one that a field made of another, and the fields in it can be read from their
declarations, also through a document. -/
structure WasDecoded (v : Value) (f : Field) : Prop where
  decoded : ∃ u : Value, u.decodeWith readField f = .ok v
  fields : ∀ g, v.Within (.field g) → g.describe.Stable ∧ ∃ h, readField g.describe = .ok h

/-- No text is left under a field that reads texts. -/
theorem readsTexts_eq_false_of_decodeWith {u : Value} {s : String}
    (h : u.decodeWith readField f = .ok (.text s)) : f.kind.readsTexts = false := by
  cases hu : u.isContainer with
  | false =>
    rw [Value.decodeWith_leaf hu] at h
    cases hk : f.kind with
    | dateTime | date | time =>
      rw [hk] at h
      cases u with
      | text =>
        obtain ⟨_, -, heq⟩ := Value.readText_eq_ok_iff.mp h
        cases heq
      | _ => cases h
    | _ => rfl
  | true =>
    cases u with
    | list items =>
      rw [Value.decodeWith] at h
      split at h <;> cases h
    | map es =>
      rw [Value.decodeWith] at h
      split at h
      · obtain ⟨_, -, heq⟩ := map_eq_ok_iff.mp h
        cases heq
      · simp [bind_eq_ok_iff] at h
      · cases h
    | _ => cases hu

/-- A mapping was decoded from a mapping. -/
theorem exists_map_of_decodeWith {u : Value} {es : Mapping}
    (h : u.decodeWith readField f = .ok (.map es)) :
    ∃ us, (Value.map us).decodeWith readField f = .ok (.map es) := by
  cases hu : u.isContainer with
  | false =>
    rw [Value.decodeWith_leaf hu] at h
    cases Value.isContainer_decodeScalar hu h
  | true =>
    cases u with
    | list items =>
      rw [Value.decodeWith] at h
      split at h <;> cases h
    | map us => exact ⟨us, h⟩
    | _ => cases hu

/-- What was decoded can be written and decoded again. -/
theorem returns_wasDecoded : Value.Returns readField WasDecoded where
  text s f h := by
    obtain ⟨u, hu⟩ := h.decoded
    exact readsTexts_eq_false_of_decodeWith hu
  field g f h hk := by
    obtain ⟨hstable, hread⟩ := h.fields g (.self _)
    obtain ⟨ms, hms⟩ := Value.exists_describe_eq_object g
    rw [hms] at hstable hread ⊢
    rw [Json.Stable, Value.ofJson] at hstable
    exact (Value.decodes_map_of_field hk).mpr ⟨_, hstable, hread⟩
  map es f h hk := by
    obtain ⟨_, hu⟩ := h.decoded
    obtain ⟨us, hus⟩ := exists_map_of_decodeWith hu
    obtain ⟨_, -, g, -, hg⟩ := (Value.decodeWith_map_of_field_eq_ok_iff hk).mp hus
    cases hg
  entry es f d h hk key v hv g hg := by
    obtain ⟨_, hu⟩ := h.decoded
    obtain ⟨us, hus⟩ := exists_map_of_decodeWith hu
    rw [Value.decodeWith_map hk] at hus
    obtain ⟨ws, hws, heq⟩ := map_eq_ok_iff.mp hus
    cases heq
    obtain ⟨u, c, -, hc, huv⟩ := Value.mem_decodeEntries hws key v hv
    cases hg.symm.trans hc
    exact ⟨⟨u, huv⟩, fun c hc => h.fields c (.entry hv hc)⟩

/-- The description of a default can be read, whatever it is read as. -/
theorem exists_defaultReadsAs (hdeclared : f.default.DeclaredFor f)
    (hheld : ∀ v g, f.default = .value v → v.Within (.field g) →
      g.describe.Stable ∧ ∃ h, readField g.describe = .ok h)
    (hkind : kind.outline = f.kind.outline) : ∃ default, DefaultReadsAs f kind default := by
  cases hdescribed : f.describedDefault? with
  | none => exact ⟨_, .inl ⟨hdescribed, rfl⟩⟩
  | some j =>
    cases hd : f.default with
    | unset => simp [Field.describedDefault?, hd] at hdescribed
    | counter => simp [Field.describedDefault?, hd] at hdescribed
    | value v =>
      obtain ⟨w, hw, hj⟩ : ∃ w, v.encode f = .ok w ∧ w.toJson = .ok j := by
        simp only [Field.describedDefault?, hd] at hdescribed
        split at hdescribed
        · cases hdescribed
        · simpa [Option.bind_eq_some_iff] using hdescribed
      rw [hd] at hdeclared
      cases hdeclared with
      | value raw decoded =>
        have hwas : WasDecoded v f := ⟨⟨_, decoded⟩, fun g hg => hheld v g hd hg⟩
        have hwritten := Value.decodes_of_encode returns_wasDecoded hwas hw
        have hread := Value.decodes_ofJson hj hwritten
        obtain ⟨x, hx⟩ := (Value.decodes_congr_outline (g := .ofKind kind) hkind.symm).mp hread
        exact ⟨.value x, .inr ⟨j, x, hdescribed, rfl, hx⟩⟩

/-! ## Whole fields -/

/-- Every declared field can be described and read again. -/
theorem rereads_of_declared (h : f.Declared inDefault) : f.Rereads := by
  induction h with
  | @mk inDefault f bounds lengths candidates keys entries default held ihcandidates ihentries
      ihheld =>
    have hparts : HeldReadAs Field.reread f.kind :=
      ⟨fun cs least most hk c hc => (ihcandidates cs least most hk c hc).reads, keys,
        fun d hk key c hc => (ihentries d hk key c hc).readsEntry⟩
    have hkind : (f.kind.mapHeld Field.reread).outline = f.kind.outline :=
      outline_mapHeld (fun cs least most hk c hc => (ihcandidates cs least most hk c hc).outline)
        fun d hk key c hc => (ihentries d hk key c hc).outline
    obtain ⟨x, hx⟩ := exists_defaultReadsAs default (fun v g hv hg =>
      ⟨stable_describe (everywhere_fitsLong (held v g hv hg) rfl), _, (ihheld v g hv hg).reads []⟩)
      hkind
    have hreads := readsAs_of_parts bounds hparts hx
    have hreread := reread_eq_of_readsAs hreads
    refine ⟨hreread ▸ hreads, hreread ▸ entryReadsAs_of_parts bounds hparts hx, ?_, ?_⟩
    · rw [hreread]
      exact outline_asDeclared hkind
    · rw [hreread]
      exact nullsNullable_asDeclared
        (fun cs least most hk c hc => (ihcandidates cs least most hk c hc).nullsNullable)
        fun d hk key c hc => (ihentries d hk key c hc).nullsNullable

end Declaration

namespace Schema

/-- Every declared schema can be described and read again. What is read validates every document as
the outline of the schema does, and so as the schema does if its fields for null are nullable. -/
theorem validate_reread {j : Json} {s : Schema} (hj : j.InRange) (h : ofDeclaration j = .ok s) :
    ∃ s', ofDeclaration s.describe = .ok s' ∧
      (∀ doc partially, s'.validate doc partially = s.outline.validate doc partially) ∧
      (s.root.NullsNullable →
        ∀ doc partially, s'.validate doc partially = s.validate doc partially) := by
  obtain ⟨hdeclared, hfree⟩ := declared_of_ofDeclaration hj h
  cases hdeclared with
  | mk bounds lengths candidates keys entries =>
    have hrereads : ∀ key c, (key, c) ∈ s.root → c.Rereads :=
      fun key c hc => rereads_of_declared (entries s.root rfl key c hc)
    let s' : Schema := { s with root := s.root.map fun e => (e.1, e.2.reread) }
    have hread : ofDeclaration s.describe = .ok s' :=
      ofDeclaration_describe_of_entries (keys s.root rfl) hfree
        fun key c hc => (hrereads key c hc).readsEntry
    have hroot : Field.outlineEntries s'.root = Field.outlineEntries s.root := by
      rw [Field.outlineEntries_eq_map, Field.outlineEntries_eq_map, List.map_map]
      refine List.map_congr_left ?_
      rintro ⟨key, c⟩ hc
      exact congrArg (Prod.mk key) (hrereads key c hc).outline
    have houtline : s'.outline = s.outline := by
      rw [outline, outline, hroot]
    have hnulls : s'.root.NullsNullable := by
      intro _ _ hmem
      obtain ⟨⟨key, c⟩, hc, heq⟩ := List.mem_map.mp hmem
      cases heq
      exact (hrereads key c hc).nullsNullable
    have hvalidate : ∀ doc partially,
        s'.validate doc partially = s.outline.validate doc partially := by
      intro doc partially
      rw [← houtline, validate_outline hnulls]
    refine ⟨s', hread, hvalidate, fun hs doc partially => ?_⟩
    rw [hvalidate, validate_outline hs]

/-- A gap, which is null, and a list of days. -/
def gapAndDays : Schema := .ofDict [(.name "gap", .null), (.name "days", leapDays)]

theorem readFieldAt_null (node : Pointer) :
    readFieldAt node (.object [("type", .string "none")]) = .ok .null := by
  rw [readFieldAt_eq]
  rfl

theorem ofDeclaration_gapAndDays :
    ofDeclaration (.object [("gap", .object [("type", .string "none")]),
      ("days", leapDaysDeclaration)]) = .ok gapAndDays := by
  have hgap : readEntry ["gap"] (.object [("type", .string "none")]) = .ok (.field .null) := by
    have htype : declaresField [("type", .string "none")] = true := rfl
    rw [readEntry, if_pos htype, readFieldAt_null, ok_bind]
    rfl
  have hdays : readEntry ["days"] leapDaysDeclaration = .ok (.field leapDays) := by
    have htype : declaresField [("type", .string "list"),
        ("fields", .object [("type", .string "date")]),
        ("default", .array [.string "2024-02-29"])] = true := rfl
    rw [leapDaysDeclaration, readEntry, if_pos htype, ← leapDaysDeclaration,
      readFieldAt_leapDaysDeclaration, ok_bind]
    rfl
  rw [ofDeclaration, readParts, if_neg (by decide), if_neg (by decide), hgap, ok_bind, readParts,
    if_neg (by decide), if_neg (by decide), hdays]
  rfl

/-- A schema with a nullable field for null validates as before. -/
theorem validate_reread_gapAndDays :
    ∃ s', ofDeclaration gapAndDays.describe = .ok s' ∧
      ∀ doc partially, s'.validate doc partially = gapAndDays.validate doc partially := by
  have hnulls : gapAndDays.root.NullsNullable := by
    have hdate : Field.date.NullsNullable := Field.nullsNullable_iff.mpr ⟨nofun, nofun, nofun⟩
    intro key c hc
    simp only [gapAndDays, ofDict, List.mem_cons, Prod.mk.injEq, List.not_mem_nil, or_false] at hc
    rcases hc with ⟨-, rfl⟩ | ⟨-, rfl⟩
    · exact Field.nullsNullable_iff.mpr ⟨fun _ => rfl, nofun, nofun⟩
    · refine Field.nullsNullable_iff.mpr ⟨nofun, ?_, nofun⟩
      rintro _ _ _ ⟨⟩ c hc
      cases List.mem_singleton.mp hc
      exact hdate
  obtain ⟨s', hread, -, hsame⟩ := validate_reread (by decide) ofDeclaration_gapAndDays
  exact ⟨s', hread, hsame hnulls⟩

/-- A field for null that was declared not to be nullable refuses null, but once it has been
described and read it does not. -/
theorem null_accepted_after_reread :
    ofDeclaration (.object [("a", .object [("type", .string "none"),
        ("can_be_none", .bool false)])]) =
      .ok (.ofDict [(.name "a", Field.null.withNullable false)]) ∧
    ofDeclaration (Schema.ofDict [(.name "a", Field.null.withNullable false)]).describe =
      .ok (.ofDict [(.name "a", .null)]) ∧
    (Schema.ofDict [(.name "a", Field.null.withNullable false)]).validate
      (.map [("a", .null)]) false = .error ⟨"a", .nullNotAllowed⟩ ∧
    (Schema.ofDict [(.name "a", .null)]).validate (.map [("a", .null)]) false = .ok () := by
  have hentry : ∀ ms f, declaresField ms = true →
      (∀ node, readFieldAt node (.object ms) = .ok f) →
      ofDeclaration (.object [("a", .object ms)]) = .ok (.ofDict [(.name "a", f)]) := by
    intro ms f htype hf
    rw [ofDeclaration, readParts, if_neg (by decide), if_neg (by decide), readEntry, if_pos htype,
      hf, ok_bind]
    rfl
  have hnull : ∀ node, readFieldAt node (.object [("type", .string "none"),
      ("can_be_none", .bool false)]) = .ok (Field.null.withNullable false) := by
    intro node
    rw [readFieldAt_eq]
    rfl
  have hdescribe : (Schema.ofDict [(.name "a", Field.null.withNullable false)]).describe =
      .object [("a", .object [("type", .string "none")])] := rfl
  refine ⟨hentry _ _ rfl hnull, ?_, rfl, rfl⟩
  rw [hdescribe]
  exact hentry _ _ rfl readFieldAt_null

end Schema

end TypedDocument
