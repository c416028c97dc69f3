import TypedDocument.Proofs.Declaration.Defaults
import TypedDocument.Proofs.Declaration.Described
import TypedDocument.Proofs.Declaration.Soundness

/-!
# Describing a declared field and reading the description

A field that was declared is read back from its description, with everything it says and with its
keys in order, and so is a schema. Two things a declaration can say do not come back: that a field
for null is not nullable, which its description leaves out, and defaults that a list with several
candidates, or with a dict as its candidate, may write in another way than it read them.
-/

namespace TypedDocument

/-! ## Fields that are held -/

/-- The second field is the first one, a part of it, or a field within the default of either. -/
inductive Field.Holds : Field → Field → Prop where
  | self (f : Field) : Holds f f
  | candidate {f c g : Field} {candidates : List Field} {least : Nat} {most : Option Nat}
    (kind : f.kind = .list candidates least most) (mem : c ∈ candidates) (holds : Holds c g) :
    Holds f g
  | entry {f c g : Field} {d : Dict} {key : SchemaKey} (kind : f.kind = .dict d)
    (mem : (key, c) ∈ d) (holds : Holds c g) : Holds f g
  | default {f c g : Field} {v : Value} (default : f.default = .value v)
    (within : v.Within (.field c)) (holds : Holds c g) : Holds f g

/-- What a field needs to be said completely by its description: nullability, if it is a field for
null, and plain lists, if it has a default but null and the empty list. -/
structure Field.Restorable (f : Field) : Prop where
  nullable : f.kind = .null → f.nullable = true
  default : ∀ v, f.default = .value v → v ≠ .null → v ≠ .list [] →
    f.Everywhere FieldKind.HasPlainCandidates

/-- All fields that a field holds are restorable. -/
def Field.HoldsRestorable (f : Field) : Prop := ∀ g, f.Holds g → g.Restorable

theorem Field.holdsRestorable_iff {f : Field} :
    f.HoldsRestorable ↔ f.Restorable ∧
      (∀ candidates least most, f.kind = .list candidates least most →
        ∀ c ∈ candidates, c.HoldsRestorable) ∧
      (∀ d : Dict, f.kind = .dict d → ∀ key c, (key, c) ∈ d → c.HoldsRestorable) ∧
      ∀ v c, f.default = .value v → v.Within (.field c) → c.HoldsRestorable := by
  constructor
  · intro h
    refine ⟨h f (.self f), ?_, ?_, ?_⟩
    · exact fun _ _ _ hk c hc g hg => h g (.candidate hk hc hg)
    · exact fun _ hk _ c hc g hg => h g (.entry hk hc hg)
    · exact fun _ c hv hc g hg => h g (.default hv hc hg)
  · rintro ⟨hself, hcandidates, hentries, hdefault⟩ g hg
    cases hg with
    | self => exact hself
    | candidate kind mem holds => exact hcandidates _ _ _ kind _ mem g holds
    | entry kind mem holds => exact hentries _ kind _ _ mem g holds
    | default default within holds => exact hdefault _ _ default within g holds

namespace Declaration

variable {inDefault : Bool} {f : Field} {v : Value}

/-! ## Declared fields -/

/-- The lengths in a field within a default have 64 signed bits. -/
theorem everywhere_fitsLong (h : f.Declared inDefault) (hin : inDefault = true) :
    f.Everywhere (FieldKind.LengthsHold FitsLong) := by
  induction h with
  | mk bounds lengths candidates keys entries default held ihcandidates ihentries ihheld =>
    refine Field.everywhere_iff.mpr ⟨lengths hin, ?_, ?_⟩
    · exact fun cs least most hk c hc => ihcandidates cs least most hk c hc hin
    · exact fun d hk key c hc => ihentries d hk key c hc hin

/-- A default that is restored reads back. -/
theorem defaultReadsBack_of_restores (hdefault : f.default = .value v)
    (himplied : f.kind.impliesDefault v = false) (h : v.Restores readField f) :
    DefaultReadsBack f := by
  obtain ⟨w, j, hw, hj, hback⟩ := h
  have hkind : (Field.ofKind f.kind).kind = f.kind := rfl
  refine .inr ⟨j, v, ?_, hdefault, (Value.decodeWith_of_kind_eq hkind).trans hback⟩
  simp [Field.describedDefault?, hdefault, himplied, hw, hj, Except.toOption]

theorem impliesDefault_eq_false {kind : FieldKind} (h : v ≠ .list []) :
    kind.impliesDefault v = false := by
  cases kind with
  | list =>
    cases v with
    | list items =>
      cases items with
      | nil => exact absurd rfl h
      | cons => rfl
    | _ => rfl
  | _ => rfl

/-- The empty list goes without saying under lists, and is said as it stands under anything
else. -/
theorem defaultReadsBack_empty (hdefault : f.default = .value (.list [])) : DefaultReadsBack f := by
  rcases f.kind.eq_list_or_ne with ⟨candidates, least, most, hk⟩ | hk
  · refine .inl ⟨?_, ?_⟩
    · simp [Field.describedDefault?, hdefault, hk, FieldKind.impliesDefault]
    · rw [hdefault, hk]
      rfl
  · refine defaultReadsBack_of_restores hdefault ?_ ?_
    · cases hkind : f.kind with
      | list => exact absurd hkind (hk _ _ _)
      | _ => rfl
    · refine Value.isRaw_empty.restores (Value.encode_list_of_kind_ne hk) ?_
      rw [Value.decodeWith]
      split
      · next heq => exact absurd heq (hk _ _ _)
      · rfl

theorem defaultReadsBack (hdeclared : f.default.DeclaredFor f) (hf : f.Restorable)
    (hheld : ∀ v g, f.default = .value v → v.Within (.field g) →
      g.describe.Stable ∧ readField g.describe = .ok g) : DefaultReadsBack f := by
  cases hd : f.default with
  | unset =>
    rw [hd] at hdeclared
    cases hdeclared with
    | unset kind =>
      refine .inl ⟨by rw [Field.describedDefault?, hd], ?_⟩
      rw [hd]
      cases hk : f.kind with
      | list => simp [hk, isList] at kind
      | _ => rfl
  | counter =>
    rw [hd] at hdeclared
    cases hdeclared
  | value v =>
    rw [hd] at hdeclared
    cases hdeclared with
    | value raw decoded =>
      by_cases hempty : v = .list []
      · exact defaultReadsBack_empty (hempty ▸ hd)
      · refine defaultReadsBack_of_restores hd (impliesDefault_eq_false hempty) ?_
        by_cases hnull : v = .null
        · subst hnull
          exact ⟨.null, .null, by simp [Value.encode, FieldKind.encodeScalar], rfl, rfl⟩
        · exact Value.restores_of_decodeWith raw (hf.default v hd hnull hempty)
            (fun g hg => hheld v g hd hg) decoded

/-- A declared field is read back from its description, both as a field and as an entry. -/
theorem readsBack_of_declared (h : f.Declared inDefault) :
    f.HoldsRestorable → f.ReadsBack ∧ f.EntryReadsBack := by
  induction h with
  | @mk inDefault f bounds lengths candidates keys entries default held ihcandidates ihentries
      ihheld =>
    intro hf
    have hparts : HeldReadBack f.kind := by
      refine ⟨?_, keys, ?_⟩
      · intro cs least most hk c hc
        exact (ihcandidates cs least most hk c hc fun g hg => hf g (.candidate hk hc hg)).1
      · intro d hk key c hc
        exact (ihentries d hk key c hc fun g hg => hf g (.entry hk hc hg)).2
    have hdefault : DefaultReadsBack f := by
      refine defaultReadsBack default (hf f (.self f)) ?_
      intro v g hv hg
      have hread := (ihheld v g hv hg fun c hc => hf c (.default hv hg hc)).1
      exact ⟨stable_describe (everywhere_fitsLong (held v g hv hg) rfl), hread []⟩
    exact readsBack_of_parts bounds (hf f (.self f)).nullable hparts hdefault

end Declaration

namespace Schema

/-! ## Declared schemas -/

/-- Title and description come before the entries. -/
theorem readParts_head (title description : Option String) (ms : List (String × Json)) :
    readParts (optionMember "$title" .string title ++
        optionMember "$description" .string description ++ ms) {} =
      readParts ms { title, description } := by
  cases title <;> cases description <;>
    simp [optionMember, readParts, Declaration.readText]

/-- Under no key does an entry take the place of the title or the description. -/
theorem readParts_describeEntries {r : Field → Field} {d : Dict} (parts : Parts)
    (hkeys : ∀ key c, (key, c) ∈ d → SchemaKey.ofText key.text = key)
    (hfree : ∀ key c, (key, c) ∈ d → key.text ≠ "$title" ∧ key.text ≠ "$description")
    (h : ∀ key c, (key, c) ∈ d → c.EntryReadsAs (r c)) :
    ∃ es, readParts (Field.describeEntries d) parts =
      .ok { parts with entries := parts.entries ++ es } ∧
        SchemaEntry.toFields es = d.map fun e => (e.1, r e.2) := by
  induction d generalizing parts with
  | nil => exact ⟨[], by simp [Field.describeEntries, readParts], rfl⟩
  | cons e rest ih =>
    obtain ⟨key, c⟩ := e
    obtain ⟨htitle, hdescription⟩ := hfree key c List.mem_cons_self
    obtain ⟨entry, hentry, hfield⟩ := h key c List.mem_cons_self [key.text]
    obtain ⟨es, hes, hfields⟩ := ih { parts with entries := parts.entries ++ [(key, entry)] }
      (fun k c hc => hkeys k c (List.mem_cons_of_mem _ hc))
      (fun k c hc => hfree k c (List.mem_cons_of_mem _ hc))
      fun k c hc => h k c (List.mem_cons_of_mem _ hc)
    refine ⟨(key, entry) :: es, ?_, ?_⟩
    · rw [Field.describeEntries, readParts, if_neg htitle, if_neg hdescription, hentry, ok_bind,
        hkeys key c List.mem_cons_self, hes]
      simp
    · rw [SchemaEntry.toFields, hfield, hfields, List.map_cons]

theorem distinct_optionMember {key : String} {o : Option String} {ms : List (String × Json)}
    (hkey : key ∉ Entries.keys ms) (h : Entries.Distinct ms) :
    Entries.Distinct (optionMember key .string o ++ ms) := by
  cases o with
  | none => exact h
  | some s => exact Entries.distinct_cons_iff.mpr ⟨hkey, h⟩

theorem distinct_describe {d : Dict} (hkeys : d.HasDeclaredKeys)
    (hfree : ∀ key c, (key, c) ∈ d → key.text ≠ "$title" ∧ key.text ≠ "$description")
    (title description : Option String) :
    Entries.Distinct (optionMember "$title" .string title ++
      optionMember "$description" .string description ++ Field.describeEntries d) := by
  have hfresh : ∀ name, (∀ key c, (key, c) ∈ d → key.text ≠ name) →
      name ∉ Entries.keys (Field.describeEntries d) := by
    intro name hname hmem
    obtain ⟨⟨_, j⟩, he, rfl⟩ := List.mem_map.mp hmem
    obtain ⟨key, c, hc, hkey, -⟩ := exists_mem_of_mem_describeEntries he
    exact hname key c hc hkey
  have htitle := hfresh "$title" fun key c hc => (hfree key c hc).1
  have hdescription := hfresh "$description" fun key c hc => (hfree key c hc).2
  rw [List.append_assoc]
  refine distinct_optionMember ?_ (distinct_optionMember hdescription
    (Declaration.distinct_describeEntries hkeys))
  cases description with
  | none => exact htitle
  | some s =>
    have hne : "$title" ≠ "$description" := by decide
    intro hmem
    rcases List.mem_cons.mp hmem with heq | hmem
    · exact absurd heq hne
    · exact htitle hmem

/-- What the description of a schema is read as comes from what its entries are read as. -/
theorem ofDeclaration_describe_of_entries {r : Field → Field} {s : Schema}
    (hkeys : s.root.HasDeclaredKeys)
    (hfree : ∀ key c, (key, c) ∈ s.root → key.text ≠ "$title" ∧ key.text ≠ "$description")
    (h : ∀ key c, (key, c) ∈ s.root → c.EntryReadsAs (r c)) :
    ofDeclaration s.describe = .ok { s with root := s.root.map fun e => (e.1, r e.2) } := by
  obtain ⟨es, hes, hfields⟩ := readParts_describeEntries
    { title := s.title, description := s.description } hkeys.ofText hfree h
  rw [describe, ofDeclaration,
    Entries.ofList_of_distinct (distinct_describe hkeys hfree s.title s.description),
    readParts_head, hes, ok_bind, List.nil_append, Dict.ofEntries, hfields, Dict.ofFields,
    Entries.ofList_of_distinct (Declaration.distinct_map_snd hkeys.distinct)]
  rfl

/-- A declared schema is read back from its description. -/
theorem ofDeclaration_describe {j : Json} {s : Schema} (hj : j.InRange)
    (h : ofDeclaration j = .ok s) (hs : (Field.dict s.root).HoldsRestorable) :
    ofDeclaration s.describe = .ok s := by
  obtain ⟨hdeclared, hfree⟩ := declared_of_ofDeclaration hj h
  cases hdeclared with
  | mk bounds lengths candidates keys entries =>
    have hentries : ∀ key c, (key, c) ∈ s.root → c.EntryReadsAs (id c) := fun key c hc =>
      (Declaration.readsBack_of_declared (entries s.root rfl key c hc)
        fun g hg => hs g (.entry rfl hc hg)).2
    have hroot : (s.root.map fun e => (e.1, id e.2)) = s.root := List.map_id s.root
    rw [ofDeclaration_describe_of_entries (keys s.root rfl) hfree hentries, hroot]

end Schema

namespace Declaration

/-! ## The law -/

/-- Reading the description of a declared schema gives the schema back, and reading the description
of a declared field gives the field back, where every field for null they hold is nullable and
every default but null and the empty list belongs to a field with plain lists. -/
theorem read_describe :
    (∀ j s, j.InRange → Schema.ofDeclaration j = .ok s → (Field.dict s.root).HoldsRestorable →
      Schema.ofDeclaration s.describe = .ok s) ∧
    ∀ j f, j.InRange → readField j = .ok f → f.HoldsRestorable → readField f.describe = .ok f := by
  constructor
  · exact fun j s hj h hs => Schema.ofDeclaration_describe hj h hs
  · exact fun j f hj h hf => (readsBack_of_declared (declared_of_readField hj h) hf).1 []

/-- A list of days that has a leap day by default. -/
def leapDays : Field :=
  .mk (.list [.date] 0 none) {} (.value (.list [.date ⟨2024, 2, 29, by decide⟩]))

/-- Its declaration, with the only candidate not in an array. -/
def leapDaysDeclaration : Json :=
  .object [("type", .string "list"), ("fields", .object [("type", .string "date")]),
    ("default", .array [.string "2024-02-29"])]

theorem readFieldAt_leapDaysDeclaration (node : Pointer) :
    readFieldAt node leapDaysDeclaration = .ok leapDays := by
  have hdate : readFieldAt (node.child "fields") (.object [("type", .string "date")]) =
      .ok .date := by
    rw [readFieldAt_eq]
    rfl
  have hday : Date.read "2024-02-29" = .ok ⟨2024, 2, 29, by decide⟩ := by
    have htext : Date.text ⟨2024, 2, 29, by decide⟩ = "2024-02-29" := by decide +kernel
    rw [← htext, Date.read_text]
  have hbase : ∀ ms, Entries.get? "fields" ms = some (.object [("type", .string "date")]) →
      readBase node "list" ms = .ok (.list [.date]) := by
    intro ms hms
    rw [readBase, if_pos rfl, hms, readList_single (fun _ h => by cases h), hdate]
    rfl
  have htype : ∀ ms, readType node (("type", .string "list") :: ms) = .ok "list" := fun _ => rfl
  rw [leapDaysDeclaration, readFieldAt_eq, htype, ok_bind, hbase _ rfl, ok_bind]
  simp [setOptions, setOption, holdsFields, readDefault, Entries.get?, Value.ofJson,
    Value.ofJsonItems, Value.decodeWith, Value.decodeItems, FieldKind.decodeScalar, hday,
    FieldKind.readText, FieldKind.accepts, Field.kind, Field.list, Field.date, Field.ofKind,
    Field.withDefault, Field.options, leapDays]

theorem holdsRestorable_leapDays : leapDays.HoldsRestorable := by
  have hdate : Field.date.HoldsRestorable :=
    Field.holdsRestorable_iff.mpr ⟨⟨nofun, nofun⟩, nofun, nofun, nofun⟩
  have hplain : leapDays.Everywhere FieldKind.HasPlainCandidates := by
    refine Field.everywhere_iff.mpr ⟨⟨Nat.le_refl 1, ?_⟩, ?_, nofun⟩
    · intro c hc d hk
      cases List.mem_singleton.mp hc
      cases hk
    · rintro _ _ _ ⟨⟩ c hc
      cases List.mem_singleton.mp hc
      exact Field.everywhere_of_plain rfl trivial
  refine Field.holdsRestorable_iff.mpr ⟨⟨nofun, fun _ _ _ _ => hplain⟩, ?_, nofun, ?_⟩
  · rintro _ _ _ ⟨⟩ c hc
    cases List.mem_singleton.mp hc
    exact hdate
  · rintro _ c ⟨⟩ hc
    cases hc with
    | item mem within =>
      cases List.mem_singleton.mp mem
      cases within

/-- The list of leap days, as a field of its own and under the key `type` of a schema. -/
theorem read_describe_leapDays :
    readField leapDays.describe = .ok leapDays ∧
      Schema.ofDeclaration (Schema.ofDict [(.name "type", leapDays)]).describe =
        .ok (.ofDict [(.name "type", leapDays)]) := by
  have hschema : Schema.ofDeclaration (.object [("type", leapDaysDeclaration)]) =
      .ok (.ofDict [(.name "type", leapDays)]) := by
    have hentry : readEntry ["type"] leapDaysDeclaration = .ok (.field leapDays) := by
      have htype : declaresField [("type", .string "list"),
          ("fields", .object [("type", .string "date")]),
          ("default", .array [.string "2024-02-29"])] = true := rfl
      rw [leapDaysDeclaration, readEntry, if_pos htype, ← leapDaysDeclaration,
        readFieldAt_leapDaysDeclaration, ok_bind]
      rfl
    rw [Schema.ofDeclaration, Schema.readParts, if_neg (by decide), if_neg (by decide), hentry]
    rfl
  have hroot : (Field.dict [(.name "type", leapDays)]).HoldsRestorable := by
    refine Field.holdsRestorable_iff.mpr
      ⟨⟨fun h => (by cases h), fun _ h => (by cases h)⟩, fun _ _ _ h => (by cases h), ?_,
        fun _ _ h => (by cases h)⟩
    rintro _ ⟨⟩ key c hc
    cases List.mem_singleton.mp hc
    exact holdsRestorable_leapDays
  exact ⟨read_describe.2 _ _ (by decide) (readFieldAt_leapDaysDeclaration [])
    holdsRestorable_leapDays, read_describe.1 _ _ (by decide) hschema hroot⟩

end Declaration

end TypedDocument
