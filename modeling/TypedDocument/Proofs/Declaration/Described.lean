import TypedDocument.Proofs.Declaration.Tables
import TypedDocument.Proofs.Validation.Outline

/-!
# Reading the declaration of a field

What the declaration of a field is read as comes from its parts: the row of the type gives a new
field of the kind, with what the candidates and entries are read as; the rows of the options set
every option to what it is, save that every field for null becomes nullable; and the row of the
default gives a default. Each of these steps is a lookup in the table of the field. The field is
read back if its candidates, its entries and its default are.
-/

namespace TypedDocument

/-- The declaration of a field is read as another field, wherever it stands. -/
def Field.ReadsAs (f g : Field) : Prop := ∀ node, Declaration.readFieldAt node f.describe = .ok g

/-- The declaration of a field as an entry of a schema is read as another field. -/
def Field.EntryReadsAs (f g : Field) : Prop :=
  ∀ node, ∃ e, Declaration.readEntry node f.describeEntry = .ok e ∧ e.toField = g

/-- A field that is read from its declaration, wherever that stands. -/
abbrev Field.ReadsBack (f : Field) : Prop := f.ReadsAs f

/-- A field that is read from its declaration as an entry of a schema. -/
abbrev Field.EntryReadsBack (f : Field) : Prop := f.EntryReadsAs f

/-- A kind with other candidates or other entries. -/
def FieldKind.mapHeld (r : Field → Field) : FieldKind → FieldKind
  | .list candidates least most => .list (candidates.map r) least most
  | .dict d => .dict (d.map fun e => (e.1, r e.2))
  | kind => kind

theorem FieldKind.mapHeld_id (kind : FieldKind) : kind.mapHeld id = kind := by
  cases kind with
  | list candidates least most => rw [mapHeld, List.map_id]
  | dict d => exact congrArg dict (List.map_id d)
  | _ => rfl

/-- The field that the parts of a declaration make: with what the candidates and entries are read
as, and with a default. -/
def Field.asDeclared (r : Field → Field) (default : Default) (f : Field) : Field :=
  .mk (f.kind.mapHeld r) (f.options.impliedBy f.kind) default

/-- A new field of a kind that holds what the kind holds. -/
def FieldKind.bare : FieldKind → Field
  | .null => .null
  | .int _ => .int
  | .long _ => .long
  | .float _ => .float
  | .text _ => .text
  | .list candidates _ _ => .list candidates
  | kind => .ofKind kind

namespace Declaration

variable {f : Field} {node : Pointer} {typeName option : String} {kind : FieldKind}

/-! ## Options -/

/-- Rows that suit the type of a field. -/
def Admitted (typeName : String) (kind : FieldKind) (table : List (String × Option Json)) : Prop :=
  ∀ option j, (option, some j) ∈ table → Admits typeName kind option j = true

theorem Admitted.nil : Admitted typeName kind [] := fun _ _ h => by cases h

theorem Admitted.cons {o : Option Json} {table : List (String × Option Json)}
    (ho : ∀ j, o = some j → Admits typeName kind option j = true)
    (h : Admitted typeName kind table) : Admitted typeName kind ((option, o) :: table) := by
  intro key j hmem
  rcases List.mem_cons.mp hmem with hmem | hmem
  · cases hmem
    exact ho j rfl
  · exact h key j hmem

theorem Admitted.append {a b : List (String × Option Json)} (ha : Admitted typeName kind a)
    (hb : Admitted typeName kind b) : Admitted typeName kind (a ++ b) := by
  intro key j hmem
  rcases List.mem_append.mp hmem with hmem | hmem
  · exact ha key j hmem
  · exact hb key j hmem

@[simp] theorem getD_flagRow (on : Bool) : ((flagRow on).bind flag?).getD false = on := by
  cases on <;> rfl

@[simp] theorem bind_string? (o : Option String) : (o.map Json.string).bind Json.string? = o := by
  cases o <;> rfl

@[simp] theorem bind_length? (o : Option Nat) : (o.map Json.ofNat).bind length? = o := by
  cases o <;> rfl

@[simp] theorem bind_pattern? (o : Option Pattern) :
    (o.map fun p => Json.string p.source).bind pattern? = o := by
  cases o with
  | none => rfl
  | some p => exact p.compile?_source

theorem bind_bound? {o : Option Number} (h : ∀ n, o = some n → n.IsBound) :
    (o.map Number.describe).bind bound? = o := by
  cases o with
  | none => rfl
  | some n => exact h n rfl

/-- What a row says can be read, if something can be read from all it says. -/
theorem isSome_of_bind {α β : Type} {o : Option α} {write : α → Json} {read : Json → Option β}
    {j : Json} (h : ∀ a, o = some a → (read (write a)).isSome = true)
    (hj : o.map write = some j) : (read j).isSome = true := by
  obtain ⟨a, ha, rfl⟩ := Option.map_eq_some_iff.mp hj
  exact h a ha

theorem admitted_rules (h : kind.BoundsHold Number.IsBound) :
    Admitted kind.name kind kind.ruleTable := by
  have hlength : ∀ {o : Option Nat} {j}, o.map Json.ofNat = some j → (length? j).isSome = true :=
    isSome_of_bind fun _ _ => rfl
  have hbound : ∀ {o : Option Number} {j}, (∀ n, o = some n → n.IsBound) →
      o.map Number.describe = some j → (bound? j).isSome = true := by
    intro o j ho
    refine isSome_of_bind fun n hn => ?_
    rw [ho n hn]
    rfl
  have hpattern : ∀ {o : Option Pattern} {j}, (o.map fun p => Json.string p.source) = some j →
      (pattern? j).isSome = true :=
    isSome_of_bind fun p _ => by
      rw [pattern?, Json.string?, Option.bind_some, p.compile?_source, Option.isSome_some]
  cases kind with
  | int b | long b | float b =>
    refine .cons (fun j hj => ?_) (.cons (fun j hj => ?_) .nil)
    · exact hbound h.1 hj
    · exact hbound h.2 hj
  | text r =>
    refine .cons (fun j hj => ?_) (.cons (fun j hj => ?_) (.cons (fun j hj => ?_)
      (.cons (fun j hj => ?_) .nil)))
    · exact hlength hj
    · exact hlength hj
    · exact hlength hj
    · exact hpattern hj
  | list candidates least most =>
    refine .cons (fun j hj => rfl) (.cons (fun j hj => ?_) (.cons (fun j hj => ?_) .nil))
    · split at hj
      · cases hj
        rfl
      · cases hj
    · exact hlength hj
  | dict d => exact .cons (fun j hj => rfl) .nil
  | _ => exact .nil

theorem admitted_options (o : FieldOptions) (kind : FieldKind) :
    Admitted kind.name kind (o.table kind) := by
  have hflag : ∀ {on : Bool} {j}, flagRow on = some j → (flag? j).isSome = true := by
    intro on j hj
    cases on <;> cases hj
    rfl
  have htext : ∀ {o : Option String} {j}, o.map Json.string = some j → j.string?.isSome = true :=
    isSome_of_bind fun _ _ => rfl
  refine .cons (fun j hj => ?_) (.cons (fun j hj => ?_) (.cons (fun j hj => ?_)
    (.cons (fun j hj => ?_) .nil)))
  · exact hflag hj
  · exact hflag hj
  · exact htext hj
  · exact htext hj

theorem admitted_table (h : f.kind.BoundsHold Number.IsBound) :
    Admitted f.kind.name f.kind f.table :=
  .append (.append (.cons (fun _ _ => rfl) (admitted_rules h)) (admitted_options _ _))
    (.cons (fun _ _ => rfl) .nil)

/-! ### Options are what their rows say -/

section Rows

variable (f : Field)

/-- What the declaration of a field says about an option. -/
theorem said_describe {α : Type} (read : Json → Option α) {key : String} {row : Option Json}
    (h : Entries.get? key f.table = some row) :
    said read key (present f.table) = row.bind read := by
  rw [said_present f.distinct_table, h, Option.join_some]

theorem get?_table_options :
    Entries.get? "optional" f.table = some (flagRow f.optional) ∧
      Entries.get? "title" f.table = some (f.title.map .string) ∧
      Entries.get? "description" f.table = some (f.description.map .string) := by
  obtain ⟨kind, options, default⟩ := f
  cases kind <;> exact ⟨rfl, rfl, rfl⟩

theorem get?_table_nullable (hk : f.kind ≠ .null) :
    Entries.get? "can_be_none" f.table = some (flagRow f.nullable) := by
  obtain ⟨kind, ⟨optional, nullable, title, description⟩, default⟩ := f
  cases kind with
  | null => exact absurd rfl hk
  | _ => cases nullable <;> rfl

theorem get?_table_nullable_of_null (hk : f.kind = .null) :
    Entries.get? "can_be_none" f.table = some none := by
  obtain ⟨kind, ⟨optional, nullable, title, description⟩, default⟩ := f
  cases hk
  cases nullable <;> rfl

/-- Whether null is allowed goes unsaid only for fields that are nullable from the start. -/
theorem nullable_withMembers_table :
    (said flag? "can_be_none" (present f.table)).getD f.kind.bare.nullable =
      (f.options.impliedBy f.kind).nullable := by
  by_cases hk : f.kind = .null
  · rw [said_describe f _ (get?_table_nullable_of_null f hk), hk]
    rfl
  · have hbare : f.kind.bare.nullable = false := by
      cases h : f.kind with
      | null => exact absurd h hk
      | _ => rfl
    rw [said_describe f _ (get?_table_nullable f hk), hbare, getD_flagRow,
      FieldOptions.impliedBy_of_nullable (absurd · hk)]
    rfl

theorem options_withMembers_table :
    f.kind.bare.options.withMembers (present f.table) = f.options.impliedBy f.kind := by
  obtain ⟨hoptional, htitle, hdescription⟩ := get?_table_options f
  have hbare : f.kind.bare.options = { nullable := f.kind.bare.nullable } := by
    cases f.kind <;> rfl
  rw [FieldOptions.withMembers, said_describe f _ hoptional, said_describe f _ htitle,
    said_describe f _ hdescription, bind_string?, bind_string?, hbare,
    nullable_withMembers_table f]
  simp only [getD_flagRow, Option.or_none]
  cases f.kind <;> rfl

theorem kind_withMembers_table (r : Field → Field) (hbounds : f.kind.BoundsHold Number.IsBound) :
    (f.kind.mapHeld r).bare.kind.withMembers (present f.table) = f.kind.mapHeld r := by
  obtain ⟨kind, options, default⟩ := f
  -- With the kind known, every row is found by looking at the table.
  have hbound : ∀ {key : String} {o : Option Number}, (∀ n, o = some n → n.IsBound) →
      Entries.get? key (Field.mk kind options default).table = some (o.map Number.describe) →
      said bound? key (present (Field.mk kind options default).table) = o :=
    fun ho h => (said_describe _ _ h).trans (bind_bound? ho)
  have hlength : ∀ {key : String} {o : Option Nat},
      Entries.get? key (Field.mk kind options default).table = some (o.map Json.ofNat) →
      said length? key (present (Field.mk kind options default).table) = o :=
    fun h => (said_describe _ _ h).trans (bind_length? _)
  cases kind with
  | int b | long b | float b =>
    simp only [FieldKind.mapHeld, FieldKind.bare, FieldKind.withMembers, Field.kind, Field.int,
      Field.long, Field.float, Field.ofKind, Bounds.withMembers, Option.or_none]
    rw [hbound hbounds.1 rfl, hbound hbounds.2 rfl]
  | text r =>
    have hpattern : said pattern? "match" (present (Field.mk (.text r) options default).table) =
        r.pattern :=
      (said_describe _ _ rfl).trans (bind_pattern? _)
    simp only [FieldKind.mapHeld, FieldKind.bare, FieldKind.withMembers, Field.kind, Field.text,
      Field.ofKind, TextRules.withMembers, Option.or_none]
    rw [hlength rfl, hlength rfl, hlength rfl, hpattern]
  | list candidates least most =>
    let f := Field.mk (.list candidates least most) options default
    have hrow : Entries.get? "min_len" f.table =
        some (if 0 < least then some (.ofNat least) else none) := rfl
    have hleast : (said length? "min_len" (present f.table)).getD 0 = least := by
      rw [said_describe _ _ hrow]
      split
      · rfl
      · next h =>
        rw [Option.bind_none, Option.getD_none]
        omega
    simp only [FieldKind.mapHeld, FieldKind.bare, FieldKind.withMembers, Field.kind, Field.list,
      Option.or_none]
    rw [hleast, hlength rfl]
  | _ => rfl

end Rows

/-! ## Candidates and entries -/

variable {r : Field → Field}

theorem readItems_describeAll {candidates : List Field} (h : ∀ c ∈ candidates, c.ReadsAs (r c))
    (k : Nat) : readItems node k (Field.describeAll candidates) = .ok (candidates.map r) := by
  induction candidates generalizing k with
  | nil => rw [Field.describeAll, readItems, List.map_nil]
  | cons c rest ih =>
    rw [Field.describeAll, readItems, h c List.mem_cons_self, ok_bind,
      ih (fun c hc => h c (List.mem_cons_of_mem _ hc)), ok_bind]
    rfl

/-- Different keys have different texts. -/
theorem distinct_describeEntries {d : Dict} (h : d.HasDeclaredKeys) :
    Entries.Distinct (Field.describeEntries d) := by
  have hkeys : (Entries.keys (Field.describeEntries d)).map SchemaKey.ofText = Entries.keys d := by
    rw [describeEntries_eq_map, Entries.keys, Entries.keys, List.map_map, List.map_map]
    refine List.map_congr_left ?_
    rintro ⟨key, c⟩ hc
    exact h.ofText key c hc
  have hdistinct := h.distinct
  rw [Entries.Distinct, ← hkeys] at hdistinct
  exact List.Pairwise.of_map SchemaKey.ofText (fun _ _ hne heq => hne (heq ▸ rfl)) hdistinct

theorem exists_describeEntry_eq_object (c : Field) : ∃ ms, c.describeEntry = .object ms := by
  obtain ⟨kind, options, default⟩ := c
  rw [Field.describeEntry]
  split
  · next nested h =>
    split at h
    · cases kind with
      | dict d =>
        cases h
        exact ⟨_, rfl⟩
      | _ => cases h
    · cases h
  · exact ⟨_, rfl⟩

/-- An entry under the key `type` is an object, so the entries of a dict are not taken for a
field. -/
@[simp] theorem declaresField_describeEntries (d : Dict) :
    declaresField (Field.describeEntries d) = false := by
  rw [declaresField]
  cases h : Entries.get? "type" (Field.describeEntries d) with
  | none => rfl
  | some j =>
    obtain ⟨key, c, -, -, rfl⟩ :=
      exists_mem_of_mem_describeEntries (Entries.mem_of_get?_eq_some h)
    obtain ⟨ms, hms⟩ := exists_describeEntry_eq_object c
    rw [hms]

theorem readEntries_describeEntries {d : Dict}
    (hkeys : ∀ key c, (key, c) ∈ d → SchemaKey.ofText key.text = key)
    (h : ∀ key c, (key, c) ∈ d → c.EntryReadsAs (r c)) :
    ∃ es, readEntries node (Field.describeEntries d) = .ok es ∧
      SchemaEntry.toFields es = d.map fun e => (e.1, r e.2) := by
  induction d with
  | nil => exact ⟨[], by rw [Field.describeEntries, readEntries], rfl⟩
  | cons e rest ih =>
    obtain ⟨key, c⟩ := e
    obtain ⟨entry, hentry, hfield⟩ := h key c List.mem_cons_self (node.child key.text)
    obtain ⟨es, hes, hfields⟩ := ih (fun k c hc => hkeys k c (List.mem_cons_of_mem _ hc))
      fun k c hc => h k c (List.mem_cons_of_mem _ hc)
    refine ⟨(key, entry) :: es, ?_, ?_⟩
    · rw [Field.describeEntries, readEntries, hentry, ok_bind, hes, ok_bind,
        hkeys key c List.mem_cons_self]
      rfl
    · rw [SchemaEntry.toFields, hfield, hfields, List.map_cons]

theorem distinct_map_snd {d : Dict} (h : d.Distinct) :
    Entries.Distinct (d.map fun e => (e.1, r e.2)) := by
  rwa [Entries.Distinct, Entries.keys, List.map_map]

/-- The entries of a dict are read as entries again, under the same keys. -/
theorem readEntry_describeEntries {d : Dict} (hkeys : d.HasDeclaredKeys)
    (h : ∀ key c, (key, c) ∈ d → c.EntryReadsAs (r c)) (node : Pointer) :
    ∃ es, readEntry node (.object (Entries.ofList (Field.describeEntries d))) = .ok (.nested es) ∧
      Dict.ofEntries es = d.map fun e => (e.1, r e.2) := by
  obtain ⟨es, hes, hfields⟩ := readEntries_describeEntries hkeys.ofText h
  refine ⟨es, ?_, ?_⟩
  · rw [Entries.ofList_of_distinct (distinct_describeEntries hkeys), readEntry,
      declaresField_describeEntries, if_neg Bool.false_ne_true, hes, ok_bind]
    rfl
  · rw [Dict.ofEntries, hfields, Dict.ofFields,
      Entries.ofList_of_distinct (distinct_map_snd hkeys.distinct)]

/-! ## Whole fields -/

@[simp] theorem readType_describe (f : Field) :
    readType node (present f.table) = .ok f.kind.name := by
  rw [readType, get?_present f.distinct_table]
  rfl

/-- What the candidates and entries that a kind holds are read as. -/
structure HeldReadAs (r : Field → Field) (kind : FieldKind) : Prop where
  candidates : ∀ candidates least most, kind = .list candidates least most →
    ∀ c ∈ candidates, c.ReadsAs (r c)
  keys : ∀ d : Dict, kind = .dict d → d.HasDeclaredKeys
  entries : ∀ d : Dict, kind = .dict d → ∀ key c, (key, c) ∈ d → c.EntryReadsAs (r c)

/-- The candidates and entries that a kind holds are read back. -/
abbrev HeldReadBack (kind : FieldKind) : Prop := HeldReadAs id kind

theorem readBase_describe (h : HeldReadAs r f.kind) :
    readBase node f.kind.name (present f.table) = .ok (f.kind.mapHeld r).bare := by
  obtain ⟨kind, options, default⟩ := f
  rw [readBase, get?_present (Field.distinct_table _), get?_present (Field.distinct_table _)]
  cases kind with
  | list candidates least most =>
    have hread : readItems (node.child "fields") 0 (Field.describeAll candidates) =
        .ok (candidates.map r) :=
      readItems_describeAll (h.candidates candidates least most rfl) 0
    rw [Field.kind, FieldKind.name, if_pos rfl]
    cases candidates with
    | nil => rfl
    | cons c rest =>
      have hrow :
          Entries.get? "fields" (Field.mk (.list (c :: rest) least most) options default).table =
            some (some (.array (Field.describeAll (c :: rest)))) := rfl
      rw [hrow, Option.join_some, readList, hread, ok_bind]
      rfl
  | dict d =>
    have hrow : Entries.get? "schema" (Field.mk (.dict d) options default).table =
        some (some (.object (Entries.ofList (Field.describeEntries d)))) := rfl
    obtain ⟨es, hes, hd⟩ := readEntry_describeEntries (h.keys d rfl) (h.entries d rfl)
      (node.child "schema")
    rw [Field.kind, FieldKind.name, if_neg (by decide), if_pos rfl, hrow, Option.join_some,
      readNested, hes, ok_bind]
    simp only [hd]
    rfl
  | _ => rfl

theorem setOptions_describe (r : Field → Field) (hbounds : f.kind.BoundsHold Number.IsBound) :
    setOptions node f.kind.name (present f.table) (f.kind.mapHeld r).bare =
      .ok (f.asDeclared r f.kind.bare.default) := by
  have hbare : (f.kind.mapHeld r).bare.options = f.kind.bare.options ∧
      (f.kind.mapHeld r).bare.default = f.kind.bare.default := by
    cases f.kind <;> exact ⟨rfl, rfl⟩
  refine (setOptions_eq_ok_iff (distinct_present f.distinct_table)).mpr ⟨?_, ?_⟩
  · intro option j hmem
    have hkind : Admits f.kind.name (f.kind.mapHeld r).bare.kind option j =
        Admits f.kind.name f.kind option j := by
      cases f.kind <;> rfl
    rw [hkind]
    exact admitted_table hbounds option j (mem_present_iff.mp hmem)
  · rw [Field.withMembers, kind_withMembers_table f r hbounds, hbare.1, hbare.2,
      options_withMembers_table f, Field.asDeclared]

/-- What the default of a field is read as by a field of a kind: what goes without saying, or what
the field makes of the described default. -/
def DefaultReadsAs (f : Field) (kind : FieldKind) (default : Default) : Prop :=
  (f.describedDefault? = none ∧ default = f.kind.bare.default) ∨
    ∃ j v, f.describedDefault? = some j ∧ default = .value v ∧
      (Field.ofKind kind).decode (Value.ofJson j) = .ok v

/-- A default that goes without saying, or is read as it is described. -/
abbrev DefaultReadsBack (f : Field) : Prop := DefaultReadsAs f f.kind f.default

theorem readDefault_describe {default : Default}
    (h : DefaultReadsAs f (f.kind.mapHeld r) default) :
    readDefault readField node (present f.table) (f.asDeclared r f.kind.bare.default) =
      .ok (f.asDeclared r default) := by
  have hrow : Entries.get? "default" f.table = some f.describedDefault? := by
    obtain ⟨kind, options, default⟩ := f
    cases kind <;> rfl
  rw [readDefault, get?_present f.distinct_table, hrow, Option.join_some]
  rcases h with ⟨hnone, rfl⟩ | ⟨j, v, hsome, rfl, hdecode⟩
  · rw [hnone]
  · have hkind : (f.asDeclared r f.kind.bare.default).kind =
        (Field.ofKind (f.kind.mapHeld r)).kind := rfl
    rw [hsome]
    dsimp only
    rw [Value.decodeWith_of_kind_eq hkind, ← Field.decode, hdecode]
    rfl

/-- What a field is read as comes from what it holds and from its default. -/
theorem readsAs_of_parts {default : Default} (hbounds : f.kind.BoundsHold Number.IsBound)
    (hheld : HeldReadAs r f.kind) (hdefault : DefaultReadsAs f (f.kind.mapHeld r) default) :
    f.ReadsAs (f.asDeclared r default) := by
  intro node
  rw [Field.describe_eq, readFieldAt_eq, readType_describe, ok_bind, readBase_describe hheld,
    ok_bind, setOptions_describe r hbounds, ok_bind]
  exact readDefault_describe hdefault

/-- As an entry a field is read as it is on its own. -/
theorem entryReadsAs_of_parts {default : Default} (hbounds : f.kind.BoundsHold Number.IsBound)
    (hheld : HeldReadAs r f.kind) (hdefault : DefaultReadsAs f (f.kind.mapHeld r) default) :
    f.EntryReadsAs (f.asDeclared r default) := by
  intro node
  have hplain : f.describeEntry = f.describe →
      ∃ e, readEntry node f.describeEntry = .ok e ∧ e.toField = f.asDeclared r default := by
    intro hentry
    have htype : declaresField (present f.table) = true := by
      rw [declaresField, get?_present f.distinct_table]
      rfl
    refine ⟨.field (f.asDeclared r default), ?_, rfl⟩
    rw [hentry, Field.describe_eq, readEntry, if_pos htype, ← Field.describe_eq,
      readsAs_of_parts hbounds hheld hdefault node, ok_bind]
    rfl
  obtain ⟨kind, options, fdefault⟩ := f
  cases hisPlain : Field.isPlain options fdefault with
  | false => exact hplain (by rw [Field.describeEntry, hisPlain]; rfl)
  | true =>
    cases kind with
    | dict d =>
      have hentry : (Field.mk (.dict d) options fdefault).describeEntry =
          .object (Entries.ofList (Field.describeEntries d)) := by
        rw [Field.describeEntry, hisPlain]
        rfl
      obtain ⟨es, hes, hd⟩ :=
        readEntry_describeEntries (hheld.keys d rfl) (hheld.entries d rfl) node
      refine ⟨.nested es, hentry ▸ hes, ?_⟩
      obtain ⟨rfl, rfl⟩ : options = {} ∧ fdefault = .unset := by
        cases fdefault with
        | unset => exact ⟨eq_of_beq hisPlain, rfl⟩
        | _ => cases hisPlain
      have hunset : default = .unset := by
        rcases hdefault with ⟨-, h⟩ | ⟨j, v, h, -⟩
        · exact h
        · cases h
      rw [SchemaEntry.toField, ← Dict.ofEntries, hd, hunset]
      rfl
    | _ => exact hplain (by rw [Field.describeEntry, hisPlain]; rfl)

theorem asDeclared_id (hnull : f.kind = .null → f.nullable = true) :
    f.asDeclared id f.default = f := by
  rw [Field.asDeclared, FieldKind.mapHeld_id, FieldOptions.impliedBy_of_nullable hnull]
  obtain ⟨kind, options, default⟩ := f
  rfl

/-- A field is read back if what it holds is and its default is. -/
theorem readsBack_of_parts (hbounds : f.kind.BoundsHold Number.IsBound)
    (hnull : f.kind = .null → f.nullable = true) (hheld : HeldReadBack f.kind)
    (hdefault : DefaultReadsBack f) : f.ReadsBack ∧ f.EntryReadsBack := by
  have hdefault' : DefaultReadsAs f (f.kind.mapHeld id) f.default := by
    rwa [FieldKind.mapHeld_id]
  have hread := readsAs_of_parts hbounds hheld hdefault'
  have hentry := entryReadsAs_of_parts hbounds hheld hdefault'
  rw [asDeclared_id hnull] at hread hentry
  exact ⟨hread, hentry⟩

end Declaration

end TypedDocument
