import TypedDocument.Proofs.Declaration.Declared

/-!
# The members of a declaration

What a field says is written down as a table: the members its declaration may have, each with what
it says, if it says anything. The declaration has those members that say something. No two rows of a
table are about the same member, so lookups in the declaration are lookups in the table.
-/

namespace TypedDocument

namespace Declaration

/-! ## Tables -/

/-- The rows of a table that say something. -/
def present (table : List (String × Option Json)) : List (String × Json) :=
  table.filterMap fun row => row.2.map (row.1, ·)

variable {key option : String} {j : Json} {table rest : List (String × Option Json)}

@[simp] theorem mem_present_iff : (key, j) ∈ present table ↔ (key, some j) ∈ table := by
  rw [present, List.mem_filterMap]
  constructor
  · rintro ⟨⟨k, o⟩, hmem, h⟩
    obtain ⟨i, rfl, heq⟩ := Option.map_eq_some_iff.mp h
    cases heq
    exact hmem
  · exact fun hmem => ⟨_, hmem, rfl⟩

@[simp] theorem present_append (a b : List (String × Option Json)) :
    present (a ++ b) = present a ++ present b := List.filterMap_append

theorem mem_keys_of_mem_keys_present (h : key ∈ Entries.keys (present table)) :
    key ∈ Entries.keys table := by
  obtain ⟨⟨k, j⟩, hmem, rfl⟩ := List.mem_map.mp h
  exact List.mem_map_of_mem (mem_present_iff.mp hmem)

theorem distinct_present (h : Entries.Distinct table) : Entries.Distinct (present table) := by
  induction table with
  | nil => exact List.nodup_nil
  | cons row rest ih =>
    obtain ⟨k, o⟩ := row
    obtain ⟨hk, hrest⟩ := Entries.distinct_cons_iff.mp h
    cases o with
    | none => exact ih hrest
    | some j =>
      refine Entries.distinct_cons_iff.mpr ⟨?_, ih hrest⟩
      exact fun hmem => hk (mem_keys_of_mem_keys_present hmem)

theorem get?_present (h : Entries.Distinct table) :
    Entries.get? key (present table) = (Entries.get? key table).join := by
  induction table with
  | nil => rfl
  | cons row rest ih =>
    obtain ⟨k, o⟩ := row
    obtain ⟨hk, hrest⟩ := Entries.distinct_cons_iff.mp h
    rw [Entries.get?]
    cases o with
    | none =>
      by_cases hkey : k = key
      · subst hkey
        rw [if_pos (beq_self_eq_true k)]
        exact Entries.get?_eq_none_iff.mpr fun hmem => hk (mem_keys_of_mem_keys_present hmem)
      · rw [if_neg (by simpa using hkey)]
        exact ih hrest
    | some j =>
      have hpresent : present ((k, some j) :: rest) = (k, j) :: present rest := rfl
      rw [hpresent, Entries.get?]
      split
      · rfl
      · exact ih hrest

theorem said_present {α : Type} {read : Json → Option α} (h : Entries.Distinct table) :
    said read key (present table) = (Entries.get? key table).join.bind read := by
  rw [said, get?_present h]

/-! ## The table of a field -/

/-- A flag that is written only if it is on. -/
def flagRow (on : Bool) : Option Json := if on then some (.bool true) else none

end Declaration

open Declaration

def FieldKind.ruleTable : FieldKind → List (String × Option Json)
  | .int b | .long b | .float b =>
    [("min", b.min.map Number.describe), ("max", b.max.map Number.describe)]
  | .text r =>
    [("length", r.length.map Json.ofNat), ("min_len", r.minLen.map Json.ofNat),
      ("max_len", r.maxLen.map Json.ofNat), ("match", r.pattern.map fun p => .string p.source)]
  | .list candidates least most =>
    [("fields", if candidates.isEmpty then none else some (.array (Field.describeAll candidates))),
      ("min_len", if 0 < least then some (.ofNat least) else none),
      ("max_len", most.map Json.ofNat)]
  | .dict d => [("schema", some (.object (Entries.ofList (Field.describeEntries d))))]
  | _ => []

def FieldOptions.table (o : FieldOptions) (kind : FieldKind) : List (String × Option Json) :=
  let impliesNullable := match kind with
    | .null => true
    | _ => false
  [("optional", flagRow o.optional), ("can_be_none", flagRow (o.nullable && !impliesNullable)),
    ("title", o.title.map .string), ("description", o.description.map .string)]

/-- The default as it is declared. -/
def Field.describedDefault? (f : Field) : Option Json :=
  match f.default with
  | .value v =>
    if f.kind.impliesDefault v then none
    else (Value.encode v f).toOption.bind fun w => w.toJson.toOption
  | _ => none

def Field.table (f : Field) : List (String × Option Json) :=
  ("type", some (.string f.kind.name)) :: f.kind.ruleTable ++ f.options.table f.kind ++
    [("default", f.describedDefault?)]

theorem optionMember_eq_present {α : Type} (key : String) (write : α → Json) (o : Option α) :
    optionMember key write o = present [(key, o.map write)] := by
  cases o <;> rfl

theorem flagMember_eq_present (key : String) (on : Bool) :
    flagMember key on = present [(key, flagRow on)] := by
  cases on <;> rfl

theorem FieldKind.describeRules_eq_present (kind : FieldKind) :
    kind.describeRules = present kind.ruleTable := by
  cases kind with
  | int b | long b | float b =>
    rw [describeRules, Bounds.describe, optionMember_eq_present, optionMember_eq_present,
      ← present_append]
    rfl
  | text r =>
    rw [describeRules, TextRules.describe]
    simp only [optionMember_eq_present, ← present_append]
    rfl
  | list candidates least most =>
    have hfields : ∀ (empty : Bool) (j : Json), (if empty then [] else [("fields", j)]) =
        present [("fields", if empty then none else some j)] :=
      fun empty j => by cases empty <;> rfl
    have hleast : (if 0 < least then [("min_len", .ofNat least)] else []) =
        present [("min_len", if 0 < least then some (.ofNat least) else none)] := by
      split <;> rfl
    rw [describeRules, hfields, hleast, optionMember_eq_present, ← present_append,
      ← present_append]
    rfl
  | dict d => rfl
  | _ => rfl

theorem FieldOptions.describe_eq_present (o : FieldOptions) (kind : FieldKind) :
    o.describe kind = present (o.table kind) := by
  cases kind <;>
    simp only [describe, optionMember_eq_present, flagMember_eq_present, ← present_append] <;> rfl

theorem Default.describe_eq_present (f : Field) :
    f.default.describe f = present [("default", f.describedDefault?)] := by
  rw [Field.describedDefault?]
  cases f.default with
  | value v =>
    rw [Default.describe]
    dsimp only
    split
    · rfl
    · cases (Value.encode v f).toOption.bind fun w => w.toJson.toOption <;> rfl
  | _ => rfl

/-- The declaration of a field has the members of its table that say something. -/
theorem Field.describe_eq (f : Field) : f.describe = .object (present f.table) := by
  have hparts : f.describe = .object (("type", .string f.kind.name) :: f.kind.describeRules ++
      f.options.describe f.kind ++ f.default.describe f) := by
    obtain ⟨kind, options, default⟩ := f
    rfl
  rw [hparts, FieldKind.describeRules_eq_present, FieldOptions.describe_eq_present,
    Default.describe_eq_present]
  simp only [table, present_append]
  rfl

theorem Field.distinct_table (f : Field) : Entries.Distinct f.table := by
  obtain ⟨kind, options, default⟩ := f
  rw [Entries.Distinct]
  cases kind <;> simp [Entries.keys, table, Field.kind, Field.options, FieldKind.ruleTable,
    FieldOptions.table]

end TypedDocument
