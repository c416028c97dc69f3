import TypedDocument.Proofs.Conversion.Steps
import TypedDocument.Proofs.Field.Nesting
import TypedDocument.Schema.Basic

/-!
# What decoding fails for

Decoding goes down through mappings that fields for mappings govern. The entries it comes by are
listed in document order, each with the keys on the way. It fails for the first of them that has
a fault: a key without a field, a text that is no day or time, or a mapping that is to be a
declaration and is none. Every level above puts its key in front of the path, and none of them
adds a layer to the error. Whatever has another type passes, and lists keep the faults of their
elements to themselves. A document that is decoded keeps its shape.
-/

namespace TypedDocument

/-! ## The entries on the way -/

/-- An entry of a mapping that a dict governs, and the keys of the mappings it lies in. -/
structure GovernedEntry where
  parents : List String
  dict : Dict
  key : String
  value : Value

/-- An entry as it is seen from the mapping around its own. -/
def GovernedEntry.below (key : String) (p : GovernedEntry) : GovernedEntry :=
  { p with parents := key :: p.parents }

mutual

/-- The entries within a value under a field. Only fields for mappings are gone through, so
neither lists are entered nor mappings under other fields. -/
def Value.governedEntries : Value → Field → List GovernedEntry
  | .map es, f =>
    match f.kind with
    | .dict d => Mapping.governedEntries es d
    | _ => []
  | _, _ => []
termination_by structural v => v

/-- The entries of a mapping, each followed by those within it. -/
def Mapping.governedEntries : List (String × Value) → Dict → List GovernedEntry
  | [], _ => []
  | (key, v) :: rest, d =>
    ⟨[], d, key, v⟩ ::
      (match d.field? key with
        | some f => (Value.governedEntries v f).map (GovernedEntry.below key)
        | none => []) ++ Mapping.governedEntries rest d
termination_by structural es => es

end

/-! ## Faults -/

/-- A text that the layout of a field for days or times cannot read. -/
inductive FieldKind.Unread : FieldKind → String → Layout → LayoutFault → Prop where
  | dateTime {s : String} {fault : LayoutFault} (fails : DateTime.read s = .error fault) :
    Unread .dateTime s .dateTime fault
  | date {s : String} {fault : LayoutFault} (fails : Date.read s = .error fault) :
    Unread .date s .date fault
  | time {s : String} {fault : LayoutFault} (fails : Time.read s = .error fault) :
    Unread .time s .time fault

/-- What a field holds against decoding a value itself: a text that its layout cannot read, and a
mapping under a field for fields that has no JSON form or is no declaration. -/
inductive Field.Refuses (declare : DeclarationReader) (f : Field) :
    Value → ConvertError → Prop where
  | text {s : String} {layout : Layout} {fault : LayoutFault}
    (unread : f.kind.Unread s layout fault) :
    Refuses declare f (.text s) (.badDateTime s layout.text fault)
  | json {es : Mapping} {fault : JsonFault} (kind : f.kind = .field)
    (unwritable : Value.toJson (.map es) = .error fault) : Refuses declare f (.map es) (.json fault)
  | declaration {es : Mapping} {j : Json} {fault : DeclarationError} (kind : f.kind = .field)
    (written : Value.toJson (.map es) = .ok j) (undeclared : declare j = .error fault) :
    Refuses declare f (.map es) (.declaration fault)

namespace GovernedEntry

/-- The fault of an entry: that no field governs it, or what its field holds against its value. -/
inductive Fault (declare : DeclarationReader) (p : GovernedEntry) : ConvertError → Prop where
  | unknownKey (unresolved : p.dict.field? p.key = none) : Fault declare p (.unknownKey ⟨p.key⟩)
  | value {f : Field} {fault : ConvertError} (governed : p.dict.field? p.key = some f)
    (refused : f.Refuses declare p.value fault) : Fault declare p fault

end GovernedEntry

/-- Keys joined from the right: the last two first. -/
def Path.joinedRight (key : String) : List String → String
  | [] => key
  | next :: rest => Path.join key (joinedRight next rest)

/-- An error with the keys on the way to it, if there are any, in one layer around it. -/
def ConvertError.along : List String → ConvertError → ConvertError
  | [], e => e
  | key :: rest, e => .inField (Path.joinedRight key rest) e

/-- The error that is reported for the fault of an entry. Of an unknown key, the path is that of
its mapping, since the fault names the key itself. -/
def GovernedEntry.located (p : GovernedEntry) : ConvertError → ConvertError
  | .unknownKey e => (ConvertError.unknownKey e).along p.parents
  | fault => fault.along (p.parents ++ [p.key])

/-- The error for the first of several entries that have a fault. -/
def FirstFault (declare : DeclarationReader) (ps : List GovernedEntry) (e : ConvertError) : Prop :=
  ∃ before p after, ps = before ++ p :: after ∧ (∀ q ∈ before, ∀ x, ¬ q.Fault declare x) ∧
    ∃ fault, p.Fault declare fault ∧ p.located fault = e

/-! ## Shapes -/

mutual

/-- What a value may become under a field. Numbers, texts, days and times become one another,
mappings under a field for fields become fields, lists keep their length, mappings under a field
for mappings their keys, and null is kept and does not come up anew. -/
inductive Value.KeptBy : Field → Value → Value → Prop where
  | same {f : Field} {v : Value} : KeptBy f v v
  | scalar {f : Field} {v w : Value} (before : v.isScalar = true) (after : w.isScalar = true)
    (nulls : v = .null ↔ w = .null) : KeptBy f v w
  | list {f : Field} {candidates : List Field} {least : Nat} {most : Option Nat}
    {items ws : List Value} (kind : f.kind = .list candidates least most)
    (length : ws.length = items.length)
    (elements : ∀ (i : Nat) (v w : Value), items[i]? = some v → ws[i]? = some w →
      Value.KeptByOne candidates v w) : KeptBy f (.list items) (.list ws)
  | map {f : Field} {d : Dict} {es ws : Mapping} (kind : f.kind = .dict d)
    (keys : Entries.keys ws = Entries.keys es)
    (entries : ∀ (i : Nat) (key : String) (v w : Value) (g : Field), es[i]? = some (key, v) →
      ws[i]? = some (key, w) → d.field? key = some g → Value.KeptBy g v w) :
    KeptBy f (.map es) (.map ws)
  | declaration {f g : Field} {es : Mapping} (kind : f.kind = .field) :
    KeptBy f (.map es) (.field g)

/-- What a list element may become under one of several candidates. -/
inductive Value.KeptByOne : List Field → Value → Value → Prop where
  | same {candidates : List Field} {v : Value} : KeptByOne candidates v v
  | candidate {candidates : List Field} {c : Field} {v w : Value} (mem : c ∈ candidates)
    (kept : Value.KeptBy c v w) : KeptByOne candidates v w

end

variable {declare : DeclarationReader} {f : Field} {d : Dict} {v w : Value} {es ws : Mapping}
  {e fault : ConvertError} {key : String} {p : GovernedEntry} {ps qs : List GovernedEntry}

/-! ## The first of several faults -/

theorem not_firstFault_nil : ¬ FirstFault declare [] e := by
  simp [FirstFault]

theorem firstFault_cons_iff :
    FirstFault declare (p :: ps) e ↔
      (∃ fault, p.Fault declare fault ∧ p.located fault = e) ∨
        (∀ x, ¬ p.Fault declare x) ∧ FirstFault declare ps e :=
  exists_split_cons_iff

/-- In two lists the first fault is that of the first list, if there is one. -/
theorem firstFault_append_iff :
    FirstFault declare (ps ++ qs) e ↔
      FirstFault declare ps e ∨
        (∀ p ∈ ps, ∀ e, ¬ p.Fault declare e) ∧ FirstFault declare qs e := by
  induction ps with
  | nil => simp [not_firstFault_nil]
  | cons p ps ih =>
    rw [List.cons_append, firstFault_cons_iff, firstFault_cons_iff, ih, List.forall_mem_cons]
    grind

/-- There is a first fault wherever there is one at all. -/
theorem exists_firstFault_iff :
    (∃ e, FirstFault declare ps e) ↔ ∃ p ∈ ps, ∃ fault, p.Fault declare fault := by
  induction ps with
  | nil => simp [not_firstFault_nil]
  | cons p ps ih =>
    have hcons : (∃ q ∈ p :: ps, ∃ fault, q.Fault declare fault) ↔
        (∃ fault, p.Fault declare fault) ∨ ∃ q ∈ ps, ∃ fault, q.Fault declare fault := by
      simp
    rw [hcons, ← ih]
    simp only [firstFault_cons_iff]
    constructor
    · rintro ⟨e, ⟨fault, found, -⟩ | ⟨-, h⟩⟩
      · exact .inl ⟨fault, found⟩
      · exact .inr ⟨e, h⟩
    · intro h
      by_cases hp : ∃ fault, p.Fault declare fault
      · obtain ⟨fault, found⟩ := hp
        exact ⟨_, .inl ⟨fault, found, rfl⟩⟩
      · obtain ⟨e, he⟩ := h.resolve_left hp
        exact ⟨e, .inr ⟨not_exists.mp hp, he⟩⟩

/-! ## Errors on their way up -/

theorem Field.Refuses.not_inField (h : f.Refuses declare v fault) (field : String)
    (source : ConvertError) : fault ≠ .inField field source := by
  cases h <;> simp

/-- No fault has a layer with a path around it. -/
theorem GovernedEntry.Fault.not_inField (h : p.Fault declare fault) (field : String)
    (source : ConvertError) : fault ≠ .inField field source := by
  cases h with
  | unknownKey => simp
  | value _ refused => exact refused.not_inField field source

@[simp] theorem GovernedEntry.fault_below_iff :
    (p.below key).Fault declare fault ↔ p.Fault declare fault := by
  constructor
  · intro h
    cases h with
    | unknownKey unresolved => exact .unknownKey unresolved
    | value governed refused => exact .value governed refused
  · intro h
    cases h with
    | unknownKey unresolved => exact .unknownKey unresolved
    | value governed refused => exact .value governed refused

/-- The keys of an error grow at their front by the key of the mapping around. -/
theorem ConvertError.under_along (h : ∀ field source, e ≠ .inField field source)
    (keys : List String) : (e.along keys).under key = e.along (key :: keys) := by
  cases keys with
  | nil =>
    cases e with
    | inField field source => exact absurd rfl (h field source)
    | _ => rfl
  | cons => rfl

theorem GovernedEntry.located_below (h : p.Fault declare fault) :
    (p.below key).located fault = (p.located fault).under key := by
  have hplain := h.not_inField
  cases fault with
  | unknownKey => exact (ConvertError.under_along hplain _).symm
  | _ => exact (ConvertError.under_along hplain _).symm

theorem firstFault_map_below_iff :
    FirstFault declare (ps.map (GovernedEntry.below key)) e ↔
      ∃ source, FirstFault declare ps source ∧ source.under key = e := by
  induction ps with
  | nil => simp [not_firstFault_nil]
  | cons p ps ih =>
    simp only [List.map_cons, firstFault_cons_iff, ih, GovernedEntry.fault_below_iff]
    constructor
    · rintro (⟨fault, found, rfl⟩ | ⟨hp, source, hsource, rfl⟩)
      · exact ⟨_, .inl ⟨fault, found, rfl⟩, (GovernedEntry.located_below found).symm⟩
      · exact ⟨source, .inr ⟨hp, hsource⟩, rfl⟩
    · rintro ⟨source, ⟨fault, found, rfl⟩ | ⟨hp, hsource⟩, rfl⟩
      · exact .inl ⟨fault, found, GovernedEntry.located_below found⟩
      · exact .inr ⟨hp, source, hsource, rfl⟩

/-! ## Decoding reports the first fault -/

/-- A computation fails with the first fault of some entries, and only then. -/
def Reports {α : Type} (declare : DeclarationReader) (x : Except ConvertError α)
    (ps : List GovernedEntry) : Prop :=
  ∀ e, x = .error e ↔ FirstFault declare ps e

namespace Reports

variable {α β : Type} {x : Except ConvertError α}

theorem exists_error_iff (h : Reports declare x ps) :
    (∃ e, x = .error e) ↔ ∃ p ∈ ps, ∃ fault, p.Fault declare fault := by
  rw [← exists_firstFault_iff]
  exact exists_congr h

theorem not_fault (h : Reports declare x ps) {a : α} (hx : x = .ok a) :
    ∀ p ∈ ps, ∀ e, ¬ p.Fault declare e := by
  intro p hp fault found
  obtain ⟨e, he⟩ := h.exists_error_iff.mpr ⟨p, hp, fault, found⟩
  cases hx.symm.trans he

theorem map (h : Reports declare x ps) (g : α → β) : Reports declare (x.map g) ps := by
  intro e
  rw [← h e]
  cases x <;> simp [Except.map]

/-- One step after the other reports the faults of the first, and then those of the second. -/
theorem bind {g : α → Except ConvertError β} (h : Reports declare x ps)
    (hg : ∀ a, Reports declare (g a) qs) : Reports declare (x >>= g) (ps ++ qs) := by
  intro e
  rw [firstFault_append_iff, ← h e]
  cases x with
  | error e' =>
    obtain ⟨p, hp, fault, found⟩ := h.exists_error_iff.mp ⟨e', rfl⟩
    rw [error_bind, or_iff_left fun hclean => hclean.1 p hp fault found]
    simp
  | ok a =>
    rw [ok_bind, hg a e]
    exact ⟨fun hrest => .inr ⟨h.not_fault rfl, hrest⟩,
      fun hfirst => (hfirst.resolve_left (by simp)).2⟩

theorem under (h : Reports declare x ps) (key : String) :
    Reports declare (asConvertError (ConvertError.under key) x)
      (ps.map (GovernedEntry.below key)) := by
  intro e
  rw [firstFault_map_below_iff, ← exists_congr fun source => and_congr_left' (h source)]
  cases x <;> simp [asConvertError]

end Reports

@[simp] theorem Value.readText_eq_error_iff {α : Type} {s : String} {layout : Layout}
    {make : α → Value}
    {x : Except LayoutFault α} :
    FieldKind.readText s layout make x = .error e ↔
      ∃ fault, x = .error fault ∧ .badDateTime s layout.text fault = e := by
  cases x <;> simp [FieldKind.readText]

/-- Of the values that are not taken apart, only texts can be refused. -/
theorem FieldKind.decodeScalar_eq_error_iff {kind : FieldKind} :
    kind.decodeScalar v = .error e ↔
      ∃ s layout fault, v = .text s ∧ kind.Unread s layout fault ∧
        .badDateTime s layout.text fault = e := by
  constructor
  · intro h
    cases kind with
    | dateTime | date | time =>
      cases v with
      | text s =>
        obtain ⟨fault, fails, he⟩ := Value.readText_eq_error_iff.mp h
        exact ⟨s, _, fault, rfl, by constructor; exact fails, he⟩
      | _ => cases h
    | _ => cases v <;> cases h
  · rintro ⟨s, layout, fault, rfl, unread, rfl⟩
    cases unread with
    | dateTime fails | date fails | time fails =>
      exact Value.readText_eq_error_iff.mpr ⟨fault, fails, rfl⟩

/-- A mapping under a field for fields is refused if it is no declaration. -/
theorem Value.refuses_of_decodeWith_map (hk : f.kind = .field)
    (h : (map es).decodeWith declare f = .error e) : f.Refuses declare (map es) e := by
  rw [decodeWith_map_of_field hk] at h
  cases hj : toJson (map es) with
  | error fault =>
    rw [hj] at h
    cases h
    exact .json hk hj
  | ok j =>
    rw [hj, asConvertError, ok_bind] at h
    cases hg : declare j with
    | error fault =>
      rw [hg] at h
      cases h
      exact .declaration hk hj hg
    | ok g =>
      rw [hg] at h
      cases h

/-- A value that is no mapping under a field for mappings fails by what its field holds against
it. -/
theorem Value.decodeWith_eq_error_iff (hmap : ∀ es d, v = .map es → f.kind ≠ .dict d) :
    v.decodeWith declare f = .error e ↔ f.Refuses declare v e := by
  constructor
  · intro h
    cases v with
    | list items =>
      rw [decodeWith] at h
      split at h <;> cases h
    | map es =>
      by_cases hk : f.kind = .field
      · exact refuses_of_decodeWith_map hk h
      · rw [decodeWith_map_of_kind_ne (fun d => hmap es d rfl) hk] at h
        cases h
    | _ =>
      rw [decodeWith_leaf rfl] at h
      obtain ⟨s, layout, fault, hs, unread, rfl⟩ := FieldKind.decodeScalar_eq_error_iff.mp h
      rw [hs]
      exact .text unread
  · intro h
    cases h with
    | text unread =>
      rw [decodeWith_leaf rfl]
      exact FieldKind.decodeScalar_eq_error_iff.mpr ⟨_, _, _, rfl, unread, rfl⟩
    | json kind unwritable => simp [decodeWith_map_of_field kind, unwritable, asConvertError]
    | declaration kind written undeclared =>
      simp [decodeWith_map_of_field kind, written, undeclared, asConvertError]

/-- The entries that decoding comes by for one entry of a mapping: that entry, then those within
its value. -/
def Dict.entriesAt (d : Dict) (key : String) (v : Value) : List GovernedEntry :=
  ⟨[], d, key, v⟩ ::
    match d.field? key with
    | some f => (Value.governedEntries v f).map (GovernedEntry.below key)
    | none => []

@[simp] theorem Mapping.governedEntries_cons :
    Mapping.governedEntries ((key, v) :: es) d =
      d.entriesAt key v ++ Mapping.governedEntries es d := rfl

theorem GovernedEntry.fault_iff_of_governed (governed : d.field? key = some f) :
    (⟨[], d, key, v⟩ : GovernedEntry).Fault declare fault ↔ f.Refuses declare v fault := by
  constructor
  · intro h
    cases h with
    | unknownKey unresolved => cases governed.symm.trans unresolved
    | value hg refused =>
      cases governed.symm.trans hg
      exact refused
  · exact fun refused => @Fault.value declare ⟨[], d, key, v⟩ f fault governed refused

theorem GovernedEntry.located_of_refuses (h : f.Refuses declare v fault) :
    (⟨[], d, key, v⟩ : GovernedEntry).located fault = fault.under key := by
  cases h <;> rfl

/-- A key without a field is the fault of its entry, and nothing further is looked at. -/
theorem Value.reports_decodeEntry_of_unknown (hf : d.field? key = none) :
    Reports declare (decodeEntry declare d key v) (d.entriesAt key v) := by
  intro e
  have hdecode : decodeEntry declare d key v = .error (.unknownKey ⟨key⟩) := by
    rw [decodeEntry, Dict.fieldOf, hf]
    rfl
  rw [hdecode, Dict.entriesAt, hf, firstFault_cons_iff]
  constructor
  · intro h
    cases h
    exact .inl ⟨_, .unknownKey hf, rfl⟩
  · rintro (⟨fault, found, rfl⟩ | ⟨-, hnil⟩)
    · cases found with
      | unknownKey => rfl
      | value governed => cases hf.symm.trans governed
    · exact absurd hnil not_firstFault_nil

/-- One entry fails by the fault it has itself or by the first one within its value. -/
theorem Value.reports_decodeEntry
    (ih : ∀ sub, v = .map sub → ∀ d, Reports declare (decodeEntries declare d sub)
      (Mapping.governedEntries sub d)) :
    Reports declare (decodeEntry declare d key v) (d.entriesAt key v) := by
  cases hf : d.field? key with
  | none => exact reports_decodeEntry_of_unknown hf
  | some f =>
    have hdecode : decodeEntry declare d key v =
        asConvertError (ConvertError.under key) (v.decodeWith declare f) := by
      rw [decodeEntry, Dict.fieldOf, hf]
      rfl
    intro e
    rw [hdecode, Dict.entriesAt, hf, firstFault_cons_iff]
    simp only [GovernedEntry.fault_iff_of_governed hf]
    -- A nested mapping has no fault of its own, and nothing else has faults within it.
    by_cases hmap : ∃ sub d', v = .map sub ∧ f.kind = .dict d'
    · obtain ⟨sub, d', rfl, hk⟩ := hmap
      have hwithin : governedEntries (.map sub) f = Mapping.governedEntries sub d' := by
        rw [governedEntries, hk]
      have hclean : ∀ e, ¬ f.Refuses declare (.map sub) e := by
        intro e refused
        cases refused with
        | json kind => cases hk.symm.trans kind
        | declaration kind => cases hk.symm.trans kind
      have hreports := ((ih sub rfl d').map Value.map).under key e
      rw [decodeWith_map hk, hreports, hwithin]
      simp [hclean]
    · have hplain : ∀ es d, v = .map es → f.kind ≠ .dict d :=
        fun es d hv hk => hmap ⟨es, d, hv, hk⟩
      have hwithin : governedEntries v f = [] := by
        rw [governedEntries.eq_def]
        split
        · next es =>
          split
          · next d hk => exact absurd hk (hplain es d rfl)
          · rfl
        · rfl
      rw [hwithin, List.map_nil]
      simp only [not_firstFault_nil, and_false, or_false]
      constructor
      · intro h
        cases hv : v.decodeWith declare f with
        | error fault =>
          rw [hv] at h
          cases h
          have refused := (decodeWith_eq_error_iff hplain).mp hv
          exact ⟨fault, refused, GovernedEntry.located_of_refuses refused⟩
        | ok w =>
          rw [hv] at h
          cases h
      · rintro ⟨fault, refused, rfl⟩
        rw [(decodeWith_eq_error_iff hplain).mpr refused, GovernedEntry.located_of_refuses refused]
        rfl

theorem Mapping.reports_decodeEntries {es : Mapping} :
    ∀ d : Dict, Reports declare (Value.decodeEntries declare d es)
      (Mapping.governedEntries es d) := by
  induction es using Value.nestedInduction with
  | step es ih =>
    intro d
    induction es with
    | nil =>
      exact fun e => by
        simp [Value.decodeEntries, Mapping.governedEntries, not_firstFault_nil]
    | cons entry rest ihrest =>
      obtain ⟨key, v⟩ := entry
      have hentry : Reports declare (Value.decodeEntry declare d key v) (d.entriesAt key v) :=
        Value.reports_decodeEntry fun sub hv d => ih key sub (by simp [hv]) d
      have hrest := ihrest fun k sub hsub => ih k sub (List.mem_cons_of_mem _ hsub)
      rw [Mapping.governedEntries_cons, Value.decodeEntries_eq_traverse, Entries.traverse,
        ← Value.decodeEntries_eq_traverse]
      exact hentry.bind fun w => hrest.map _

/-! ## What is kept -/

theorem Value.keptBy_of_decodeScalar (h : f.kind.decodeScalar v = .ok w) : KeptBy f v w := by
  cases hk : f.kind with
  | int | long | float =>
    rw [hk] at h
    cases v <;> cases h <;> first
      | exact .same
      | exact .scalar rfl rfl (by simp)
      | (split <;> exact .scalar rfl rfl (by simp))
  | dateTime | date | time =>
    rw [hk] at h
    cases v with
    | text s =>
      obtain ⟨a, -, rfl⟩ := readText_eq_ok_iff.mp h
      exact .scalar rfl rfl (by simp)
    | _ =>
      cases h
      exact .same
  | _ =>
    rw [hk] at h
    cases v <;> cases h <;> exact .same

theorem Value.keptBy_of_decodeWith {v : Value} :
    ∀ {f w}, v.decodeWith declare f = .ok w → KeptBy f v w := by
  induction v using containerInduction with
  | leaf v hv =>
    intro f w h
    rw [decodeWith_leaf hv] at h
    exact keptBy_of_decodeScalar h
  | list items ih =>
    intro f w h
    rcases f.kind.eq_list_or_ne with ⟨candidates, least, most, hk⟩ | hne
    · rw [decodeWith_list hk, decodeItems_eq_map] at h
      cases h
      refine .list hk (List.length_map _) fun i v w hv hw => ?_
      rw [List.getElem?_map, hv] at hw
      cases hw
      rcases decodeElement_cases declare candidates v with ⟨c, hc, hdecode⟩ | hsame
      · exact .candidate hc (ih v (List.mem_of_getElem? hv) hdecode)
      · rw [hsame]
        exact .same
    · rw [decodeWith_list_of_kind_ne hne] at h
      cases h
      exact .same
  | map es ih =>
    intro f w h
    rcases f.kind.eq_dict_or_field_or_ne with ⟨d, hk⟩ | hk | ⟨hdict, hfield⟩
    · rw [decodeWith_map hk, decodeEntries_eq_traverse] at h
      obtain ⟨ws, hws, rfl⟩ := map_eq_ok_iff.mp h
      refine .map hk (Entries.keys_traverse hws) fun i key v w g hv hw hg => ?_
      obtain ⟨g', hg', hdecode⟩ := decodeEntry_eq_ok_iff.mp (Entries.getElem?_traverse hws hv hw)
      cases hg.symm.trans hg'
      exact ih key v (List.mem_of_getElem? hv) hdecode
    · obtain ⟨_, -, g, -, rfl⟩ := (decodeWith_map_of_field_eq_ok_iff hk).mp h
      exact .declaration hk
    · rw [decodeWith_map_of_kind_ne hdict hfield] at h
      cases h
      exact .same

/-! ## Documents -/

/-- Decoding fails for nothing but an entry with a fault on the way through mappings that fields
for mappings govern. The error is that of the first such entry in document order, within one layer
that names the keys on the way. A document that is decoded keeps the keys of such mappings, the
length of every list, and null where it has it. -/
theorem Schema.decode_faults (s : Schema) (es : Mapping) :
    ((∃ e, s.decode (.map es) = .error e) ↔
      ∃ p ∈ Mapping.governedEntries es s.root, ∃ fault, p.Fault Declaration.readField fault) ∧
    (∀ e, s.decode (.map es) = .error e ↔
      FirstFault Declaration.readField (Mapping.governedEntries es s.root) e) ∧
    ∀ w, s.decode (.map es) = .ok w → Value.KeptBy (Field.dict s.root) (.map es) w := by
  have hreports : Reports Declaration.readField (s.decode (.map es))
      (Mapping.governedEntries es s.root) := (Mapping.reports_decodeEntries s.root).map Value.map
  have hdecode : s.decode (.map es) =
      (Value.map es).decodeWith Declaration.readField (Field.dict s.root) := rfl
  refine ⟨hreports.exists_error_iff, hreports, fun w hw => ?_⟩
  rw [hdecode] at hw
  exact Value.keptBy_of_decodeWith hw

/-- An unknown key in a nested mapping is found where it is, and without it the mappings keep their
keys. -/
theorem Schema.decode_faults_nested :
    let s := Schema.ofDict [(.name "a", .dict [(.name "b", .int)])]
    let faulty : Mapping := [("a", .map [("b", .long 1), ("x", .null)])]
    let sound : Mapping := [("a", .map [("b", .long 1)])]
    (s.decode (.map faulty) = .error (.inField "a" (.unknownKey ⟨"x"⟩)) ∧
      FirstFault Declaration.readField (Mapping.governedEntries faulty s.root)
        (.inField "a" (.unknownKey ⟨"x"⟩))) ∧
    s.decode (.map sound) = .ok (.map [("a", .map [("b", .int 1)])]) ∧
      Value.KeptBy (Field.dict s.root) (.map sound) (.map [("a", .map [("b", .int 1)])]) := by
  refine ⟨⟨rfl, ((Schema.decode_faults _ _).2.1 _).mp rfl⟩, rfl,
    (Schema.decode_faults _ _).2.2 _ rfl⟩

end TypedDocument
