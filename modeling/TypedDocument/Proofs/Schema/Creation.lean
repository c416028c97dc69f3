import TypedDocument.Proofs.Schema.Document
import TypedDocument.Proofs.Validation.Thinning
import TypedDocument.Schema.Creation

/-!
# When created documents are valid

A created document holds the required entries with a literal name and nothing else. So it is
partially valid as soon as the defaults in it are valid, and what keeps it from being fully valid
is a required entry without a default, or a required key type, somewhere in the dicts that creation
goes through.
-/

namespace TypedDocument

/-! ## Where creation goes -/

/-- The dicts that creation goes through, from the first one on. -/
inductive Dict.Reaches : Dict → Dict → Prop where
  | self (d : Dict) : Reaches d d
  | nested {d sub e : Dict} {n : String} {f : Field} (mem : (SchemaKey.name n, f) ∈ d)
    (required : f.optional = false) (kind : f.kind = .dict sub) (within : Reaches sub e) :
    Reaches d e

/-- Creation leaves nothing out of a mapping that has to be there: every required entry with a
literal name has a default or is a nested mapping, and no key type is required. -/
structure Dict.Filled (d : Dict) : Prop where
  names : ∀ n f, (SchemaKey.name n, f) ∈ d → f.optional = false → (∀ sub, f.kind ≠ .dict sub) →
    f.default ≠ .unset
  types : ∀ t f, (SchemaKey.type t, f) ∈ d → f.optional = true

mutual

/-- The fields whose defaults creation takes, in the order in which it takes them. -/
def Dict.places : List (SchemaKey × Field) → List Field
  | [] => []
  | (.type _, _) :: rest => Dict.places rest
  | (.name _, f) :: rest => Field.places f ++ Dict.places rest
termination_by structural fields => fields

def Field.places : Field → List Field
  | .mk kind options default =>
    if options.optional then [] else FieldKind.places kind (.mk kind options default)
termination_by structural f => f

def FieldKind.places : FieldKind → Field → List Field
  | .dict fields, _ => Dict.places fields
  | _, f => [f]
termination_by structural kind => kind

end

/-- What the defaults of fields give one after the other. -/
def Field.draws : List Field → Counters → List (Field × Option Value)
  | [], _ => []
  | f :: rest, c => (f, (f.default.produce c).1) :: draws rest (f.default.produce c).2

/-- The counters after the defaults of fields have been taken one after the other. -/
def Counters.after (c : Counters) (fields : List Field) : Counters :=
  fields.foldl (fun c f => (f.default.produce c).2) c

variable {partially : Bool} {c c' : Counters} {d sub e : Dict} {f g : Field} {n : String}
  {t : KeyType} {v : Value} {fs gs : List Field}

@[simp] theorem Field.draws_append :
    draws (fs ++ gs) c = draws fs c ++ draws gs (c.after fs) := by
  induction fs generalizing c with
  | nil => rfl
  | cons f rest ih => rw [List.cons_append, draws, draws, ih, List.cons_append]; rfl

@[simp] theorem Counters.after_append : c.after (fs ++ gs) = (c.after fs).after gs :=
  List.foldl_append

/-! ## One field -/

namespace Field

@[simp] theorem create_of_optional (h : f.optional = true) : f.create c = (none, c) := by
  obtain ⟨kind, options, default⟩ := f
  rw [create]
  exact if_pos h

theorem create_of_dict (h : f.optional = false) (hk : f.kind = .dict d) :
    f.create c = (some (.map (Dict.createEntries d c).1), (Dict.createEntries d c).2) := by
  obtain ⟨kind, options, default⟩ := f
  cases hk
  rw [create]
  exact if_neg (Bool.eq_false_iff.mp h)

theorem create_of_kind_ne (h : f.optional = false) (hk : ∀ d, f.kind ≠ .dict d) :
    f.create c = f.default.produce c := by
  obtain ⟨kind, options, default⟩ := f
  rw [create]
  refine (if_neg (Bool.eq_false_iff.mp h)).trans ?_
  cases kind with
  | dict d => exact absurd rfl (hk d)
  | _ => rfl

@[simp] theorem places_of_optional (h : f.optional = true) : f.places = [] := by
  obtain ⟨kind, options, default⟩ := f
  rw [places]
  exact if_pos h

theorem places_of_dict (h : f.optional = false) (hk : f.kind = .dict d) :
    f.places = Dict.places d := by
  obtain ⟨kind, options, default⟩ := f
  cases hk
  rw [places]
  exact if_neg (Bool.eq_false_iff.mp h)

theorem places_of_kind_ne (h : f.optional = false) (hk : ∀ d, f.kind ≠ .dict d) :
    f.places = [f] := by
  obtain ⟨kind, options, default⟩ := f
  rw [places]
  refine (if_neg (Bool.eq_false_iff.mp h)).trans ?_
  cases kind with
  | dict d => exact absurd rfl (hk d)
  | _ => rfl

/-- A field gives a value to a new document if it is required and has one to give. -/
theorem exists_create_iff :
    (∃ v, (f.create c).1 = some v) ↔
      f.optional = false ∧ ((∃ d, f.kind = .dict d) ∨ f.default ≠ .unset) := by
  cases hoptional : f.optional with
  | true => simp [create_of_optional hoptional]
  | false =>
    rcases f.kind.eq_dict_or_ne with ⟨d, hk⟩ | hk
    · simp [create_of_dict hoptional hk, hk]
    · rw [create_of_kind_ne hoptional hk]
      cases hdefault : f.default <;> simp [Default.produce, hk]

end Field

/-! ## One mapping -/

namespace Dict

theorem createEntries_name {rest : Dict} :
    createEntries ((.name n, f) :: rest) c =
      (((f.create c).1.map fun v => (n, v)).toList ++ (createEntries rest (f.create c).2).1,
        (createEntries rest (f.create c).2).2) := by
  rw [createEntries]

/-- Creating the entries of a dict comes to a field under a literal name, with the counters as they
are then. -/
inductive Creates : Dict → Counters → String → Field → Counters → Prop where
  | head {n : String} {f : Field} {rest : Dict} {c : Counters} :
    Creates ((.name n, f) :: rest) c n f c
  | type {t : KeyType} {g f : Field} {rest : Dict} {c c' : Counters} {n : String}
    (later : Creates rest c n f c') : Creates ((.type t, g) :: rest) c n f c'
  | name {m n : String} {g f : Field} {rest : Dict} {c c' : Counters}
    (later : Creates rest (g.create c).2 n f c') : Creates ((.name m, g) :: rest) c n f c'

theorem Creates.mem (h : d.Creates c n f c') : (SchemaKey.name n, f) ∈ d := by
  induction h with
  | head => exact List.mem_cons_self
  | type later ih => exact List.mem_cons_of_mem _ ih
  | name later ih => exact List.mem_cons_of_mem _ ih

theorem exists_creates (h : (SchemaKey.name n, f) ∈ d) : ∃ c', d.Creates c n f c' := by
  induction d generalizing c with
  | nil => cases h
  | cons entry rest ih =>
    obtain ⟨key, g⟩ := entry
    rcases List.mem_cons.mp h with heq | hrest
    · cases heq
      exact ⟨c, .head⟩
    · cases key with
      | type t =>
        obtain ⟨c', hc'⟩ := ih hrest
        exact ⟨c', .type hc'⟩
      | name m =>
        obtain ⟨c', hc'⟩ := ih hrest
        exact ⟨c', .name hc'⟩

/-- A created mapping holds what the fields of the dict give when creation comes to them. -/
theorem mem_createEntries_iff :
    (n, v) ∈ (createEntries d c).1 ↔ ∃ f c', d.Creates c n f c' ∧ (f.create c').1 = some v := by
  induction d generalizing c with
  | nil =>
    rw [createEntries]
    refine iff_of_false List.not_mem_nil ?_
    rintro ⟨f, c', hcreates, -⟩
    cases hcreates
  | cons entry rest ih =>
    obtain ⟨key, g⟩ := entry
    cases key with
    | type t =>
      rw [createEntries, ih]
      constructor
      · rintro ⟨f, c', hcreates, hv⟩
        exact ⟨f, c', .type hcreates, hv⟩
      · rintro ⟨f, c', hcreates, hv⟩
        cases hcreates with
        | type later => exact ⟨f, c', later, hv⟩
    | name m =>
      rw [createEntries_name, List.mem_append, ih]
      simp only [Option.mem_toList, Option.map_eq_some_iff, Prod.mk.injEq]
      constructor
      · rintro (⟨w, hw, rfl, rfl⟩ | ⟨f, c', hcreates, hv⟩)
        · exact ⟨g, c, .head, hw⟩
        · exact ⟨f, c', .name hcreates, hv⟩
      · rintro ⟨f, c', hcreates, hv⟩
        cases hcreates with
        | head => exact .inl ⟨v, hv, rfl, rfl⟩
        | name later => exact .inr ⟨f, c', later, hv⟩

theorem mem_keys_createEntries_iff :
    n ∈ Entries.keys (createEntries d c).1 ↔
      ∃ f, (SchemaKey.name n, f) ∈ d ∧ f.optional = false ∧
        ((∃ sub, f.kind = .dict sub) ∨ f.default ≠ .unset) := by
  constructor
  · intro h
    obtain ⟨⟨_, v⟩, hv, rfl⟩ := List.mem_map.mp h
    obtain ⟨f, c', hcreates, hf⟩ := mem_createEntries_iff.mp hv
    exact ⟨f, hcreates.mem, Field.exists_create_iff.mp ⟨v, hf⟩⟩
  · rintro ⟨f, hmem, hf⟩
    obtain ⟨c', hcreates⟩ := exists_creates hmem
    obtain ⟨v, hv⟩ := Field.exists_create_iff.mpr hf
    exact List.mem_map.mpr ⟨(n, v), mem_createEntries_iff.mpr ⟨f, c', hcreates, hv⟩, rfl⟩

/-- A created mapping has all that is required exactly if nothing had to be left out. -/
theorem completedBy_createEntries_iff (hd : d.Distinct) :
    d.CompletedBy (Entries.keys (createEntries d c).1) ↔ d.Filled := by
  have hget : ∀ {n f}, (SchemaKey.name n, f) ∈ d → d.get? (.name n) = some f :=
    fun hf => (Entries.mem_iff_get? hd).mp hf
  constructor
  · rintro ⟨names, types⟩
    constructor
    · intro n f hf hrequired hplain
      obtain ⟨f', hf', -, hgives⟩ := mem_keys_createEntries_iff.mp (names n f hf hrequired)
      cases (hget hf').symm.trans (hget hf)
      exact hgives.resolve_left fun ⟨sub, hsub⟩ => hplain sub hsub
    · intro t f hf
      cases hoptional : f.optional with
      | true => rfl
      | false =>
        -- All keys of a created mapping are declared by name, and so none stands for a type.
        obtain ⟨n, hn, -, hnone⟩ := types t f hf hoptional
        obtain ⟨f', hf', -⟩ := mem_keys_createEntries_iff.mp hn
        cases (hget hf').symm.trans hnone
  · rintro ⟨names, types⟩
    constructor
    · intro n f hf hrequired
      refine mem_keys_createEntries_iff.mpr ⟨f, hf, hrequired, ?_⟩
      rcases f.kind.eq_dict_or_ne with hdict | hplain
      · exact .inl hdict
      · exact .inr (names n f hf hrequired hplain)
    · intro t f hf hrequired
      cases (types t f hf).symm.trans hrequired

end Dict

/-! ## Counters -/

theorem Dict.snd_createEntries_of
    (h : ∀ n f, (SchemaKey.name n, f) ∈ d → ∀ c, (f.create c).2 = c.after f.places) (c : Counters) :
    (createEntries d c).2 = c.after (places d) := by
  induction d generalizing c with
  | nil => rfl
  | cons entry rest ih =>
    obtain ⟨key, g⟩ := entry
    have hrest := ih fun n f hf => h n f (List.mem_cons_of_mem _ hf)
    cases key with
    | type t => exact hrest c
    | name m =>
      rw [createEntries_name, places, Counters.after_append, hrest, h m g List.mem_cons_self]

/-- Creation takes the defaults of its places one after the other. -/
@[simp] theorem Field.snd_create (f : Field) : ∀ c, (f.create c).2 = c.after f.places := by
  induction f using partInduction with
  | step f ihlist ihdict =>
    intro c
    cases hoptional : f.optional with
    | true =>
      rw [create_of_optional hoptional, places_of_optional hoptional]
      rfl
    | false =>
      rcases f.kind.eq_dict_or_ne with ⟨d, hk⟩ | hk
      · rw [create_of_dict hoptional hk, places_of_dict hoptional hk]
        exact Dict.snd_createEntries_of (fun n g hg => ihdict d hk (.name n) g hg) c
      · rw [create_of_kind_ne hoptional hk, places_of_kind_ne hoptional hk]
        rfl

/-- What the places of one field draw is part of what those of the dict draw. -/
theorem Dict.Creates.mem_draws {x : Field × Option Value} (h : d.Creates c n f c')
    (hx : x ∈ Field.draws f.places c') : x ∈ Field.draws (Dict.places d) c := by
  induction h with
  | head =>
    rw [places, Field.draws_append]
    exact List.mem_append_left _ hx
  | type later ih => exact ih hx
  | @name m n g f rest c c' later ih =>
    rw [places, Field.draws_append, ← Field.snd_create]
    exact List.mem_append_right _ (ih hx)

/-! ## Places -/

theorem Field.mem_of_mem_draws {o : Option Value} (h : (f, o) ∈ draws fs c) : f ∈ fs := by
  induction fs generalizing c with
  | nil => cases h
  | cons g rest ih =>
    rw [draws] at h
    rcases List.mem_cons.mp h with h | h
    · cases h
      exact List.mem_cons_self
    · exact List.mem_cons_of_mem g (ih h)

theorem Dict.mem_places_iff_exists :
    g ∈ places d ↔ ∃ n f, (SchemaKey.name n, f) ∈ d ∧ g ∈ f.places := by
  induction d with
  | nil => simp [places]
  | cons entry rest ih =>
    obtain ⟨key, f⟩ := entry
    cases key with
    | type t => simp [places, ih]
    | name m =>
      rw [places, List.mem_append, ih]
      constructor
      · rintro (hf | ⟨n, f', hmem, hf'⟩)
        · exact ⟨m, f, List.mem_cons_self, hf⟩
        · exact ⟨n, f', List.mem_cons_of_mem _ hmem, hf'⟩
      · rintro ⟨n, f', hmem, hf'⟩
        rcases List.mem_cons.mp hmem with heq | hmem
        · cases heq
          exact .inl hf'
        · exact .inr ⟨n, f', hmem, hf'⟩

theorem Field.exists_of_mem_places (g : Field) :
    ∀ {d : Dict}, g.kind = .dict d → f ∈ Dict.places d →
      ∃ e n, d.Reaches e ∧ (SchemaKey.name n, f) ∈ e ∧ f.optional = false ∧
        ∀ sub, f.kind ≠ .dict sub := by
  induction g using partInduction with
  | step g ihlist ihdict =>
    intro d hk hf
    obtain ⟨n, h, hmem, hf⟩ := Dict.mem_places_iff_exists.mp hf
    cases hoptional : h.optional with
    | true =>
      rw [places_of_optional hoptional] at hf
      cases hf
    | false =>
      rcases h.kind.eq_dict_or_ne with ⟨sub, hsub⟩ | hplain
      · rw [places_of_dict hoptional hsub] at hf
        obtain ⟨e, m, hreaches, hrest⟩ := ihdict d hk _ h hmem hsub hf
        exact ⟨e, m, .nested hmem hoptional hsub hreaches, hrest⟩
      · rw [places_of_kind_ne hoptional hplain] at hf
        cases List.mem_singleton.mp hf
        exact ⟨d, n, .self d, hmem, hoptional, hplain⟩

/-- Creation takes the defaults of the required fields under literal names that are not for
mappings, in the dicts that it goes through. -/
theorem Dict.mem_places_iff :
    f ∈ places d ↔ ∃ e n, d.Reaches e ∧ (SchemaKey.name n, f) ∈ e ∧ f.optional = false ∧
      ∀ sub, f.kind ≠ .dict sub := by
  constructor
  · exact Field.exists_of_mem_places (Field.dict d) rfl
  · rintro ⟨e, n, hreaches, hmem, hoptional, hplain⟩
    induction hreaches with
    | self e =>
      refine mem_places_iff_exists.mpr ⟨n, f, hmem, ?_⟩
      rw [Field.places_of_kind_ne hoptional hplain]
      exact List.mem_cons_self
    | nested hentry required kind within ih =>
      refine mem_places_iff_exists.mpr ⟨_, _, hentry, ?_⟩
      rw [Field.places_of_dict required kind]
      exact ih hmem

/-! ## Validity -/

/-- What holds of all dicts that creation goes through holds of the first one and of those that it
goes through from there. -/
theorem Dict.forall_reaches_iff {p : Dict → Prop} : (∀ e, d.Reaches e → p e) ↔
    p d ∧ ∀ n f sub, (SchemaKey.name n, f) ∈ d → f.optional = false → f.kind = .dict sub →
      ∀ e, Dict.Reaches sub e → p e := by
  constructor
  · exact fun h => ⟨h d (.self d), fun n f sub mem required kind e he =>
      h e (.nested mem required kind he)⟩
  · rintro ⟨hself, hnested⟩ e he
    cases he with
    | self => exact hself
    | nested mem required kind within => exact hnested _ _ _ mem required kind e within

/-- A created mapping conforms partially if the defaults it is made of do, and fully if in addition
nothing had to be left out. -/
theorem Field.conforms_create (g : Field) :
    ∀ {d : Dict} {c}, g.kind = .dict d → (∀ e, d.Reaches e → e.Distinct) →
      (∀ f v, (f, some v) ∈ draws (Dict.places d) c → v.Conforms false f) →
      ((Value.map (Dict.createEntries d c).1).Conforms partially g ↔
        (partially = false → ∀ e, d.Reaches e → e.Filled)) := by
  induction g using partInduction with
  | step g ihlist ihdict =>
    intro d c hk hdistinct hdraws
    have hfield : ∀ {n f}, (SchemaKey.name n, f) ∈ d → d.field? n = some f := fun hf =>
      Dict.field?_eq_some_iff.mpr (.literal ((Entries.mem_iff_get? (hdistinct d (.self d))).mp hf))
    -- A nested mapping is created from the same defaults that the whole takes.
    have hnested : ∀ {n f c' sub}, d.Creates c n f c' → f.optional = false → f.kind = .dict sub →
        ((Value.map (Dict.createEntries sub c').1).Conforms partially f ↔
          (partially = false → ∀ e, Dict.Reaches sub e → e.Filled)) := by
      intro n f c' sub hcreates hrequired hsub
      refine ihdict d hk (.name n) f hcreates.mem hsub
        (fun e he => hdistinct e (.nested hcreates.mem hrequired hsub he)) ?_
      intro f' v hv
      exact hdraws f' v (hcreates.mem_draws (places_of_dict hrequired hsub ▸ hv))
    rw [Value.conforms_map_iff hk, Dict.completedBy_createEntries_iff (hdistinct d (.self d)),
      Dict.forall_reaches_iff]
    constructor
    · rintro ⟨hentries, hcomplete⟩ hfull
      refine ⟨hcomplete hfull, fun n f sub hmem hrequired hsub => ?_⟩
      obtain ⟨c', hcreates⟩ := Dict.exists_creates hmem
      have hentry : (n, Value.map (Dict.createEntries sub c').1) ∈ (Dict.createEntries d c).1 :=
        Dict.mem_createEntries_iff.mpr ⟨f, c', hcreates, by rw [create_of_dict hrequired hsub]⟩
      obtain ⟨f', hf', hconforms⟩ := hentries n _ hentry
      cases (hfield hmem).symm.trans hf'
      exact (hnested hcreates hrequired hsub).mp hconforms hfull
    · intro hfilled
      refine ⟨?_, fun hfull => (hfilled hfull).1⟩
      intro key v hv
      obtain ⟨f, c', hcreates, hcreate⟩ := Dict.mem_createEntries_iff.mp hv
      obtain ⟨hrequired, -⟩ := exists_create_iff.mp ⟨v, hcreate⟩
      refine ⟨f, hfield hcreates.mem, ?_⟩
      rcases f.kind.eq_dict_or_ne with ⟨sub, hsub⟩ | hplain
      · rw [create_of_dict hrequired hsub] at hcreate
        cases hcreate
        exact (hnested hcreates hrequired hsub).mpr fun hfull =>
          (hfilled hfull).2 key f sub hcreates.mem hrequired hsub
      · have hdraw : (f, some v) ∈ draws f.places c' := by
          rw [places_of_kind_ne hrequired hplain, draws, ← create_of_kind_ne hrequired hplain,
            hcreate]
          exact List.mem_cons_self
        have hconforms := hdraws f v (hcreates.mem_draws hdraw)
        cases partially with
        | true => exact hconforms.partially
        | false => exact hconforms

/-- A created document is partially valid if the defaults it is made of are valid, each under its
own field. It is fully valid if and only if nothing had to be left out. -/
theorem Schema.validate_create (s : Schema) (c : Counters)
    (hdistinct : ∀ d, s.root.Reaches d → d.Distinct)
    (hdefaults : ∀ d n f v, s.root.Reaches d → (SchemaKey.name n, f) ∈ d → f.optional = false →
      (∀ sub, f.kind ≠ .dict sub) → (f, some v) ∈ Field.draws (Dict.places s.root) c →
      f.validate v "" false = .ok ()) :
    s.validate (s.create c).1 true = .ok () ∧
      (s.validate (s.create c).1 false = .ok () ↔ ∀ d, s.root.Reaches d → d.Filled) := by
  have hdraws : ∀ f v, (f, some v) ∈ Field.draws (Dict.places s.root) c → v.Conforms false f := by
    intro f v hv
    obtain ⟨d, n, hreaches, hmem, hrequired, hplain⟩ :=
      Dict.mem_places_iff.mp (Field.mem_of_mem_draws hv)
    exact (Value.validate_eq_ok_iff f "").mp
      (hdefaults d n f v hreaches hmem hrequired hplain hv)
  have hvalid : ∀ partially, s.validate (s.create c).1 partially = .ok () ↔
      (partially = false → ∀ d, s.root.Reaches d → d.Filled) := by
    intro partially
    have hcreate : (s.create c).1 = .map (Dict.createEntries s.root c).1 := rfl
    rw [hcreate, validate_eq_ok_iff,
      ← Field.conforms_create (Field.dict s.root) rfl hdistinct hdraws]
    constructor
    · rintro ⟨es, hes, hconforms⟩
      cases hes
      exact hconforms
    · exact fun hconforms => ⟨_, rfl, hconforms⟩
  refine ⟨(hvalid true).mpr nofun, (hvalid false).trans ?_⟩
  exact ⟨fun h => h rfl, fun h _ => h⟩

/-! ### Tickets -/

/-- Tickets are numbered, and their guests have a name unless stated otherwise, but no age. -/
def ticketSchema : Schema where
  root := [
    (.name "number", .mk (.long {}) {} (.counter 0)),
    (.name "guest", .dict [
      (.name "name", .mk (.text {}) {} (.value (.text "nobody"))),
      (.name "age", .int)])]

theorem distinct_of_reaches_ticket : ∀ d, ticketSchema.root.Reaches d → d.Distinct := by
  refine Dict.forall_reaches_iff.mpr ⟨by decide, fun n f sub mem _ kind => ?_⟩
  simp only [ticketSchema, List.mem_cons, Prod.mk.injEq, List.not_mem_nil, or_false] at mem
  rcases mem with ⟨-, rfl⟩ | ⟨-, rfl⟩
  · cases kind
  · cases kind
    refine Dict.forall_reaches_iff.mpr ⟨by decide, fun n f sub mem _ kind => ?_⟩
    simp only [List.mem_cons, Prod.mk.injEq, List.not_mem_nil, or_false] at mem
    rcases mem with ⟨-, rfl⟩ | ⟨-, rfl⟩ <;> cases kind

theorem Schema.validate_create_ticket :
    ticketSchema.validate (ticketSchema.create .fresh).1 true = .ok () ∧
      ticketSchema.validate (ticketSchema.create .fresh).1 false ≠ .ok () := by
  have hdraws : Field.draws (Dict.places ticketSchema.root) .fresh = [
      (.mk (.long {}) {} (.counter 0), some (.long 1)),
      (.mk (.text {}) {} (.value (.text "nobody")), some (.text "nobody")),
      (.int, none)] := rfl
  obtain ⟨hpartial, hfull⟩ := Schema.validate_create ticketSchema .fresh
    distinct_of_reaches_ticket (by
    intro d n f v _ _ _ _ hv
    rw [hdraws] at hv
    simp only [List.mem_cons, Prod.mk.injEq, Option.some.injEq, reduceCtorEq, and_false,
      List.not_mem_nil, or_false] at hv
    rcases hv with ⟨rfl, rfl⟩ | ⟨rfl, rfl⟩ <;> rfl)
  refine ⟨hpartial, fun h => ?_⟩
  have hguest := hfull.mp h _ (.nested (n := "guest") (.tail _ (.head _)) rfl rfl (.self _))
  exact hguest.names "age" .int (.tail _ (.head _)) rfl (fun _ hk => by cases hk) rfl

end TypedDocument
