import TypedDocument.Declaration.Schema
import TypedDocument.JsonSchema.Export
import TypedDocument.Proofs.Schema.Creation
import TypedDocument.Proofs.Session

/-!
# The numbers in created documents

Creation goes through the places of a schema depth first and takes the default of each once. So the
places of one counter get consecutive numbers in every new document, whatever is laid over it then.
Nothing but creation draws from counters, and the numbers go on from one creation to the next.
-/

namespace TypedDocument

/-! ## Where the defaults go -/

/-- A chain of keys leads to a field whose default creation takes: it goes through required mappings
under literal names and ends at a required field under a literal name that is not for mappings. -/
inductive Dict.Fills : Dict → List String → Field → Prop where
  | here {d : Dict} {n : String} {f : Field} (mem : (SchemaKey.name n, f) ∈ d)
    (required : f.optional = false) (plain : ∀ sub, f.kind ≠ .dict sub) : Fills d [n] f
  | nested {d sub : Dict} {n : String} {g f : Field} {chain : List String}
    (mem : (SchemaKey.name n, g) ∈ d) (required : g.optional = false) (kind : g.kind = .dict sub)
    (within : Fills sub chain f) : Fills d (n :: chain) f

mutual

/-- The fields whose defaults creation takes and the chains of keys that lead there, in the order in
which it takes them. -/
def Dict.sites : List (SchemaKey × Field) → List (List String × Field)
  | [] => []
  | (.type _, _) :: rest => Dict.sites rest
  | (.name n, f) :: rest =>
    (Field.sites f).map (fun site => (n :: site.1, site.2)) ++ Dict.sites rest
termination_by structural fields => fields

def Field.sites : Field → List (List String × Field)
  | .mk kind options default =>
    if options.optional then [] else FieldKind.sites kind (.mk kind options default)
termination_by structural f => f

def FieldKind.sites : FieldKind → Field → List (List String × Field)
  | .dict fields, _ => Dict.sites fields
  | _, f => [([], f)]
termination_by structural kind => kind

end

variable {c : Counters} {d sub e : Dict} {f g : Field} {n : String} {chain : List String}
  {fs : List Field} {id : CounterId}

namespace Field

@[simp] theorem sites_of_optional (h : f.optional = true) : f.sites = [] := by
  obtain ⟨kind, options, default⟩ := f
  rw [sites]
  exact if_pos h

theorem sites_of_dict (h : f.optional = false) (hk : f.kind = .dict d) :
    f.sites = Dict.sites d := by
  obtain ⟨kind, options, default⟩ := f
  cases hk
  rw [sites]
  exact if_neg (Bool.eq_false_iff.mp h)

theorem sites_of_kind_ne (h : f.optional = false) (hk : ∀ d, f.kind ≠ .dict d) :
    f.sites = [([], f)] := by
  obtain ⟨kind, options, default⟩ := f
  rw [sites]
  refine (if_neg (Bool.eq_false_iff.mp h)).trans ?_
  cases kind with
  | dict d => exact absurd rfl (hk d)
  | _ => rfl

end Field

theorem Dict.mem_sites_iff_exists :
    (chain, f) ∈ sites d ↔
      ∃ n g rest, (SchemaKey.name n, g) ∈ d ∧ (rest, f) ∈ g.sites ∧ chain = n :: rest := by
  induction d with
  | nil => simp [sites]
  | cons entry more ih =>
    obtain ⟨key, h⟩ := entry
    cases key with
    | type t => simp [sites, ih]
    | name m =>
      rw [sites, List.mem_append, ih]
      constructor
      · rintro (hmem | ⟨n, g, rest, hmem, hrest⟩)
        · obtain ⟨⟨rest, f'⟩, hrest, heq⟩ := List.mem_map.mp hmem
          cases heq
          exact ⟨m, h, rest, List.mem_cons_self, hrest, rfl⟩
        · exact ⟨n, g, rest, List.mem_cons_of_mem _ hmem, hrest⟩
      · rintro ⟨n, g, rest, hmem, hrest, rfl⟩
        rcases List.mem_cons.mp hmem with heq | hmem
        · cases heq
          exact .inl (List.mem_map.mpr ⟨(rest, f), hrest, rfl⟩)
        · exact .inr ⟨n, g, rest, hmem, hrest, rfl⟩

theorem Field.fills_of_mem_sites (g : Field) :
    ∀ {d : Dict} {chain}, g.kind = .dict d → (chain, f) ∈ Dict.sites d → d.Fills chain f := by
  induction g using partInduction with
  | step g ihlist ihdict =>
    intro d chain hk hsite
    obtain ⟨n, h, rest, hmem, hrest, rfl⟩ := Dict.mem_sites_iff_exists.mp hsite
    cases hoptional : h.optional with
    | true =>
      rw [sites_of_optional hoptional] at hrest
      cases hrest
    | false =>
      rcases h.kind.eq_dict_or_ne with ⟨sub, hsub⟩ | hplain
      · rw [sites_of_dict hoptional hsub] at hrest
        exact .nested hmem hoptional hsub (ihdict d hk _ h hmem hsub hrest)
      · rw [sites_of_kind_ne hoptional hplain] at hrest
        cases List.mem_singleton.mp hrest
        exact .here hmem hoptional hplain

/-- The places of creation are those that required literal names lead to. -/
theorem Dict.mem_sites_iff : (chain, f) ∈ sites d ↔ d.Fills chain f := by
  constructor
  · exact Field.fills_of_mem_sites (Field.dict d) rfl
  · intro h
    induction h with
    | here mem required plain =>
      refine mem_sites_iff_exists.mpr ⟨_, _, [], mem, ?_, rfl⟩
      rw [Field.sites_of_kind_ne required plain]
      exact List.mem_singleton_self _
    | nested mem required kind within ih =>
      refine mem_sites_iff_exists.mpr ⟨_, _, _, mem, ?_, rfl⟩
      rw [Field.sites_of_dict required kind]
      exact ih

/-! ## What is found there -/

/-- What new entries hold at the places of a dict, in order. -/
def Dict.fillings (d : Dict) (es : Mapping) : List (Field × Option Value) :=
  (sites d).map fun site => (site.2, (Value.map es).at? (site.1.map .key))

/-- What a new value holds at the places of a field, in order. -/
def Field.fillings (f : Field) (created : Option Value) : List (Field × Option Value) :=
  f.sites.map fun site => (site.2, created.bind fun v => v.at? (site.1.map .key))

theorem Entries.get?_toList_append_self {es : Mapping} (o : Option Value) (h : n ∉ keys es) :
    get? n ((o.map fun v => (n, v)).toList ++ es) = o := by
  cases o with
  | none => exact get?_eq_none_iff.mpr h
  | some v => exact if_pos (beq_self_eq_true n)

theorem Entries.get?_toList_append_of_ne {es : Mapping} {m : String} (o : Option Value)
    (h : m ≠ n) : get? n ((o.map fun v => (m, v)).toList ++ es) = get? n es := by
  cases o with
  | none => rfl
  | some v => exact if_neg (by simpa using h)

theorem Dict.fillings_cons_name {rest : Dict} {es : Mapping} (o : Option Value)
    (hrest : SchemaKey.name n ∉ Entries.keys rest) (hes : n ∉ Entries.keys es) :
    fillings ((.name n, f) :: rest) ((o.map fun v => (n, v)).toList ++ es) =
      f.fillings o ++ fillings rest es := by
  have hhead : ∀ site : List String × Field,
      (Value.map ((o.map fun v => (n, v)).toList ++ es)).at? ((n :: site.1).map .key) =
        o.bind fun v => v.at? (site.1.map .key) := by
    intro site
    simp only [List.map_cons, Value.at?, Value.child?, Entries.get?_toList_append_self o hes]
  have htail : ∀ site ∈ sites rest,
      (Value.map ((o.map fun v => (n, v)).toList ++ es)).at? (site.1.map .key) =
        (Value.map es).at? (site.1.map .key) := by
    intro site hsite
    obtain ⟨m, g, chain, hmem, -, hchain⟩ := mem_sites_iff_exists.mp hsite
    have hne : n ≠ m := by
      rintro rfl
      exact hrest (List.mem_map.mpr ⟨_, hmem, rfl⟩)
    simp only [hchain, List.map_cons, Value.at?, Value.child?,
      Entries.get?_toList_append_of_ne o hne]
  rw [fillings, sites, List.map_append, List.map_map]
  congr 1
  · exact List.map_congr_left fun site _ => congrArg (Prod.mk site.2) (hhead site)
  · exact List.map_congr_left fun site hsite => congrArg (Prod.mk site.2) (htail site hsite)

theorem Dict.fillings_createEntries_of
    (h : ∀ n f, (SchemaKey.name n, f) ∈ d →
      ∀ c, f.fillings (f.create c).1 = Field.draws f.places c) (hd : d.Distinct) (c : Counters) :
    fillings d (createEntries d c).1 = Field.draws (places d) c := by
  induction d generalizing c with
  | nil => rfl
  | cons entry rest ih =>
    obtain ⟨key, g⟩ := entry
    obtain ⟨hkey, hrest⟩ := Entries.distinct_cons_iff.mp hd
    have hrest := ih (fun n f hf => h n f (List.mem_cons_of_mem _ hf)) hrest
    cases key with
    | type t => exact hrest c
    | name m =>
      have hfresh : m ∉ Entries.keys (createEntries rest (g.create c).2).1 := by
        intro hm
        obtain ⟨f, hf, -⟩ := mem_keys_createEntries_iff.mp hm
        exact hkey (List.mem_map.mpr ⟨_, hf, rfl⟩)
      rw [createEntries_name, fillings_cons_name _ hkey hfresh, h m g List.mem_cons_self, hrest,
        places, Field.draws_append, Field.snd_create]

/-- A new value holds at its places what their defaults give one after the other. -/
theorem Field.fillings_create (f : Field) :
    (f.optional = false → ∀ d : Dict, f.kind = .dict d → ∀ e, d.Reaches e → e.Distinct) →
      ∀ c, f.fillings (f.create c).1 = draws f.places c := by
  induction f using partInduction with
  | step f ihlist ihdict =>
    intro hdistinct c
    cases hoptional : f.optional with
    | true =>
      rw [fillings, sites_of_optional hoptional, places_of_optional hoptional]
      rfl
    | false =>
      rcases f.kind.eq_dict_or_ne with ⟨d, hk⟩ | hk
      · have hdistinct := hdistinct hoptional d hk
        rw [fillings, sites_of_dict hoptional hk, create_of_dict hoptional hk,
          places_of_dict hoptional hk]
        refine Dict.fillings_createEntries_of (fun n g hg => ?_) (hdistinct d (.self d)) c
        exact ihdict d hk (.name n) g hg fun hg_required sub hsub e he =>
          hdistinct e (.nested hg hg_required hsub he)
      · rw [fillings, sites_of_kind_ne hoptional hk, create_of_kind_ne hoptional hk,
          places_of_kind_ne hoptional hk]
        simp [draws, Value.at?]

theorem Dict.fillings_createEntries (hdistinct : ∀ e, d.Reaches e → e.Distinct) (c : Counters) :
    fillings d (createEntries d c).1 = Field.draws (places d) c := by
  refine fillings_createEntries_of (fun n f hf => ?_) (hdistinct d (.self d)) c
  exact f.fillings_create fun required sub hsub e he => hdistinct e (.nested hf required hsub he)

/-! ## Numbers drawn by fields -/

/-- Whether the default of a field is drawn from a counter. -/
def Field.counts (id : CounterId) (f : Field) : Bool :=
  match f.default with
  | .counter other => other == id
  | _ => false

@[simp] theorem Field.counts_iff : f.counts id = true ↔ f.default = .counter id := by
  rw [counts]
  cases f.default <;> simp

@[simp] theorem Field.given_produce :
    (f.default.produce c).2.given id = c.given id + if f.counts id then 1 else 0 := by
  rw [counts]
  cases f.default with
  | unset => rfl
  | value v => rfl
  | counter other =>
    by_cases h : other = id
    · simp [Default.produce, Counters.draw, h]
    · simp [Default.produce, Counters.draw, h, Ne.symm h]

@[simp] theorem Field.yields_produce : (f.default.produce c).2.yields = c.yields := by
  cases f.default <;> rfl

@[simp] theorem Counters.given_after :
    (c.after fs).given id = c.given id + fs.countP (·.counts id) := by
  induction fs generalizing c with
  | nil => rfl
  | cons f rest ih =>
    have hstep : c.after (f :: rest) = (f.default.produce c).2.after rest := rfl
    rw [hstep, ih, Field.given_produce, List.countP_cons]
    omega

@[simp] theorem Counters.yields_after : (c.after fs).yields = c.yields := by
  induction fs generalizing c with
  | nil => rfl
  | cons f rest ih => exact ih.trans Field.yields_produce

/-- The fields of one counter draw consecutive numbers. -/
theorem Field.draws_counts :
    ((draws fs c).filter (·.1.counts id)).map (·.2) =
      (List.range' (c.given id + 1) (fs.countP (·.counts id))).map fun n =>
        some (c.yields id n) := by
  induction fs generalizing c with
  | nil => rfl
  | cons f rest ih =>
    rw [draws, List.countP_cons, List.filter_cons]
    cases hcounts : f.counts id with
    | false =>
      have hgiven : (f.default.produce c).2.given id = c.given id := by
        simp [hcounts]
      simp [ih, hgiven]
    | true =>
      have hgiven : (f.default.produce c).2.given id = c.given id + 1 := by
        simp [hcounts]
      have hdraw : (f.default.produce c).1 = some (c.yields id (c.given id + 1)) := by
        rw [counts_iff.mp hcounts]
        rfl
      simp [ih, hgiven, hdraw, List.range'_succ]

/-! ## Numbers in one document -/

namespace Schema

variable {s : Schema}

/-- The places that take their default from a counter, in the order of creation. -/
def numbered (s : Schema) (id : CounterId) : List (List String) :=
  ((Dict.sites s.root).filter fun site => site.2.counts id).map (·.1)

theorem mem_numbered_iff :
    chain ∈ s.numbered id ↔ ∃ f, s.root.Fills chain f ∧ f.default = .counter id := by
  simp [numbered, Dict.mem_sites_iff]

@[simp] theorem snd_create (s : Schema) (c : Counters) :
    (s.create c).2 = c.after (Dict.places s.root) :=
  Dict.snd_createEntries_of (fun _ f _ => f.snd_create) c

/-- The places of a counter hold consecutive numbers in the order of creation. -/
theorem numbers_create (hdistinct : ∀ d, s.root.Reaches d → d.Distinct) (c : Counters)
    (id : CounterId) :
    (s.numbered id).map (fun chain => (s.create c).1.at? (chain.map .key)) =
      (List.range' (c.given id + 1) ((Dict.places s.root).countP (·.counts id))).map fun n =>
        some (c.yields id n) := by
  rw [← Field.draws_counts, ← Dict.fillings_createEntries hdistinct, Dict.fillings, List.filter_map,
    List.map_map, numbered, List.map_map]
  rfl

theorem length_numbered (hdistinct : ∀ d, s.root.Reaches d → d.Distinct) :
    (s.numbered id).length = (Dict.places s.root).countP (·.counts id) := by
  simpa using congrArg List.length (numbers_create hdistinct .fresh id)

/-- The places of a counter hold the next numbers in the order of creation. -/
theorem at?_create {j : Nat} (hdistinct : ∀ d, s.root.Reaches d → d.Distinct) (c : Counters)
    (hj : (s.numbered id)[j]? = some chain) :
    (s.create c).1.at? (chain.map .key) = some (c.yields id (c.given id + j + 1)) := by
  obtain ⟨hlt, rfl⟩ := List.getElem?_eq_some_iff.mp hj
  have hnumbers := congrArg (fun numbers => numbers[j]?) (numbers_create hdistinct c id)
  rw [← length_numbered hdistinct] at hnumbers
  simpa [hj, hlt, Nat.add_right_comm] using hnumbers

/-! ## Numbers over a session -/

/-- What can be asked of schemas while documents of one schema are created. -/
inductive Request where
  | create
  | createFrom (initial : Mapping)
  | validate (t : Schema) (doc : Value) (partially : Bool)
  | decode (t : Schema) (doc : Value)
  | encode (t : Schema) (doc : Value)
  | describe (t : Schema)
  | jsonSchema (t : Schema)
  | extend (base overlay : Schema)
  | merge (base overlay : Dict)
  | fieldOf (d : Dict) (key : String)
  | fieldAt (t : Schema) (path : String)

/-- The initial document of a creation. -/
def Request.initial? : Request → Option Mapping
  | create => some []
  | createFrom initial => some initial
  | _ => none

/-- What a request is answered with. -/
inductive Answer where
  | document (doc : Value)
  | validated (outcome : Except ValidationError Unit)
  | converted (outcome : Except ConvertError Value)
  | described (declaration : Json)
  | exported (j : JsonSchema)
  | schema (t : Schema)
  | dict (d : Dict)
  | field (found : Except UnknownKey Field)

/-- The answer to a request, and the counters after it. -/
def answer (s : Schema) (c : Counters) : Request → Answer × Counters
  | .create => (.document (s.create c).1, (s.create c).2)
  | .createFrom initial => (.document (s.createFrom initial c).1, (s.createFrom initial c).2)
  | .validate t doc partially => (.validated (t.validate doc partially), c)
  | .decode t doc => (.converted (t.decode doc), c)
  | .encode t doc => (.converted (t.encode doc), c)
  | .describe t => (.described t.describe, c)
  | .jsonSchema t => (.exported t.jsonSchema, c)
  | .extend base overlay => (.schema (base.extend overlay), c)
  | .merge base overlay => (.dict (base.merge overlay), c)
  | .fieldOf d key => (.field (d.fieldOf key), c)
  | .fieldAt t path => (.field (t.fieldAt path), c)

/-- How many of the requests create a document. -/
def creations (requests : List Request) : Nat := requests.countP (·.initial?.isSome)

variable {request : Request} {requests : List Request} {initial : Mapping}

theorem answer_of_initial? (h : request.initial? = some initial) :
    s.answer c request =
      (.document (.map (Mapping.overlay false initial (Dict.createEntries s.root c).1)),
        (s.create c).2) := by
  cases request with
  | create =>
    cases h
    rfl
  | createFrom initial =>
    cases h
    rfl
  | _ => cases h

/-- Only creation draws from counters. -/
@[simp] theorem snd_answer (s : Schema) (c : Counters) (request : Request) :
    (s.answer c request).2 =
      if request.initial?.isSome then c.after (Dict.places s.root) else c := by
  cases hinitial : request.initial? with
  | some initial => rw [answer_of_initial? hinitial, snd_create, Option.isSome_some, if_pos rfl]
  | none => cases request <;> first | rfl | cases hinitial

@[simp] theorem yields_session : (session s.answer requests c).2.yields = c.yields := by
  induction requests generalizing c with
  | nil => rfl
  | cons request rest ih =>
    rw [session, ih, snd_answer]
    split
    · exact Counters.yields_after
    · rfl

/-- Every creation gives one number to each place of a counter. -/
theorem given_session :
    (session s.answer requests c).2.given id =
      c.given id + creations requests * (Dict.places s.root).countP (·.counts id) := by
  induction requests generalizing c with
  | nil => simp [session, creations]
  | cons request rest ih =>
    rw [session, ih, snd_answer, creations, creations, List.countP_cons]
    split
    · rw [Counters.given_after, Nat.add_mul, Nat.one_mul]
      omega
    · rw [Nat.add_zero]

end Schema

/-- A counter that has given no number yet and gives 1, 2, 3 and so on. -/
structure Counters.CountsFromOne (c : Counters) (id : CounterId) : Prop where
  start : c.given id = 0
  next : ∀ n, c.yields id n = .long (Int64.ofNat n)

/-- A counter numbers its places in all documents of a schema without a gap. Between creations,
requests of other kinds may be made, and each creation may lay an initial document over the new one:
the places are those that required literal names lead to, the next creation after `before` gives the
`j`th of them the number of places in the documents so far and `j` more, and in the end as many
numbers are given as there were places in all documents. -/
theorem Schema.numbers_session (s : Schema) (id : CounterId) (c : Counters)
    (requests : List Request) (hdistinct : ∀ d, s.root.Reaches d → d.Distinct)
    (hcounts : c.CountsFromOne id) :
    (∀ chain, chain ∈ s.numbered id ↔ ∃ f, s.root.Fills chain f ∧ f.default = .counter id) ∧
    (session s.answer requests c).2.given id =
      creations requests * (s.numbered id).length ∧
    ∀ before request after initial, requests = before ++ request :: after →
      request.initial? = some initial →
      ∃ es, (s.create (session s.answer before c).2).1 = .map es ∧
        (session s.answer requests c).1[before.length]? =
          some (.document (.map (Mapping.overlay false initial es))) ∧
        ∀ j chain, (s.numbered id)[j]? = some chain →
          (Value.map es).at? (chain.map .key) =
            some (.long (Int64.ofNat (creations before * (s.numbered id).length + j + 1))) := by
  have hgiven : ∀ requests, (session s.answer requests c).2.given id =
      creations requests * (s.numbered id).length := by
    intro requests
    rw [given_session, hcounts.start, length_numbered hdistinct, Nat.zero_add]
  refine ⟨fun _ => mem_numbered_iff, hgiven requests, ?_⟩
  rintro before request after initial rfl hinitial
  refine ⟨_, rfl, ?_, fun j chain hj => ?_⟩
  · rw [getElem?_session, answer_of_initial? hinitial]
  · have hnumber := at?_create hdistinct (session s.answer before c).2 hj
    rwa [hgiven, yields_session, hcounts.next] at hnumber

/-! ### Orders -/

/-- A number from the counter of orders. -/
def orderNumber : Field := .mk (.long {}) {} (.counter 0)

/-- An order and its first parcel are numbered. The other fields of the counter give no number. -/
def orderSchema : Schema where
  root := [
    (.type .text, orderNumber),
    (.name "number", orderNumber),
    (.name "parcel", .mk (.dict [
      (.name "spare", orderNumber.withOptional true),
      (.name "number", orderNumber)]) {} (.counter 0)),
    (.name "codes", .list [orderNumber])]

theorem distinct_of_reaches_order : ∀ d, orderSchema.root.Reaches d → d.Distinct := by
  refine Dict.forall_reaches_iff.mpr ⟨by decide, fun n f sub mem _ kind => ?_⟩
  simp only [orderSchema, List.mem_cons, Prod.mk.injEq, List.not_mem_nil, or_false] at mem
  rcases mem with ⟨⟨⟩, -⟩ | ⟨-, rfl⟩ | ⟨-, rfl⟩ | ⟨-, rfl⟩
  · cases kind
  · cases kind
    refine Dict.forall_reaches_iff.mpr ⟨by decide, fun n f sub mem _ kind => ?_⟩
    simp only [List.mem_cons, Prod.mk.injEq, List.not_mem_nil, or_false] at mem
    rcases mem with ⟨-, rfl⟩ | ⟨-, rfl⟩ <;> cases kind
  · cases kind

/-- The second order has the numbers 3 and 4, and 3 is lost to the initial document. -/
theorem Schema.numbers_session_order :
    (session orderSchema.answer
      [.create, .describe orderSchema, .createFrom [("number", .text "x")]] .fresh).2.given 0 = 4 ∧
    ∃ es, (Value.map es).at? [.key "number"] = some (.long 3) ∧
      (Value.map es).at? [.key "parcel", .key "number"] = some (.long 4) ∧
      (session orderSchema.answer
        [.create, .describe orderSchema, .createFrom [("number", .text "x")]] .fresh).1[2]? =
        some (.document (.map (Mapping.overlay false [("number", .text "x")] es))) := by
  obtain ⟨-, hgiven, hnumbers⟩ := Schema.numbers_session orderSchema 0 .fresh
    [.create, .describe orderSchema, .createFrom [("number", .text "x")]]
    distinct_of_reaches_order ⟨rfl, fun _ => rfl⟩
  obtain ⟨es, -, hanswer, hplaces⟩ := hnumbers [.create, .describe orderSchema]
    (.createFrom [("number", .text "x")]) [] [("number", .text "x")] rfl rfl
  exact ⟨hgiven, es, hplaces 0 ["number"] rfl, hplaces 1 ["parcel", "number"] rfl, hanswer⟩

end TypedDocument
