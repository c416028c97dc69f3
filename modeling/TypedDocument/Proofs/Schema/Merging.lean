import TypedDocument.Proofs.Field.Nesting
import TypedDocument.Schema.Basic

/-!
# Merged dicts

What a merged dict holds at a key depends on what the two dicts hold there, and its keys are those
of the base followed by the new ones of the overlay. Dicts without repeated keys are equal if they
have the same keys in the same order and hold the same at each. So the laws of merging are laws of
what is held at a single key, and those go through nested mappings by induction.

Merging three dicts in either order gives the same, except where the middle one has a field of
another kind between two nested mappings: in one order the nested mappings never meet.
-/

namespace TypedDocument

/-! ## Keys that lead to nested mappings -/

/-- The dict of a field for mappings. -/
def Field.dict? (f : Field) : Option Dict :=
  match f.kind with
  | .dict d => some d
  | _ => none

/-- The keys of a kind for mappings are different. -/
def FieldKind.HasDistinctKeys (kind : FieldKind) : Prop := ∀ d, kind = .dict d → Entries.Distinct d

instance : DecidablePred FieldKind.HasDistinctKeys
  | .dict d => decidable_of_iff (Entries.Distinct d)
      ⟨fun h _ hd => FieldKind.dict.inj hd ▸ h, fun h => h d rfl⟩
  | .any | .field | .null | .bool | .int _ | .long _ | .float _ | .text _ | .dateTime | .date |
    .time | .list _ _ _ => isTrue fun _ hd => by cases hd

namespace Dict

/-- No dict has a key twice, neither this one nor one within its fields. -/
def Proper (d : Dict) : Prop := (Field.dict d).Everywhere FieldKind.HasDistinctKeys

instance (d : Dict) : Decidable d.Proper :=
  inferInstanceAs (Decidable ((Field.dict d).Everywhere FieldKind.HasDistinctKeys))

/-- The dict of the field for mappings at a key. -/
def nested? (d : Dict) (key : SchemaKey) : Option Dict := (d.get? key).bind Field.dict?

/-- The dict that keys lead to, through fields for mappings only. -/
def along? : List SchemaKey → Dict → Option Dict
  | [], d => some d
  | key :: rest, d => (d.nested? key).bind (along? rest)

/-- Keys lead to nested mappings in the outer two of three dicts. The middle one goes along up to
the last key, and there it holds a field of another kind. -/
def Interrupts (b a c : Dict) : Prop :=
  ∃ chain key b' f, (along? (chain ++ [key]) a).isSome = true ∧
    (along? (chain ++ [key]) c).isSome = true ∧ along? chain b = some b' ∧
    b'.get? key = some f ∧ f.dict? = none

end Dict

/-- A field that is brought in where another one may be. Two fields for mappings give the first one
with both dicts merged. -/
def Field.laidOver (found : Option Field) (g : Field) : Field :=
  match found, g.dict? with
  | some f, some overlay =>
    match f.dict? with
    | some base => f.withKind (.dict (Dict.merge base overlay))
    | none => g
  | _, _ => g

/-- What is held at a key after merging, from what the base and the overlay hold there. -/
def Field.merged (found : Option Field) : Option Field → Option Field
  | none => found
  | some g => some (g.laidOver found)

variable {f g h : Field} {a b c d : Dict} {key k : SchemaKey} {found : Option Field}

@[simp] theorem Field.dict?_eq_some_iff : f.dict? = some d ↔ f.kind = .dict d := by
  unfold dict?
  split
  · next h => rw [h, Option.some.injEq, FieldKind.dict.injEq]
  · next h => simpa using h d

theorem Field.laidOver_of_dict (hf : f.dict? = some a) (hg : g.dict? = some b) :
    g.laidOver (some f) = f.withKind (.dict (Dict.merge a b)) := by
  simp only [laidOver, hf, hg]

@[simp] theorem Field.laidOver_of_base (hf : f.dict? = none) : g.laidOver (some f) = g := by
  cases hg : g.dict? <;> simp only [laidOver, hf, hg]

@[simp] theorem Field.laidOver_of_overlay (hg : g.dict? = none) : g.laidOver found = g := by
  cases found <;> simp only [laidOver, hg]

namespace Dict

theorem proper_iff :
    d.Proper ↔ Entries.Distinct d ∧ d.Everywhere FieldKind.HasDistinctKeys := by
  rw [Proper, Field.everywhere_dict_iff, FieldKind.HasDistinctKeys]
  simp only [FieldKind.dict.injEq, forall_eq']

theorem Proper.distinct (hd : d.Proper) : Entries.Distinct d := (proper_iff.mp hd).1

theorem Proper.nested (hd : d.Proper) (hf : d.get? key = some f) (he : f.dict? = some a) :
    a.Proper := by
  have hkind := Field.dict?_eq_some_iff.mp he
  have hwithin := (proper_iff.mp hd).2 key f (Entries.mem_of_get?_eq_some hf)
  exact proper_iff.mpr ⟨hwithin.kind a hkind, hwithin.dict hkind⟩

/-- Induction over dicts within dicts. -/
@[elab_as_elim]
theorem nestedInduction {motive : Dict → Prop}
    (step : ∀ d : Dict, (∀ key f e, d.get? key = some f → f.dict? = some e → motive e) → motive d)
    (d : Dict) : motive d := by
  have hfield : ∀ f : Field, ∀ d, f.kind = .dict d → motive d := by
    intro f
    induction f using Field.partInduction with
    | step f _ ih =>
      intro d hk
      refine step d fun key g e hg he => ?_
      exact ih d hk key g (Entries.mem_of_get?_eq_some hg) e (Field.dict?_eq_some_iff.mp he)
  exact hfield (Field.dict d) d rfl

theorem nested?_eq_some_iff :
    d.nested? key = some a ↔ ∃ f, d.get? key = some f ∧ f.dict? = some a :=
  Option.bind_eq_some_iff

theorem isSome_along?_cons {rest : List SchemaKey} :
    (along? (key :: rest) d).isSome = true ↔
      ∃ e, d.nested? key = some e ∧ (along? rest e).isSome = true := by
  rw [along?]
  cases d.nested? key <;> simp

/-- A dict comes between two others at a key of its own, or within a field for mappings. -/
theorem interrupts_iff :
    b.Interrupts a c ↔ ∃ key f a' c', a.nested? key = some a' ∧ c.nested? key = some c' ∧
      b.get? key = some f ∧
      (f.dict? = none ∨ ∃ b', f.dict? = some b' ∧ b'.Interrupts a' c') := by
  constructor
  · rintro ⟨chain, k, e, f, ha, hc, hb, hf, hkind⟩
    cases chain with
    | nil =>
      cases hb
      obtain ⟨a', ha', -⟩ := isSome_along?_cons.mp ha
      obtain ⟨c', hc', -⟩ := isSome_along?_cons.mp hc
      exact ⟨k, f, a', c', ha', hc', hf, .inl hkind⟩
    | cons key rest =>
      obtain ⟨a', ha', ha⟩ := isSome_along?_cons.mp ha
      obtain ⟨c', hc', hc⟩ := isSome_along?_cons.mp hc
      obtain ⟨b', hb', hb⟩ := Option.bind_eq_some_iff.mp hb
      obtain ⟨g, hg, hgd⟩ := nested?_eq_some_iff.mp hb'
      exact ⟨key, g, a', c', ha', hc', hg, .inr ⟨b', hgd, rest, k, e, f, ha, hc, hb, hf, hkind⟩⟩
  · rintro ⟨key, f, a', c', ha, hc, hf, hkind | ⟨b', hb, chain, k, e, g, ha', hc', hb', hg, hkind⟩⟩
    · exact ⟨[], key, b, f, isSome_along?_cons.mpr ⟨a', ha, rfl⟩,
        isSome_along?_cons.mpr ⟨c', hc, rfl⟩, rfl, hf, hkind⟩
    · have hnested : b.nested? key = some b' := nested?_eq_some_iff.mpr ⟨f, hf, hb⟩
      refine ⟨key :: chain, k, e, g, isSome_along?_cons.mpr ⟨a', ha, ha'⟩,
        isSome_along?_cons.mpr ⟨c', hc, hc'⟩, ?_, hg, hkind⟩
      rw [along?, hnested]
      exact hb'

/-! ## One key -/

/-- A field that is brought in changes its own key only. -/
theorem mergeAt_eq_put (g : Field) (base : Dict) :
    g.mergeAt key base = Entries.put key (g.laidOver (base.get? key)) base := by
  obtain ⟨kind, options, default⟩ := g
  cases kind with
  | dict overlay =>
    rw [Field.mergeAt, FieldKind.mergeAt]
    split
    · next inner options' default' hbase =>
      rw [hbase]
      rfl
    · next hbase =>
      have hother : ∀ f, base.get? key = some f → f.dict? = none := by
        rintro ⟨kind', options', default'⟩ hf
        cases kind' with
        | dict inner => exact absurd hf (hbase _ _ _)
        | _ => rfl
      match hf : base.get? key with
      | none => rfl
      | some f => rw [Field.laidOver_of_base (hother f hf)]
  | _ =>
    rw [Field.laidOver_of_overlay rfl]
    rfl

/-- What a merged dict holds at a key depends on what both sides hold there. -/
theorem get?_merge (hb : Entries.Distinct b) :
    (merge a b).get? key = Field.merged (a.get? key) (b.get? key) := by
  rw [merge]
  induction b generalizing a with
  | nil => rfl
  | cons e rest ih =>
    obtain ⟨k, g⟩ := e
    obtain ⟨hk, hrest⟩ := Entries.distinct_cons_iff.mp hb
    have hget : get? ((k, g) :: rest) key = if k == key then some g else get? rest key := rfl
    rw [mergeFields, ih hrest, mergeAt_eq_put, get?, Entries.get?_put, hget]
    by_cases hkey : k = key
    · subst hkey
      have hnone : get? rest k = none := Entries.get?_eq_none_iff.mpr hk
      rw [hnone, if_pos (beq_self_eq_true k), if_pos (beq_self_eq_true k)]
      rfl
    · rw [if_neg (by simpa using hkey), if_neg (by simpa using hkey)]
      rfl

/-! ## Keys -/

theorem distinct_merge (ha : Entries.Distinct a) : Entries.Distinct (merge a b) := by
  rw [merge]
  induction b generalizing a with
  | nil => exact ha
  | cons e rest ih =>
    rw [mergeFields, mergeAt_eq_put]
    exact ih ha.put

/-- The keys of the base keep their places, and the new ones of the overlay follow in theirs. -/
theorem keys_merge (hb : Entries.Distinct b) :
    Entries.keys (merge a b) =
      Entries.keys a ++ (Entries.keys b).filter fun key => !Entries.contains key a := by
  rw [merge]
  induction b generalizing a with
  | nil => exact (List.append_nil _).symm
  | cons e rest ih =>
    obtain ⟨k, g⟩ := e
    obtain ⟨hk, hrest⟩ := Entries.distinct_cons_iff.mp hb
    have hsame : (Entries.keys rest).filter
          (fun key => !Entries.contains key (g.mergeAt k a)) =
        (Entries.keys rest).filter fun key => !Entries.contains key a := by
      refine List.filter_congr fun key hkey => ?_
      have hne : k ≠ key := fun h => hk (h ▸ hkey)
      rw [mergeAt_eq_put, Entries.contains, Entries.get?_put, if_neg (by simpa using hne),
        Entries.contains]
    have hkeys : Entries.keys ((k, g) :: rest) = k :: Entries.keys rest := rfl
    rw [mergeFields, ih hrest, hsame, mergeAt_eq_put, Entries.keys_put, hkeys, List.filter_cons]
    cases Entries.contains k a with
    | true => rfl
    | false => exact List.append_assoc _ _ _

theorem contains_merge (hb : Entries.Distinct b) :
    Entries.contains key (merge a b) = (Entries.contains key a || Entries.contains key b) := by
  have hget : Entries.get? key (merge a b) =
      Field.merged (Entries.get? key a) (Entries.get? key b) := get?_merge hb
  rw [Entries.contains, hget, Entries.contains, Entries.contains]
  cases Entries.get? key b with
  | none => exact (Bool.or_false _).symm
  | some g => exact (Bool.or_true _).symm

/-! ## The laws -/

@[simp] theorem nil_merge (hb : Entries.Distinct b) : merge [] b = b := by
  refine Entries.eq_of_get? (distinct_merge List.nodup_nil) ?_ fun key => ?_
  · rw [keys_merge hb]
    exact List.filter_eq_self.mpr fun _ _ => rfl
  · refine (get?_merge hb).trans ?_
    cases hg : b.get? key with
    | none => exact hg.symm
    | some g => exact hg.symm

/-- What is merged with itself stays as it is. -/
theorem merge_self (a : Dict) : a.Proper → merge a a = a := by
  induction a using nestedInduction with
  | step a ih =>
    intro ha
    refine Entries.eq_of_get? (distinct_merge ha.distinct) ?_ fun key => ?_
    · have hnew : (Entries.keys a).filter (fun key => !Entries.contains key a) = [] := by
        refine List.filter_eq_nil_iff.mpr fun key hkey => ?_
        rw [Entries.contains_iff_mem_keys.mpr hkey]
        exact Bool.false_ne_true
      rw [keys_merge ha.distinct, hnew, List.append_nil]
    · refine (get?_merge ha.distinct).trans ?_
      match hf : a.get? key with
      | none => exact hf.symm
      | some f =>
        refine Eq.trans ?_ hf.symm
        match hd : f.dict? with
        | none => rw [Field.merged, Field.laidOver_of_base hd]
        | some d =>
          have hsame : f.withKind (.dict d) = f := by
            obtain ⟨kind, options, default⟩ := f
            cases Field.dict?_eq_some_iff.mp hd
            rfl
          rw [Field.merged, Field.laidOver_of_dict hd hd, ih key f d hf hd (ha.nested hf hd), hsame]

/-- The keys of three merged dicts, in whatever order they are merged. -/
theorem keys_merge_merge (hb : Entries.Distinct b) (hc : Entries.Distinct c) :
    Entries.keys (merge (merge a b) c) = Entries.keys (merge a (merge b c)) := by
  rw [keys_merge hc, keys_merge hb, keys_merge (distinct_merge hb), keys_merge hc,
    List.filter_append, List.filter_filter, List.append_assoc]
  congr 2
  refine List.filter_congr fun key _ => ?_
  rw [contains_merge hb, Bool.not_or]

end Dict

/-- Three fields at a key can be merged in either order, if their dicts can, and if the middle one
has a dict where both of the others do. -/
theorem Field.laidOver_laidOver
    (hbetween : ∀ a c, f.dict? = some a → h.dict? = some c → ∃ b, g.dict? = some b)
    (hnested : ∀ a b c, f.dict? = some a → g.dict? = some b → h.dict? = some c →
      Dict.merge (Dict.merge a b) c = Dict.merge a (Dict.merge b c)) :
    h.laidOver (some (g.laidOver (some f))) = Field.laidOver (some f) (h.laidOver (some g)) := by
  match hc : h.dict? with
  | none => rw [laidOver_of_overlay hc, laidOver_of_overlay hc, laidOver_of_overlay hc]
  | some c =>
    match ha : f.dict?, hb : g.dict? with
    | none, some b => rw [laidOver_of_base ha, laidOver_of_dict hb hc, laidOver_of_base ha]
    | none, none => rw [laidOver_of_base ha, laidOver_of_base hb, laidOver_of_base ha]
    | some a, none =>
      obtain ⟨b, hb'⟩ := hbetween a c ha hc
      cases hb.symm.trans hb'
    | some a, some b =>
      rw [laidOver_of_dict ha hb, laidOver_of_dict hb hc, laidOver_of_dict rfl hc,
        laidOver_of_dict ha rfl, hnested a b c ha hb hc]
      rfl

/-- Dicts can be merged in either order, unless the middle one comes between the others. -/
theorem Dict.merge_merge (a : Dict) :
    ∀ b c : Dict, a.Proper → b.Proper → c.Proper → ¬ b.Interrupts a c →
      merge (merge a b) c = merge a (merge b c) := by
  induction a using nestedInduction with
  | step a ih =>
    intro b c ha hb hc hbetween
    have hbc := distinct_merge (b := c) hb.distinct
    refine Entries.eq_of_get? (distinct_merge (distinct_merge ha.distinct))
      (keys_merge_merge hb.distinct hc.distinct) fun key => ?_
    refine (get?_merge hc.distinct).trans (Eq.trans ?_ (get?_merge hbc).symm)
    rw [get?_merge hb.distinct, get?_merge hc.distinct]
    -- The order can matter only where all three hold a field.
    match hf : a.get? key, hg : b.get? key, hh : c.get? key with
    | _, _, none => rfl
    | _, none, some h => rfl
    | none, some g, some h => rfl
    | some f, some g, some h =>
      refine congrArg some (Field.laidOver_laidOver ?_ ?_)
      · intro a' c' ha' hc'
        refine Option.ne_none_iff_exists'.mp fun hnone => hbetween (interrupts_iff.mpr ?_)
        exact ⟨key, g, a', c', nested?_eq_some_iff.mpr ⟨f, hf, ha'⟩,
          nested?_eq_some_iff.mpr ⟨h, hh, hc'⟩, hg, .inl hnone⟩
      · intro a' b' c' ha' hb' hc'
        refine ih key f a' hf ha' b' c' (ha.nested hf ha') (hb.nested hg hb') (hc.nested hh hc')
          fun hnested => hbetween (interrupts_iff.mpr ?_)
        exact ⟨key, g, a', c', nested?_eq_some_iff.mpr ⟨f, hf, ha'⟩,
          nested?_eq_some_iff.mpr ⟨h, hh, hc'⟩, hg, .inr ⟨b', hb', hnested⟩⟩

/-! ## Schemas -/

namespace Schema

/-- Merging is an overlay. It is idempotent, and the empty dict changes nothing on either side. It
is associative, key order and options included, unless the middle dict comes between the others.
At each key it merges two nested mappings under the options of the first, and otherwise holds what
the overlay has there, or else what the base has. Schemas extend one another in the same way. -/
theorem merging_overlays :
    (∀ a : Dict, a.Proper → Dict.merge a a = a ∧ Dict.merge a [] = a ∧ Dict.merge [] a = a) ∧
    (∀ a b c : Dict, a.Proper → b.Proper → c.Proper → ¬ b.Interrupts a c →
      Dict.merge (Dict.merge a b) c = Dict.merge a (Dict.merge b c)) ∧
    (∀ a b : Dict, b.Proper → ∀ key,
      (Dict.merge a b).get? key = Field.merged (a.get? key) (b.get? key)) ∧
    ∀ s t u : Schema, s.root.Proper → t.root.Proper → u.root.Proper →
      ¬ t.root.Interrupts s.root u.root → (s.extend t).extend u = s.extend (t.extend u) := by
  refine ⟨?_, ?_, ?_, ?_⟩
  · exact fun a ha => ⟨Dict.merge_self a ha, rfl, Dict.nil_merge ha.distinct⟩
  · exact Dict.merge_merge
  · exact fun a b hb key => Dict.get?_merge hb.distinct
  · intro s t u hs ht hu hbetween
    rw [extend, extend, extend, extend, Dict.merge_merge _ _ _ hs ht hu hbetween,
      Option.or_assoc, Option.or_assoc]

/-- An author who may be left out, with a name. -/
def bookSchema : Schema where
  root := [(.name "author", (Field.dict [(.name "name", .text)]).withOptional true)]
  title := some "Book"

/-- An author with a birthday. -/
def datedSchema : Schema where
  root := [(.name "year", .int), (.name "author", .dict [(.name "born", .date)])]
  title := some "Dated book"

/-- A year with a month, and an author whose name may be null. -/
def periodSchema : Schema where
  root := [(.name "author", .dict [(.name "name", Field.text.withNullable true)]),
    (.name "year", .dict [(.name "month", .int)])]
  description := some "Periodical"

/-- Between the other two schemas, the dated one has an author of its own, with nested entries. -/
theorem not_interrupts_datedSchema : ¬ datedSchema.root.Interrupts bookSchema.root
    periodSchema.root := by
  rw [Dict.interrupts_iff]
  rintro ⟨key, f, a', c', ha, hc, hb, hf⟩
  obtain ⟨g, hg, hga⟩ := Dict.nested?_eq_some_iff.mp ha
  have hmem := Entries.mem_of_get?_eq_some hg
  simp only [bookSchema, List.mem_singleton, Prod.mk.injEq] at hmem
  obtain ⟨rfl, rfl⟩ := hmem
  cases hb
  rcases hf with hf | ⟨b', hb', hinner⟩
  · cases hf
  · cases hga
    cases hb'
    obtain ⟨k, h, a', -, ha', -⟩ := Dict.interrupts_iff.mp hinner
    obtain ⟨g, hg, hga⟩ := Dict.nested?_eq_some_iff.mp ha'
    have hmem := Entries.mem_of_get?_eq_some hg
    simp only [List.mem_singleton, Prod.mk.injEq] at hmem
    obtain ⟨rfl, rfl⟩ := hmem
    cases hga

/-- An author, who may be left out, gets a birthday and keeps a name, which may be null. The year of
the middle schema gives way to a mapping. -/
theorem merging_overlays_book :
    (bookSchema.extend datedSchema).extend periodSchema =
        bookSchema.extend (datedSchema.extend periodSchema) ∧
      ((bookSchema.extend datedSchema).root.get? (.name "author") =
        some ((Field.dict [(.name "name", .text), (.name "born", .date)]).withOptional true)) ∧
      Dict.merge bookSchema.root bookSchema.root = bookSchema.root := by
  obtain ⟨hself, -, hkey, hextend⟩ := merging_overlays
  refine ⟨?_, ?_, (hself _ (by decide)).1⟩
  · exact hextend _ _ _ (by decide) (by decide) (by decide) not_interrupts_datedSchema
  · exact hkey bookSchema.root datedSchema.root (by decide) (.name "author")

/-- With a number in the middle, the options of the outer mappings depend on the order. -/
example :
    let base : Dict := [(.name "at", (Field.dict []).withOptional true)]
    ((Dict.merge (Dict.merge base [(.name "at", .int)]) [(.name "at", .dict [])]).map
        fun e => e.2.optional) = [false] ∧
      ((Dict.merge base (Dict.merge [(.name "at", .int)] [(.name "at", .dict [])])).map
        fun e => e.2.optional) = [true] := ⟨rfl, rfl⟩

end Schema

end TypedDocument
