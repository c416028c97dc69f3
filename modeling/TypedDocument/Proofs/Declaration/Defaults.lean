import TypedDocument.Proofs.Calendar.RoundTrip
import TypedDocument.Proofs.Declaration.Declared

/-!
# Writing and reading defaults

A default is declared as the field encodes it, and read as the field decodes that. What the field
made of a raw document goes through this unchanged, as long as every list within the field has one
candidate at most, and that no dict: a written element does not say which candidate it was read
by, and a dict may refuse to write a mapping that it had refused to read.
-/

namespace TypedDocument

/-- Lists whose elements say how they were read. -/
def FieldKind.HasPlainCandidates : FieldKind → Prop
  | list candidates _ _ => candidates.length ≤ 1 ∧ ∀ c ∈ candidates, ∀ d, c.kind ≠ .dict d
  | _ => True

namespace Value

/-- A value that is encoded under a field, written as JSON and decoded, and then is what it was. -/
def Restores (declare : DeclarationReader) (v : Value) (f : Field) : Prop :=
  ∃ w j, v.encode f = .ok w ∧ w.toJson = .ok j ∧ (ofJson j).decodeWith declare f = .ok v

/-- Fields that come back from their declarations, also through a document. -/
def FieldsRestore (declare : DeclarationReader) (v : Value) : Prop :=
  ∀ g, v.Within (.field g) → g.describe.Stable ∧ declare g.describe = .ok g

variable {declare : DeclarationReader} {f c : Field} {u v : Value}

theorem FieldsRestore.item {items : List Value} (h : FieldsRestore declare (list items)) :
    ∀ v ∈ items, FieldsRestore declare v :=
  fun _ hv g hg => h g (.item hv hg)

theorem FieldsRestore.entry {es : Mapping} (h : FieldsRestore declare (map es)) :
    ∀ key v, (key, v) ∈ es → FieldsRestore declare v :=
  fun _ _ hv g hg => h g (.entry hv hg)

/-! ## Values that are not taken apart -/

/-- A raw value that the field lets pass in both directions. -/
theorem IsRaw.restores (hraw : v.IsRaw) (hencode : v.encode f = .ok v)
    (hdecode : v.decodeWith declare f = .ok v) : Restores declare v f := by
  obtain ⟨j, hj, hv⟩ := hraw
  exact ⟨v, j, hencode, hj, by rw [hv, hdecode]⟩

theorem IsRaw.encode_leaf (hraw : v.IsRaw) (hv : v.isContainer = false) : v.encode f = .ok v := by
  have hjson := (isRaw_iff.mp hraw).1 v (.self v)
  cases v with
  | list => cases hv
  | map => cases hv
  | dateTime | date | time | field => cases hjson
  | _ => cases hk : f.kind <;> simp [encode, FieldKind.encodeScalar, hk]

/-- Days and times are read from the texts that are written for them. -/
theorem restores_of_text {s : String} (hencode : v.encode f = .ok (text s))
    (hdecode : (text s).decodeWith declare f = .ok v) : Restores declare v f :=
  ⟨text s, .string s, hencode, rfl, hdecode⟩

theorem restores_long {i : Int64} {bounds : Bounds} (hk : f.kind = .long bounds) :
    Restores declare (long i) f := by
  refine ⟨long i, .integer i.toInt, by simp [encode, FieldKind.encodeScalar, hk], rfl, ?_⟩
  rw [ofJson, ofInteger_toInt64, narrowed]
  split
  · next h =>
    rw [decodeWith_leaf rfl, hk, FieldKind.decodeScalar, toInt64_toInt32_of_fitsInt32 h]
  · rw [decodeWith_leaf rfl, hk]
    rfl

theorem restores_float {x : Float} {bounds : Bounds} (hk : f.kind = .float bounds)
    (hx : x.isFinite = true) : Restores declare (float x) f := by
  refine ⟨float x, .float x, by simp [encode, FieldKind.encodeScalar, hk], ?_, ?_⟩
  · rw [toJson, if_pos hx]
  · rw [ofJson, decodeWith_leaf rfl, hk]
    rfl

theorem restores_dateTime {s : String} {t : DateTime} (hk : f.kind = .dateTime)
    (ht : DateTime.read s = .ok t) : Restores declare (dateTime t) f := by
  refine restores_of_text (s := t.text) ?_ ?_
  · simp [encode, FieldKind.encodeScalar, hk]
  · rw [decodeWith_leaf rfl, hk, FieldKind.decodeScalar, DateTime.read_text,
      DateTime.wholeSeconds_of_read ht, FieldKind.readText]

theorem restores_date {d : Date} (hk : f.kind = .date) : Restores declare (date d) f := by
  refine restores_of_text (s := d.text) ?_ ?_
  · simp [encode, FieldKind.encodeScalar, hk]
  · rw [decodeWith_leaf rfl, hk, FieldKind.decodeScalar, Date.read_text, FieldKind.readText]

theorem restores_time {s : String} {t : Time} (hk : f.kind = .time) (ht : Time.read s = .ok t) :
    Restores declare (time t) f := by
  refine restores_of_text (s := t.text) ?_ ?_
  · simp [encode, FieldKind.encodeScalar, hk]
  · rw [decodeWith_leaf rfl, hk, FieldKind.decodeScalar, Time.read_text,
      Time.wholeSeconds_of_read ht, FieldKind.readText]

/-- What a value without parts is decoded to can be written and read back. -/
theorem restores_leaf (hraw : u.IsRaw) (hu : u.isContainer = false)
    (h : u.decodeWith declare f = .ok v) : Restores declare v f := by
  -- What passes unchanged is raw itself.
  have hsame : v = u → Restores declare v f := by
    rintro rfl
    exact hraw.restores (hraw.encode_leaf hu) h
  rw [decodeWith_leaf hu] at h
  cases hk : f.kind with
  | int bounds =>
    rw [hk] at h
    cases u with
    | long i =>
      have hnarrow := (isRaw_iff.mp hraw).2
      rw [narrowed] at hnarrow
      simp only [FieldKind.decodeScalar] at h
      split at h
      · next hfits => simp [hfits] at hnarrow
      · cases h
        exact hsame rfl
    | _ => cases h; exact hsame rfl
  | long bounds =>
    rw [hk] at h
    cases u with
    | int i =>
      cases h
      exact restores_long hk
    | _ => cases h; exact hsame rfl
  | float bounds =>
    rw [hk] at h
    cases u with
    | int i | long i =>
      cases h
      exact restores_float hk (isFinite_floatOfInt64 _)
    | _ => cases h; exact hsame rfl
  | dateTime =>
    rw [hk] at h
    cases u with
    | text s =>
      obtain ⟨t, ht, rfl⟩ := readText_eq_ok_iff.mp h
      exact restores_dateTime hk ht
    | _ => cases h; exact hsame rfl
  | date =>
    rw [hk] at h
    cases u with
    | text s =>
      obtain ⟨d, -, rfl⟩ := readText_eq_ok_iff.mp h
      exact restores_date hk
    | _ => cases h; exact hsame rfl
  | time =>
    rw [hk] at h
    cases u with
    | text s =>
      obtain ⟨t, ht, rfl⟩ := readText_eq_ok_iff.mp h
      exact restores_time hk ht
    | _ => cases h; exact hsame rfl
  | _ =>
    rw [hk] at h
    cases u <;> cases h <;> exact hsame rfl

/-! ## Lists -/

/-- A candidate for anything but mappings can read every value it accepts. -/
theorem accepts_of_decodeWith (hk : ∀ d, c.kind ≠ .dict d) (h : c.kind.accepts u = true) :
    ∃ v, u.decodeWith declare c = .ok v ∧ c.kind.accepts v = true := by
  cases hkind : c.kind with
  | any => exact ⟨u, decodeWith_of_any hkind, rfl⟩
  | dict d => exact absurd hkind (hk d)
  | list candidates least most =>
    rw [hkind] at h
    cases u with
    | list items => exact ⟨_, decodeWith_list hkind, rfl⟩
    | _ => cases h
  | _ =>
    rw [hkind] at h
    cases u <;> cases h <;> exact ⟨_, by rw [decodeWith_leaf rfl, hkind]; rfl, rfl⟩

/-- An element that the candidate refused to read is not accepted by it either, so it is written
as it stands. -/
theorem restores_element (hraw : u.IsRaw) (hk : ∀ d, c.kind ≠ .dict d)
    (ih : u.decodeWith declare c = .ok (u.decodeElement declare [c]) →
      Restores declare (u.decodeElement declare [c]) c) :
    ∃ w j, (u.decodeElement declare [c]).encodeElement [c] = .ok w ∧ w.toJson = .ok j ∧
      (ofJson j).decodeElement declare [c] = u.decodeElement declare [c] := by
  by_cases hread : ∃ v, u.decodeWith declare c = .ok v ∧ c.kind.accepts v = true
  · obtain ⟨v, hv, haccepts⟩ := hread
    have helement : u.decodeElement declare [c] = v := by simp [decodeElement, hv, haccepts]
    rw [helement] at ih ⊢
    obtain ⟨w, j, hw, hj, hback⟩ := ih hv
    refine ⟨w, j, by simpa [encodeElement, firstCandidate?, haccepts] using hw, hj, ?_⟩
    simp [decodeElement, hback, haccepts]
  · have helement : u.decodeElement declare [c] = u := by
      rw [decodeElement_cons]
      split
      · next v hv => rw [if_neg fun haccepts => hread ⟨v, hv, haccepts⟩]; rfl
      · rfl
    have hrefused : ¬ c.kind.accepts u = true := fun h => hread (accepts_of_decodeWith hk h)
    obtain ⟨j, hj, hu⟩ := hraw
    rw [helement]
    exact ⟨u, j, by simp [encodeElement, firstCandidate?, hrefused], hj, by rw [hu, helement]⟩

theorem restores_items {items : List Value} (hraw : ∀ u ∈ items, u.IsRaw)
    (hk : ∀ d, c.kind ≠ .dict d)
    (ih : ∀ u ∈ items, u.decodeWith declare c = .ok (u.decodeElement declare [c]) →
      Restores declare (u.decodeElement declare [c]) c) :
    ∃ ws js, encodeItems (decodeItems declare [c] items) [c] = .ok ws ∧
      toJsonItems ws = .ok js ∧
      decodeItems declare [c] (ofJsonItems js) = decodeItems declare [c] items := by
  induction items with
  | nil => exact ⟨[], [], rfl, rfl, rfl⟩
  | cons u rest ihrest =>
    obtain ⟨w, j, hw, hj, hback⟩ := restores_element (hraw u List.mem_cons_self) hk
      (ih u List.mem_cons_self)
    obtain ⟨ws, js, hws, hjs, hbacks⟩ := ihrest (fun v hv => hraw v (List.mem_cons_of_mem u hv))
      fun v hv => ih v (List.mem_cons_of_mem u hv)
    refine ⟨w :: ws, j :: js, ?_, ?_, ?_⟩
    · rw [decodeItems_cons]
      exact encodeItems_cons_eq_ok_iff.mpr ⟨w, hw, ws, hws, rfl⟩
    · exact toJsonItems_cons_eq_ok_iff.mpr ⟨j, hj, js, hjs, rfl⟩
    · rw [ofJsonItems, decodeItems_cons, decodeItems_cons, hback, hbacks]

theorem restores_list {items : List Value} {candidates : List Field} {least : Nat}
    {most : Option Nat} (hk : f.kind = .list candidates least most)
    (h : ∃ ws js, encodeItems (decodeItems declare candidates items) candidates = .ok ws ∧
      toJsonItems ws = .ok js ∧
      decodeItems declare candidates (ofJsonItems js) = decodeItems declare candidates items) :
    Restores declare (list (decodeItems declare candidates items)) f := by
  obtain ⟨ws, js, hws, hjs, hback⟩ := h
  refine ⟨list ws, .array js, ?_, toJson_list_eq_ok_iff.mpr ⟨js, hjs, rfl⟩, ?_⟩
  · rw [encode_list hk, hws, Except.map]
  · rw [ofJson, decodeWith_list hk, hback]

/-! ## Mappings -/

theorem restores_entries {d : Dict} {es ws : Mapping}
    (hdecode : decodeEntries declare d es = .ok ws)
    (ih : ∀ key u f v, (key, u) ∈ es → d.field? key = some f → u.decodeWith declare f = .ok v →
      (key, v) ∈ ws → Restores declare v f) :
    ∃ xs ms, encodeEntries ws d = .ok xs ∧ toJsonMembers xs = .ok ms ∧
      decodeEntries declare d (ofJsonMembers ms) = .ok ws := by
  induction es generalizing ws with
  | nil =>
    cases hdecode
    exact ⟨[], [], rfl, rfl, rfl⟩
  | cons e rest ihrest =>
    obtain ⟨key, u⟩ := e
    obtain ⟨f, hf, v, hv, vs, hvs, rfl⟩ := decodeEntries_cons_eq_ok_iff.mp hdecode
    obtain ⟨x, j, hx, hj, hback⟩ := ih key u f v List.mem_cons_self hf hv List.mem_cons_self
    obtain ⟨xs, ms, hxs, hms, hbacks⟩ := ihrest hvs fun k u f v hu hf hv hmem =>
      ih k u f v (List.mem_cons_of_mem _ hu) hf hv (List.mem_cons_of_mem _ hmem)
    refine ⟨(key, x) :: xs, (key, j) :: ms, ?_, ?_, ?_⟩
    · exact encodeEntries_cons_eq_ok_iff.mpr ⟨f, hf, x, hx, xs, hxs, rfl⟩
    · exact toJsonMembers_cons_eq_ok_iff.mpr ⟨j, hj, ms, hms, rfl⟩
    · exact decodeEntries_cons_eq_ok_iff.mpr ⟨f, hf, v, hback, vs, hbacks, rfl⟩

theorem restores_map {d : Dict} {ws : Mapping} (hk : f.kind = .dict d)
    (h : ∃ xs ms, encodeEntries ws d = .ok xs ∧ toJsonMembers xs = .ok ms ∧
      decodeEntries declare d (ofJsonMembers ms) = .ok ws) : Restores declare (map ws) f := by
  obtain ⟨xs, ms, hxs, hms, hback⟩ := h
  refine ⟨map xs, .object ms, ?_, toJson_map_eq_ok_iff.mpr ⟨ms, hms, rfl⟩, ?_⟩
  · rw [encode_map hk, hxs, Except.map]
  · rw [ofJson, decodeWith_map hk, hback, Except.map]

theorem exists_describe_eq_object (g : Field) : ∃ ms, g.describe = .object ms := by
  obtain ⟨kind, options, default⟩ := g
  exact ⟨_, rfl⟩

/-- A field held as data is restored if its declaration is. -/
theorem restores_field {g : Field} (hk : f.kind = .field) (hstable : g.describe.Stable)
    (hread : declare g.describe = .ok g) : Restores declare (field g) f := by
  refine ⟨ofJson g.describe, g.describe, by simp [encode, hk], hstable, ?_⟩
  obtain ⟨ms, hms⟩ := exists_describe_eq_object g
  rw [hms] at hstable hread ⊢
  rw [Json.Stable, ofJson] at hstable
  simp only [ofJson, decodeWith, hk, hstable, asConvertError, hread, ok_bind, pure_eq_ok]

/-! ## All values -/

/-- What a field with plain lists makes of a raw document is restored, if the fields in it are. -/
theorem restores_of_decodeWith {u : Value} :
    ∀ {f v}, u.IsRaw → f.Everywhere FieldKind.HasPlainCandidates → FieldsRestore declare v →
      u.decodeWith declare f = .ok v → Restores declare v f := by
  induction u using containerInduction with
  | leaf u hu => exact fun hraw _ _ h => restores_leaf hraw hu h
  | list items ih =>
    intro f v hraw hf hfields h
    rcases f.kind.eq_list_or_ne with ⟨candidates, least, most, hk⟩ | hk
    · rw [decodeWith_list hk] at h
      cases h
      have hkind := hf.kind
      rw [hk] at hkind
      obtain ⟨hlength, hplain⟩ := hkind
      match candidates with
      | [] =>
        rw [decodeItems_nil] at hfields ⊢
        refine hraw.restores ?_ ?_
        · rw [encode_list hk, encodeItems_nil, Except.map]
        · rw [decodeWith_list hk, decodeItems_nil]
      | [c] =>
        refine restores_list hk (restores_items hraw.item (hplain c List.mem_cons_self) ?_)
        intro u hu hdecode
        rw [decodeItems_eq_map] at hfields
        have hfield := hfields.item _ (List.mem_map_of_mem hu)
        exact ih u hu (hraw.item u hu) (hf.candidate hk List.mem_cons_self) hfield hdecode
      | _ :: _ :: _ => simp at hlength
    · have hsame : (list items).decodeWith declare f = .ok (list items) :=
        decodeWith_list_of_kind_ne hk
      cases hsame.symm.trans h
      exact hraw.restores (encode_list_of_kind_ne hk) hsame
  | map es ih =>
    intro f v hraw hf hfields h
    rcases f.kind.eq_dict_or_field_or_ne with ⟨d, hk⟩ | hk | ⟨hdict, hfield⟩
    · rw [decodeWith_map hk] at h
      obtain ⟨ws, hws, rfl⟩ := map_eq_ok_iff.mp h
      refine restores_map hk (restores_entries hws ?_)
      intro key u g v hu hg huv hmem
      exact ih key u hu (hraw.entry key u hu) ((hf.dict hk).field hg) (hfields.entry key v hmem) huv
    · obtain ⟨_, -, g, -, rfl⟩ := (decodeWith_map_of_field_eq_ok_iff hk).mp h
      obtain ⟨hstable, hread⟩ := hfields g (.self _)
      exact restores_field hk hstable hread
    · have hsame : (map es).decodeWith declare f = .ok (map es) :=
        decodeWith_map_of_kind_ne hdict hfield
      cases hsame.symm.trans h
      exact hraw.restores (encode_map_of_kind_ne hdict) hsame

end Value

end TypedDocument
