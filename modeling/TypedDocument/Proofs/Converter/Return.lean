import TypedDocument.Proofs.Conversion.Decodable
import TypedDocument.Proofs.Converter.Renames
import TypedDocument.Proofs.Reordering.Encoding
import TypedDocument.Proofs.Schema.Document

/-!
# What a converter can read of what it writes

A converter undoes its renames and then reads what is left by the schema. It can read what it has
written if undoing the renames leaves nothing but what the schema has written, and if the schema can
read that. The first is so if every rename finds the mappings on the way to its target, since a
mapping that a rename creates stays behind when the rename is undone. The second is so for valid
documents as far as the descriptions of the fields that they hold can be walked and read.
-/

namespace TypedDocument

/-! ## Documents that were walked to the end -/

theorem Mapping.walkable_of_values {es : Mapping}
    (ih : ∀ key v, (key, v) ∈ es → v.Proper → ∀ path, (∀ e, .error e ∉ (v.preorder path).1) →
      (v.preorder path).2 = true ∧ v.Walkable)
    (hes : (Value.map es).Proper) (parent : Option String)
    (h : ∀ e, .error e ∉ (Mapping.preorder parent es).1) :
    (Mapping.preorder parent es).2 = true ∧ Mapping.Walkable es := by
  induction es with
  | nil => exact ⟨rfl, Mapping.walkable_nil⟩
  | cons entry rest ihrest =>
    obtain ⟨key, v⟩ := entry
    obtain ⟨hdistinct, hvalues⟩ := Value.proper_map_iff.mp hes
    obtain ⟨hkey, hdistinct'⟩ := List.nodup_cons.mp hdistinct
    have hrest : (Value.map rest).Proper :=
      Value.proper_map_iff.mpr ⟨hdistinct', fun k w hw => hvalues k w (List.mem_cons_of_mem _ hw)⟩
    cases hdotted : Path.isDotted key with
    | true =>
      rw [Mapping.preorder, if_pos hdotted] at h
      exact absurd List.mem_cons_self (h _)
    | false =>
      rw [Mapping.preorder, if_neg (by simp [hdotted])] at h ⊢
      obtain ⟨hcomplete, hv⟩ := ih key v List.mem_cons_self (hvalues key v List.mem_cons_self)
        (WalkFrame.path parent key) (by
          intro e he
          refine h e ?_
          dsimp only
          split <;> simp [he])
      simp only [hcomplete, if_true] at h ⊢
      obtain ⟨hend, hwalkable⟩ := ihrest (fun k w hw => ih k w (List.mem_cons_of_mem _ hw)) hrest
        fun e he => h e (by simp [he])
      exact ⟨hend, Mapping.walkable_cons_iff.mpr ⟨hdotted, hkey, hv, hwalkable⟩⟩

/-- A walk without errors goes to its end, and meets no key with a dot. -/
theorem Value.walkable_of_preorder {v : Value} : v.Proper → ∀ path,
    (∀ e, .error e ∉ (v.preorder path).1) → (v.preorder path).2 = true ∧ v.Walkable := by
  induction v using mappingInduction with
  | plain v hv =>
    intro _ path _
    cases v with
    | map => cases hv
    | _ => exact ⟨rfl, walkable_of_map?_eq_none rfl⟩
  | map es ih =>
    intro hes path h
    obtain ⟨hend, hwalkable⟩ := Mapping.walkable_of_values ih hes (some path) h
    exact ⟨hend, walkable_map_iff.mpr hwalkable⟩

namespace Converter

theorem not_mem_of_convertItems {rule : ConversionRule} {doc : Value} {excluded : List String}
    {convert : String → Value → Except ConvertError Value} {items : List WalkItem} :
    ∀ {settled : List String} {out ws : Mapping},
      convertItems rule convert doc excluded items settled out = .ok ws →
        ∀ e, .error e ∉ items := by
  induction items with
  | nil => exact fun _ e he => by cases he
  | cons item rest ih =>
    intro settled out ws h e he
    cases item with
    | error => cases h
    | ok entry =>
      have hmem : .error e ∈ rest := by simpa using he
      obtain ⟨path, v⟩ := entry
      rw [convertItems] at h
      split at h
      · exact ih h e hmem
      · split at h
        · exact ih h e hmem
        · split at h
          · exact ih h e hmem
          · split at h
            · cases h
            · exact ih h e hmem

/-- A document that is converted has no key with a dot. -/
theorem walkable_of_convertDocument {rule : ConversionRule} {excluded : List String}
    {convert : String → Value → Except ConvertError Value} {es : Mapping} {w : Value}
    (hes : (Value.map es).Proper)
    (h : convertDocument rule convert excluded (.map es) = .ok w) : (Value.map es).Walkable := by
  obtain ⟨ws, hws, -⟩ := map_eq_ok_iff.mp h
  have hitems := not_mem_of_convertItems hws
  rw [Path.walk_map] at hitems
  obtain ⟨-, hwalkable⟩ := Mapping.walkable_of_values
    (fun _ _ _ => Value.walkable_of_preorder) hes none hitems
  exact Value.walkable_map_iff.mpr hwalkable

end Converter

/-! ## Documents that were encoded -/

namespace Value

/-- A value stands under a field in a document that stands under a field itself, with nothing but
mappings on the way. -/
inductive Stands (v : Value) (f : Field) : Value → Field → Prop where
  | self : Stands v f v f
  | entry {es : Mapping} {g h : Field} {d : Dict} {key : String} {w : Value}
    (kind : g.kind = .dict d) (mem : (key, w) ∈ es) (governs : d.field? key = some h)
    (stands : Stands v f w h) : Stands v f (.map es) g

end Value

/-- A field whose description can go out and come back: it has no keys with dots, and it can be
read. -/
structure Field.Portable (g : Field) : Prop where
  walkable : (Value.ofJson g.describe).Walkable
  readable : (Value.ofJson g.describe).Decodes Declaration.readField .field

/-- All fields that stand under meta fields in a document are portable. -/
def Value.HoldsPortable (v : Value) (f : Field) : Prop :=
  ∀ g h, Value.Stands (.field g) h v f → h.kind = .field → g.Portable

namespace Value

variable {f : Field} {v w : Value}

theorem HoldsPortable.entry {es : Mapping} {d : Dict} {g : Field} {key : String}
    (h : (Value.map es).HoldsPortable f) (hk : f.kind = .dict d) (hv : (key, v) ∈ es)
    (hg : d.field? key = some g) : v.HoldsPortable g :=
  fun c e hc => h c e (.entry hk hv hg hc)

/-- Encoding brings in no keys with dots, as far as fields are portable. -/
theorem walkable_of_encode {v : Value} :
    ∀ {f w}, v.Walkable → v.HoldsPortable f → v.encode f = .ok w → w.Walkable := by
  induction v using containerInduction with
  | leaf v hv =>
    intro f w _ h hw
    have hscalar : ∀ u : Value, u.isContainer = false → u.Walkable := by
      intro u hu
      cases u with
      | map => cases hu
      | _ => exact walkable_of_map?_eq_none rfl
    cases v with
    | list => cases hv
    | map => cases hv
    | field g =>
      rw [encode] at hw
      split at hw
      · next hk =>
        cases hw
        exact (h g f .self hk).walkable
      · cases hw
        exact hscalar _ rfl
    | _ =>
      cases hw
      exact hscalar _ ((isContainer_encodeScalar f.kind).trans hv)
  | list items =>
    intro f w _ _ hw
    rcases f.kind.eq_list_or_ne with ⟨candidates, least, most, hk⟩ | hk
    · rw [encode_list hk] at hw
      obtain ⟨ws, -, rfl⟩ := map_eq_ok_iff.mp hw
      exact walkable_of_map?_eq_none rfl
    · cases (encode_list_of_kind_ne hk).symm.trans hw
      exact walkable_of_map?_eq_none rfl
  | map es ih =>
    intro f w hv h hw
    rcases f.kind.eq_dict_or_ne with ⟨d, hk⟩ | hk
    · rw [encode_map hk] at hw
      obtain ⟨ws, hws, rfl⟩ := map_eq_ok_iff.mp hw
      obtain ⟨hdistinct, hundotted, hvalues⟩ := walkable_map_iff.mp hv
      have hkeys := keys_encodeEntries hws
      refine walkable_map_iff.mpr ⟨?_, ?_, fun key w hmem => ?_⟩
      · rw [Entries.Distinct, hkeys]
        exact hdistinct
      · rw [hkeys]
        exact hundotted
      · obtain ⟨u, g, hu, hg, huw⟩ := mem_encodeEntries hws key w hmem
        exact ih key u hu (hvalues key u hu) (h.entry hk hu hg) huw
    · cases (encode_map_of_kind_ne hk).symm.trans hw
      exact hv

/-- What is valid can be decoded once it is encoded, as far as fields are portable. -/
theorem returns_conforms :
    Returns Declaration.readField fun v f => Conforms true v f ∧ v.HoldsPortable f where
  text s f h := by
    have haccepts := accepts_of_conforms (by simp) h.1
    cases hk : f.kind with
    | dateTime | date | time =>
      rw [hk] at haccepts
      cases haccepts
    | _ => rfl
  field g f h hk := by
    obtain ⟨w, hw⟩ := (h.2 g f .self hk).readable
    exact ⟨w, (decodeWith_of_kind_eq hk).trans hw⟩
  map es f h hk := by
    have haccepts := accepts_of_conforms (by simp) h.1
    rw [hk] at haccepts
    cases haccepts
  entry es f d h hk key v hv g hg := by
    obtain ⟨c, hc, hconforms⟩ := ((conforms_map_iff hk).mp h.1).1 key v hv
    cases hg.symm.trans hc
    exact ⟨hconforms, h.2.entry hk hv hg⟩

end Value

/-! ## Writing and reading -/

namespace Converter

variable {s : Schema} {renames : List (String × String)} {es : Mapping} {wire : Value}

/-- The converter of a schema can read what it writes for a document that is valid, though perhaps
incomplete, if its renames go along keys and can be undone, no key at the top is empty, and the
fields that stand under meta fields are portable. It reads what the schema decodes from its own
encoding, up to the order of entries. -/
theorem fromWire_of_toWire (hes : (Value.map es).WellFormed) (htop : "" ∉ Entries.keys es)
    (hvalid : s.validate (.map es) true = .ok ())
    (hfields : (Value.map es).HoldsPortable (Field.dict s.root)) (hkeys : KeysOnly renames)
    (hundoable : ∀ written, s.encode (.map es) = .ok written → UndoableAll written renames)
    (h : ({ rule := .ofSchema s, renames } : Converter).toWire (.map es) = .ok wire) :
    ∃ written read back, s.encode (.map es) = .ok written ∧ s.decode written = .ok read ∧
      ({ rule := .ofSchema s, renames } : Converter).fromWire wire = .ok back ∧
      back.Reordered read := by
  obtain ⟨_, heq, hconforms⟩ := Schema.validate_eq_ok_iff.mp hvalid
  cases heq
  obtain ⟨converted, hconverted, -⟩ := bind_eq_ok_iff.mp h
  have hwalk : (Value.map es).Walkable := walkable_of_convertDocument hes.proper hconverted
  have hwritten : s.encode (.map es) = .ok converted :=
    (convertDocument_ofSchema_eq_ok_iff .encode hwalk htop).mp hconverted
  obtain ⟨ws, hws, rfl⟩ := map_eq_ok_iff.mp hwritten
  have hencode := Schema.encode_map.symm.trans hwritten
  have htop' : "" ∉ Entries.keys ws := by
    rw [Value.keys_encodeEntries hws]
    exact htop
  obtain ⟨read, hread⟩ :=
    Value.decodes_of_encode Value.returns_conforms ⟨hconforms, hfields⟩ hencode
  rw [← Schema.decode_map] at hread
  obtain ⟨wire', hwire', hagree⟩ := fromWire_toWire_ofSchema hkeys hwalk htop hwritten
    (Value.proper_of_encode hes hencode) (hundoable _ hwritten)
    (Value.walkable_of_encode hwalk hfields hencode) htop'
  cases h.symm.trans hwire'
  obtain ⟨back, hback⟩ := hagree.ok_iff.mpr ⟨read, hread⟩
  exact ⟨.map ws, read, back, hwritten, hread, hback, hagree.rel hback hread⟩

/-- A day, the form of an entry, and a place for the day. -/
def daySchema : Schema :=
  .ofDict [(.name "day", .date), (.name "form", .field), (.name "info", .dict [])]

/-- Moves the day into the place for it, by way of another key. -/
def dayConverter : Converter where
  rule := .ofSchema daySchema
  renames := [("day", "date"), ("date", "info.day")]

def midsummer : Date := ⟨2023, 6, 24, by decide⟩

/-- A document with a day and a field, and what is written for it. -/
def dayEntries : Mapping := [("day", .date midsummer), ("form", .field .int), ("info", .map [])]

def writtenDay : Mapping :=
  [("day", .text midsummer.text), ("form", .map [("type", .text "int")]), ("info", .map [])]

theorem portable_int : Field.int.Portable where
  walkable := by
    have hdescribe : Value.ofJson Field.int.describe = .map [("type", .text "int")] := rfl
    rw [hdescribe]
    decide
  readable := by
    refine (Value.decodes_map_of_field rfl).mpr ⟨_, rfl, .int, ?_⟩
    rw [Declaration.readField, Declaration.readFieldAt_eq]
    rfl

theorem wellFormed_dayEntries : (Value.map dayEntries).WellFormed where
  proper := by decide
  described := by
    rintro g (_ | _ | ⟨hmem, hwithin⟩)
    simp only [dayEntries, List.mem_cons, Prod.mk.injEq, List.not_mem_nil, or_false] at hmem
    rcases hmem with ⟨-, rfl⟩ | ⟨-, rfl⟩ | ⟨-, rfl⟩
    · cases hwithin
    · cases hwithin
      have hdescribe : Value.ofJson Field.int.describe = .map [("type", .text "int")] := rfl
      rw [hdescribe]
      decide
    · cases hwithin with
      | entry mem => cases mem

theorem holdsPortable_dayEntries :
    (Value.map dayEntries).HoldsPortable (Field.dict daySchema.root) := by
  intro g h hstands hk
  cases hstands with
  | @entry _ _ c d key w kind mem governs stands =>
    cases kind
    simp only [dayEntries, List.mem_cons, Prod.mk.injEq, List.not_mem_nil, or_false] at mem
    rcases mem with ⟨rfl, rfl⟩ | ⟨rfl, rfl⟩ | ⟨rfl, rfl⟩
    · cases stands
    · cases stands
      exact portable_int
    · cases stands with
      | entry _ mem => cases mem

theorem undoableAll_day : UndoableAll (.map writtenDay) dayConverter.renames := by
  have hday : Undoable (.map writtenDay) "day" "date" :=
    undoable_of_delete rfl rfl (by decide)
  have hinfo : Undoable (.map [("form", .map [("type", .text "int")]), ("info", .map []),
      ("date", .text midsummer.text)]) "date" "info.day" :=
    undoable_of_delete rfl rfl (by decide)
  exact .cons hday (fun _ => rfl) (.cons hinfo (fun _ => rfl) .nil)

/-- A day is written as a text, moves into another mapping by two renames, and is read again. -/
theorem fromWire_of_toWire_day :
    ∃ wire, dayConverter.toWire (.map dayEntries) = .ok wire ∧
      ∃ back, dayConverter.fromWire wire = .ok back := by
  have hwritten : daySchema.encode (.map dayEntries) = .ok (.map writtenDay) := rfl
  have hwalk : (Value.map dayEntries).Walkable := by decide
  have hconverted := (convertDocument_ofSchema_eq_ok_iff (s := daySchema) .encode hwalk
    (by decide)).mpr hwritten
  have hwire : dayConverter.toWire (.map dayEntries) =
      .ok (.map [("form", .map [("type", .text "int")]),
        ("info", .map [("day", .text midsummer.text)])]) := by
    rw [toWire_of_convertDocument (c := dayConverter) hconverted]
    rfl
  obtain ⟨_, _, back, -, -, hback, -⟩ := fromWire_of_toWire wellFormed_dayEntries (by decide) rfl
    holdsPortable_dayEntries (by decide) (by
      intro written h
      cases hwritten.symm.trans h
      exact undoableAll_day) hwire
  exact ⟨_, hwire, back, hback⟩

/-- Moves a number into a mapping that the schema does not know. -/
def nestingConverter : Converter where
  rule := .ofSchema (.ofDict [(.name "a", .int)])
  renames := [("a", "x.y")]

/-- A mapping that was created for the target of a rename stays behind when the rename is undone,
and the schema does not know it. The target did not exist, and neither path begins the other. -/
theorem unread_created_mapping :
    (Schema.ofDict [(.name "a", .int)]).validate (.map [("a", .int 1)]) false = .ok () ∧
    Path.contains (.map [("a", .int 1)]) "x.y" = false ∧
    ¬ Path.segments "a" <+: Path.segments "x.y" ∧ ¬ Path.segments "x.y" <+: Path.segments "a" ∧
    nestingConverter.toWire (.map [("a", .int 1)]) = .ok (.map [("x", .map [("y", .int 1)])]) ∧
    nestingConverter.fromWire (.map [("x", .map [("y", .int 1)])]) =
      .error (.unknownKey ⟨"x"⟩) := by
  have ha : Path.segments "a" = [.key "a"] := by decide
  have hxy : Path.segments "x.y" = [.key "x", .key "y"] := by decide
  have hwalk : (Value.map [("a", .int 1)]).Walkable := by decide
  have hconverted := (convertDocument_ofSchema_eq_ok_iff
    (s := .ofDict [(.name "a", .int)]) .encode hwalk (by decide)).mpr rfl
  refine ⟨rfl, rfl, ?_, ?_, ?_, ?_⟩
  · rw [ha, hxy]
    decide
  · rw [ha, hxy]
    decide
  · rw [toWire_of_convertDocument (c := nestingConverter) hconverted]
    rfl
  · have hundone : applyRenames (.map [("x", .map [("y", .int 1)])])
        (opposites nestingConverter.renames) = .ok (.map [("x", .map []), ("a", .int 1)]) := rfl
    rw [fromWire_of_applyRenames hundone, convertDocument, Path.walk_map]
    rfl

end Converter

end TypedDocument
