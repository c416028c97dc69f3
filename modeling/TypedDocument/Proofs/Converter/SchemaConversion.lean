import TypedDocument.Proofs.Conversion.Steps
import TypedDocument.Proofs.Converter.Pruning

/-!
# A converter converts as its schema does

The schema goes down a document together with its fields, and the converter looks every field up
from the root by the path of the entry. The two meet in what a chain of keys leads to: lookups
beyond it are lookups in one nested dict, or they all end at a field for any value. Listed paths
come off on the way, so with exclusions the converter does what the schema does with the pruned
document, as long as nothing is listed below a mapping that is converted as one value.
-/

namespace TypedDocument

/-- A conversion of values by fields that goes through mappings entry by entry, with `entries`
for their entries. -/
structure EntrywiseConversion (value : Value → Field → Except ConvertError Value)
    (entries : Mapping → Dict → Except ConvertError Mapping) : Prop where
  any : ∀ {v : Value} {f : Field}, f.kind = .any → value v f = .ok v
  dict : ∀ {es : Mapping} {f : Field} {d : Dict},
    f.kind = .dict d → value (.map es) f = (entries es d).map .map
  nil : ∀ {d : Dict}, entries [] d = .ok []
  cons : ∀ {key : String} {v : Value} {es ws : Mapping} {d : Dict},
    entries ((key, v) :: es) d = .ok ws ↔
      ∃ f, d.field? key = some f ∧ ∃ w, value v f = .ok w ∧
        ∃ ws', entries es d = .ok ws' ∧ (key, w) :: ws' = ws

theorem EntrywiseConversion.encode : EntrywiseConversion Value.encode Value.encodeEntries where
  any := Value.encode_of_any
  dict := Value.encode_map
  nil := rfl
  cons := Value.encodeEntries_cons_eq_ok_iff

theorem EntrywiseConversion.decode (declare : DeclarationReader) :
    EntrywiseConversion (Value.decodeWith declare)
      (fun es d => Value.decodeEntries declare d es) where
  any := Value.decodeWith_of_any
  dict := Value.decodeWith_map
  nil := rfl
  cons := Value.decodeEntries_cons_eq_ok_iff

/-! ## Fields by path -/

namespace Schema

variable {s : Schema} {chain : List String} {key : String} {d : Dict} {f : Field}

theorem fieldAt_eq_ok_iff {path : String} :
    s.fieldAt path = .ok f ↔ Dict.fieldAlong s.root (Path.keys path) = some f := by
  rw [fieldAt, ← Path.keys]
  cases Dict.fieldAlong s.root (Path.keys path) <;> simp

/-- Beyond a chain of keys, fields are those of a dict. -/
def LeadsTo (s : Schema) (chain : List String) (d : Dict) : Prop :=
  ∀ more, more ≠ [] → Dict.fieldAlong s.root (chain ++ more) = Dict.fieldAlong d more

/-- Beyond a chain of keys, everything is governed by a field for any value. -/
def LeadsToAny (s : Schema) (chain : List String) : Prop :=
  ∀ more, more ≠ [] → ∃ f, Dict.fieldAlong s.root (chain ++ more) = some f ∧ f.kind = .any

theorem LeadsTo.root : s.LeadsTo [] s.root := fun _ _ => rfl

theorem LeadsTo.fieldAlong (h : s.LeadsTo chain d) :
    Dict.fieldAlong s.root (chain ++ [key]) = d.field? key := by
  rw [h [key] (List.cons_ne_nil _ _), Dict.fieldAlong]
  cases d.field? key <;> rfl

theorem fieldAlong_cons {more : List String} (hmore : more ≠ []) (hf : d.field? key = some f) :
    Dict.fieldAlong d (key :: more) =
      match f.kind with
      | .dict nested => Dict.fieldAlong nested more
      | .any => some f
      | _ => none := by
  rw [Dict.fieldAlong, hf]
  cases more with
  | nil => exact absurd rfl hmore
  | cons => rfl

theorem LeadsTo.dict (h : s.LeadsTo chain d) (hf : d.field? key = some f) {nested : Dict}
    (hk : f.kind = .dict nested) : s.LeadsTo (chain ++ [key]) nested := by
  intro more hmore
  rw [List.append_assoc, List.singleton_append, h _ (List.cons_ne_nil _ _),
    fieldAlong_cons hmore hf, hk]

theorem LeadsTo.any (h : s.LeadsTo chain d) (hf : d.field? key = some f) (hk : f.kind = .any) :
    s.LeadsToAny (chain ++ [key]) := by
  intro more hmore
  refine ⟨f, ?_, hk⟩
  rw [List.append_assoc, List.singleton_append, h _ (List.cons_ne_nil _ _),
    fieldAlong_cons hmore hf, hk]

theorem LeadsToAny.append (h : s.LeadsToAny chain) : s.LeadsToAny (chain ++ [key]) := by
  intro more hmore
  rw [List.append_assoc]
  exact h _ (by simp)

theorem LeadsToAny.fieldAlong (h : s.LeadsToAny chain) (key : String) :
    ∃ f, Dict.fieldAlong s.root (chain ++ [key]) = some f ∧ f.kind = .any :=
  h [key] (List.cons_ne_nil _ _)

end Schema

/-! ## The pass of a schema -/

namespace Converter

/-- What the converter of a schema does with a value it does not take apart. -/
def convertAt (s : Schema) (value : Value → Field → Except ConvertError Value) (path : String)
    (v : Value) : Except ConvertError Value := do
  let f ← asConvertError .unknownKey (s.fieldAt path)
  asConvertError (ConvertError.under path) (value v f)

/-- The pass of the converter of a schema. -/
def schemaPass (s : Schema) (value : Value → Field → Except ConvertError Value) (doc : Value)
    (excluded : List String) : Pass where
  rule := .ofSchema s
  convert := convertAt s value
  doc := doc
  excluded := excluded

variable {s : Schema} {value : Value → Field → Except ConvertError Value}
  {entries : Mapping → Dict → Except ConvertError Mapping} {doc v w : Value} {path : String}
  {excluded chain : List String} {f : Field} {es : Mapping} {d : Dict}

theorem convertAt_eq_ok_iff :
    convertAt s value path v = .ok w ↔
      ∃ f, Dict.fieldAlong s.root (Path.keys path) = some f ∧ value v f = .ok w := by
  simp [convertAt, bind_eq_ok_iff, Schema.fieldAt_eq_ok_iff]

@[simp] theorem leavesOut_schemaPass (path : String) :
    (schemaPass s value doc excluded).leavesOut path = Path.isListed excluded (Path.keys path) :=
  leavesOut_eq_isListed rfl path

theorem descends_schemaPass (value : Value → Field → Except ConvertError Value) (doc v : Value)
    (excluded : List String) (hf : Dict.fieldAlong s.root (Path.keys path) = some f) :
    (schemaPass s value doc excluded).rule.descends path v =
      (v.map?.isSome && match f.kind with
        | .dict _ => true
        | .any => true
        | _ => false) := by
  have hfield : s.fieldAt path = .ok f := Schema.fieldAt_eq_ok_iff.mpr hf
  cases hk : f.kind <;> simp [schemaPass, ConversionRule.ofSchema, hfield, hk]

theorem descends_schemaPass_of_none (hf : Dict.fieldAlong s.root (Path.keys path) = none) :
    (schemaPass s value doc excluded).rule.descends path v = false := by
  have hfield : s.fieldAt path = .error ⟨path⟩ := by rw [Schema.fieldAt, ← Path.keys, hf]
  simp [schemaPass, ConversionRule.ofSchema, hfield]

theorem convertEntry_of_convert
    (h : (schemaPass s value doc excluded).rule.descends path v = false) :
    (schemaPass s value doc excluded).convertEntry path v = .ok w ↔
      ∃ f, Dict.fieldAlong s.root (Path.keys path) = some f ∧ value v f = .ok w := by
  rw [Pass.convertEntry_of_convert h]
  exact convertAt_eq_ok_iff

/-- Nothing is listed below a mapping in the place of a single value: every mapping that a dict has
neither entries nor any value for stays as it is when pruned. -/
inductive Exposed (listed : List String) : List String → Mapping → Dict → Prop where
  | intro {chain : List String} {es : Mapping} {d : Dict}
    (nested : ∀ key sub f d', (key, .map sub) ∈ es → d.field? key = some f → f.kind = .dict d' →
      Exposed listed (chain ++ [key]) sub d')
    (whole : ∀ key sub f, (key, .map sub) ∈ es → d.field? key = some f →
      (∀ d', f.kind ≠ .dict d') → f.kind ≠ .any →
      Mapping.prune listed (chain ++ [key]) sub = sub) :
    Exposed listed chain es d

/-- One entry becomes what its field makes of it when pruned, if the entries below it do. -/
theorem convertEntry_eq_ok_iff (hvalue : EntrywiseConversion value entries)
    (hdict : ∀ sub f d ws, v = .map sub → Dict.fieldAlong s.root (Path.keys path) = some f →
      f.kind = .dict d →
      ((schemaPass s value doc excluded).convertEntries (some path) sub = .ok ws ↔
        entries (Mapping.prune excluded (Path.keys path) sub) d = .ok ws))
    (hany : ∀ sub f, v = .map sub → Dict.fieldAlong s.root (Path.keys path) = some f →
      f.kind = .any →
      (schemaPass s value doc excluded).convertEntries (some path) sub =
        .ok (Mapping.prune excluded (Path.keys path) sub))
    (hwhole : ∀ sub f, v = .map sub → Dict.fieldAlong s.root (Path.keys path) = some f →
      (∀ d, f.kind ≠ .dict d) → f.kind ≠ .any →
      Mapping.prune excluded (Path.keys path) sub = sub) :
    (schemaPass s value doc excluded).convertEntry path v = .ok w ↔
      ∃ f, Dict.fieldAlong s.root (Path.keys path) = some f ∧
        value (v.prune excluded (Path.keys path)) f = .ok w := by
  cases hf : Dict.fieldAlong s.root (Path.keys path) with
  | none =>
    rw [convertEntry_of_convert (descends_schemaPass_of_none hf), hf]
    simp
  | some f =>
    have hdescends := descends_schemaPass value doc v excluded hf
    cases v with
    | map sub =>
      rw [Value.prune]
      cases hk : f.kind with
      | dict d =>
        rw [hk] at hdescends
        rw [Pass.convertEntry_of_descends hdescends, Pass.convertBelow, map_eq_ok_iff]
        simp only [hdict sub f d _ rfl hf hk, Option.some.injEq, exists_eq_left', hvalue.dict hk,
          map_eq_ok_iff]
      | any =>
        rw [hk] at hdescends
        rw [Pass.convertEntry_of_descends hdescends, Pass.convertBelow, hany sub f rfl hf hk]
        simp only [Option.some.injEq, exists_eq_left', hvalue.any hk, Except.map]
      | _ =>
        rw [hk] at hdescends
        have hsame := hwhole sub f rfl hf (by simp [hk]) (by simp [hk])
        rw [convertEntry_of_convert hdescends, hf, hsame]
    | _ =>
      rw [convertEntry_of_convert hdescends, hf]
      rfl

/-- Beyond a field for any value a mapping is pruned and otherwise rebuilt unchanged. -/
theorem convertEntries_of_any (hvalue : EntrywiseConversion value entries) (es : Mapping) :
    ∀ parent, Mapping.Walkable es → WalkFrame.Named parent es →
      s.LeadsToAny (WalkFrame.chain parent) →
      (schemaPass s value doc excluded).convertEntries parent es =
        .ok (Mapping.prune excluded (WalkFrame.chain parent) es) := by
  induction es using Value.nestedInduction with
  | step es ih =>
    intro parent hes hparent hlead
    induction es with
    | nil => rfl
    | cons e rest ihrest =>
      obtain ⟨key, v⟩ := e
      obtain ⟨hundotted, -, hv, hrest⟩ := Mapping.walkable_cons_iff.mp hes
      have hkeys := WalkFrame.keys_path hparent hundotted
      have hpath := WalkFrame.path_ne_empty hparent
      have hbeyond : s.LeadsToAny (Path.keys (WalkFrame.path parent key)) := hkeys ▸ hlead.append
      obtain ⟨f, hf, hk⟩ := hlead.fieldAlong key
      rw [← hkeys] at hf
      have hnested := fun k sub hsub => ih k sub (List.mem_cons_of_mem (key, v) hsub)
      have hrests := ihrest hnested hrest hparent.tail
      have hleaves : (schemaPass s value doc excluded).leavesOut (WalkFrame.path parent key) =
          Path.isListed excluded (WalkFrame.chain parent ++ [key]) :=
        hkeys ▸ leavesOut_schemaPass _
      cases hout : (schemaPass s value doc excluded).leavesOut (WalkFrame.path parent key) with
      | true =>
        rw [Pass.convertEntries_of_leavesOut hout, hrests,
          Mapping.prune_of_isListed (hleaves.symm.trans hout)]
      | false =>
        rw [Mapping.prune_of_not_isListed (hleaves.symm.trans hout), ← hkeys]
        refine (Pass.convertEntries_cons_eq_ok_iff hout).mpr ⟨_, ?_, _, hrests, rfl⟩
        refine (convertEntry_eq_ok_iff hvalue ?_ ?_ ?_).mpr ⟨f, hf, hvalue.any hk⟩
        · intro sub g d ws _ hg hd
          rw [hf] at hg
          cases hg
          rw [hk] at hd
          cases hd
        · rintro sub g rfl _ _
          exact ih key sub List.mem_cons_self (some _) (Value.walkable_map_iff.mp hv)
            (WalkFrame.named_some hpath sub) hbeyond
        · rintro sub g rfl hg _ hne
          rw [hf] at hg
          cases hg
          exact absurd hk hne

/-- Where lookups are those of a dict, the entries of a mapping become what the dict makes of
those that are left when it is pruned. -/
theorem convertEntries_eq_ok_iff (hvalue : EntrywiseConversion value entries) (es : Mapping) :
    ∀ parent d ws, Mapping.Walkable es → WalkFrame.Named parent es →
      s.LeadsTo (WalkFrame.chain parent) d → Exposed excluded (WalkFrame.chain parent) es d →
      ((schemaPass s value doc excluded).convertEntries parent es = .ok ws ↔
        entries (Mapping.prune excluded (WalkFrame.chain parent) es) d = .ok ws) := by
  induction es using Value.nestedInduction with
  | step es ih =>
    intro parent d ws hes hparent hlead hexposed
    induction es generalizing ws with
    | nil => rw [Pass.convertEntries, Mapping.prune, hvalue.nil]
    | cons e rest ihrest =>
      obtain ⟨key, v⟩ := e
      obtain ⟨hundotted, -, hv, hrest⟩ := Mapping.walkable_cons_iff.mp hes
      have hkeys := WalkFrame.keys_path hparent hundotted
      have hpath := WalkFrame.path_ne_empty hparent
      obtain ⟨hnestedExposed, hwhole⟩ := hexposed
      have hfield : Dict.fieldAlong s.root (Path.keys (WalkFrame.path parent key)) =
          d.field? key := by
        rw [hkeys, hlead.fieldAlong]
      have hentry : ∀ w,
          (schemaPass s value doc excluded).convertEntry (WalkFrame.path parent key) v = .ok w ↔
            ∃ f, d.field? key = some f ∧
              value (v.prune excluded (WalkFrame.chain parent ++ [key])) f = .ok w := by
        intro w
        rw [← hfield, ← hkeys]
        apply convertEntry_eq_ok_iff hvalue
        · rintro sub f nested ws rfl hf hk
          rw [hfield] at hf
          have hbelow : s.LeadsTo (Path.keys (WalkFrame.path parent key)) nested :=
            hkeys ▸ hlead.dict hf hk
          have hsub := hnestedExposed key sub f nested List.mem_cons_self hf hk
          rw [← hkeys] at hsub
          exact ih key sub List.mem_cons_self (some _) nested ws (Value.walkable_map_iff.mp hv)
            (WalkFrame.named_some hpath sub) hbelow hsub
        · rintro sub f rfl hf hk
          rw [hfield] at hf
          have hbelow : s.LeadsToAny (Path.keys (WalkFrame.path parent key)) :=
            hkeys ▸ hlead.any hf hk
          exact convertEntries_of_any hvalue sub (some _) (Value.walkable_map_iff.mp hv)
            (WalkFrame.named_some hpath sub) hbelow
        · rintro sub f rfl hf hdict hany
          rw [hfield] at hf
          rw [hkeys]
          exact hwhole key sub f List.mem_cons_self hf hdict hany
      have hnested := fun k sub hsub => ih k sub (List.mem_cons_of_mem (key, v) hsub)
      have hrestExposed : Exposed excluded (WalkFrame.chain parent) rest d :=
        .intro (fun k sub f d' hmem => hnestedExposed k sub f d' (List.mem_cons_of_mem _ hmem))
          fun k sub f hmem => hwhole k sub f (List.mem_cons_of_mem _ hmem)
      have hrests := fun ws => ihrest hnested ws hrest hparent.tail hrestExposed
      have hleaves : (schemaPass s value doc excluded).leavesOut (WalkFrame.path parent key) =
          Path.isListed excluded (WalkFrame.chain parent ++ [key]) :=
        hkeys ▸ leavesOut_schemaPass _
      cases hout : (schemaPass s value doc excluded).leavesOut (WalkFrame.path parent key) with
      | true =>
        rw [Pass.convertEntries_of_leavesOut hout, hrests,
          Mapping.prune_of_isListed (hleaves.symm.trans hout)]
      | false =>
        rw [Pass.convertEntries_cons_eq_ok_iff hout,
          Mapping.prune_of_not_isListed (hleaves.symm.trans hout), hvalue.cons]
        simp only [hentry, hrests]
        constructor
        · rintro ⟨w, ⟨f, hf, hw⟩, h⟩
          exact ⟨f, hf, w, hw, h⟩
        · rintro ⟨f, hf, w, hw, h⟩
          exact ⟨w, ⟨f, hf, hw⟩, h⟩

/-- With nothing listed, everything is exposed. -/
theorem exposed_nil (es : Mapping) : ∀ chain d, Exposed [] chain es d := by
  induction es using Value.nestedInduction with
  | step es ih =>
    intro chain d
    refine .intro ?_ ?_
    · exact fun key sub f d' hsub _ _ => ih key sub hsub _ d'
    · exact fun key sub f _ _ _ _ => Mapping.prune_nil sub _

variable {x : Value}

/-- A pass of the converter of a schema over a whole document. -/
theorem convertDocument_excluding_eq_ok_iff (hvalue : EntrywiseConversion value entries)
    (hes : (Value.map es).Walkable) (htop : "" ∉ Entries.keys es)
    (hexposed : Exposed excluded [] es s.root) :
    convertDocument (.ofSchema s) (convertAt s value) excluded (.map es) = .ok x ↔
      (entries (Mapping.prune excluded [] es) s.root).map .map = .ok x := by
  have hnamed : WalkFrame.Named none es := ⟨by simp, fun _ key hkey h => htop (h ▸ hkey)⟩
  rw [convertDocument_map hes htop, map_eq_ok_iff, map_eq_ok_iff]
  apply exists_congr
  intro ws
  apply and_congr_left
  intro _
  exact convertEntries_eq_ok_iff hvalue es none s.root ws (Value.walkable_map_iff.mp hes) hnamed
    Schema.LeadsTo.root hexposed

/-- Without exclusions nothing is pruned. -/
theorem convertDocument_ofSchema_eq_ok_iff (hvalue : EntrywiseConversion value entries)
    (hes : (Value.map es).Walkable) (htop : "" ∉ Entries.keys es) :
    convertDocument (.ofSchema s) (convertAt s value) [] (.map es) = .ok x ↔
      (entries es s.root).map .map = .ok x := by
  rw [convertDocument_excluding_eq_ok_iff hvalue hes htop (exposed_nil es [] s.root),
    Mapping.prune_nil]

/-- The converter of a schema, without exclusions and renames, encodes and decodes a document as
the schema does, or fails as the schema does. Keys of mappings must not have dots, and no key at
the top may be empty. -/
theorem ofSchema_eq_ok_iff (s : Schema) (es : Mapping) (x : Value) (hes : (Value.map es).Walkable)
    (htop : "" ∉ Entries.keys es) :
    (({ rule := .ofSchema s } : Converter).toWire (.map es) = .ok x ↔ s.encode (.map es) = .ok x) ∧
      (({ rule := .ofSchema s } : Converter).fromWire (.map es) = .ok x ↔
        s.decode (.map es) = .ok x) := by
  have hencode := EntrywiseConversion.encode
  have hdecode := EntrywiseConversion.decode Declaration.readField
  have hout := convertDocument_ofSchema_eq_ok_iff (s := s) (x := x) hencode hes htop
  have hin := convertDocument_ofSchema_eq_ok_iff (s := s) (x := x) hdecode hes htop
  have hwire : ({ rule := .ofSchema s } : Converter).toWire (.map es) =
      convertDocument (.ofSchema s) (convertAt s Value.encode) [] (.map es) := bind_pure _
  rw [hwire]
  exact ⟨hout, hin⟩

/-- A mapping under a field for any value is rebuilt, and one under a field for numbers is
passed as one value. -/
theorem ofSchema_eq_ok_iff_mixed :
    ({ rule := .ofSchema (.ofDict [(.name "x", .any), (.name "n", .int)]) } : Converter).toWire
        (.map [("x", .map [("", .null)]), ("n", .map [("b", .bool true)])]) =
      .ok (.map [("x", .map [("", .null)]), ("n", .map [("b", .bool true)])]) ∧
    ({ rule := .ofSchema (.ofDict [(.name "x", .any), (.name "n", .int)]) } : Converter).fromWire
        (.map [("x", .map [("", .null)]), ("n", .map [("b", .bool true)])]) =
      .ok (.map [("x", .map [("", .null)]), ("n", .map [("b", .bool true)])]) := by
  have hwalkable :
      (Value.map [("x", .map [("", .null)]), ("n", .map [("b", .bool true)])]).Walkable := by
    decide
  have hagrees := ofSchema_eq_ok_iff (.ofDict [(.name "x", .any), (.name "n", .int)]) _
    (.map [("x", .map [("", .null)]), ("n", .map [("b", .bool true)])]) hwalkable (by decide)
  exact ⟨hagrees.1.mpr rfl, hagrees.2.mpr rfl⟩

end Converter

end TypedDocument
