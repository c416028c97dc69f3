import TypedDocument.Proofs.Conversion.Description
import TypedDocument.Proofs.Declaration.Options
import TypedDocument.Proofs.Declaration.Reading

/-!
# What fields declarations give

Not every field can be declared. The bounds of a declared field are numbers JSON has, the keys of
its dicts are different and none is the name of a key type, and its default is what the field itself
made of a raw document, so that fields within the default were declared in turn. Declarations
within a default have gone through a document, which leaves them no lengths beyond 64 signed bits.
-/

namespace TypedDocument

/-- A bound that is read back from its declaration. -/
def Number.IsBound (n : Number) : Prop := Declaration.bound? n.describe = some n

/-- The bounds of a kind satisfy a condition. -/
def FieldKind.BoundsHold (p : Number → Prop) : FieldKind → Prop
  | int b => (∀ n, b.min = some n → p n) ∧ ∀ n, b.max = some n → p n
  | long b => (∀ n, b.min = some n → p n) ∧ ∀ n, b.max = some n → p n
  | float b => (∀ n, b.min = some n → p n) ∧ ∀ n, b.max = some n → p n
  | _ => True

/-- The keys of a dict are different, and each is the one its text stands for. -/
structure Dict.HasDeclaredKeys (d : Dict) : Prop where
  distinct : Entries.Distinct d
  ofText : ∀ key f, (key, f) ∈ d → SchemaKey.ofText key.text = key

/-- A default that a field made of a raw document. Only lists cannot go without one. -/
inductive Default.DeclaredFor (f : Field) : Default → Prop where
  | unset (kind : Declaration.isList f.kind = false) : DeclaredFor f .unset
  | value {u v : Value} (raw : u.IsRaw) (decoded : f.decode u = .ok v) : DeclaredFor f (.value v)

/-- The fields that declarations give, on their own or within a default. -/
inductive Field.Declared : Bool → Field → Prop where
  | mk {inDefault : Bool} {f : Field} (bounds : f.kind.BoundsHold Number.IsBound)
    (lengths : inDefault = true → f.kind.LengthsHold FitsLong)
    (candidates : ∀ candidates least most, f.kind = .list candidates least most →
      ∀ c ∈ candidates, Declared inDefault c)
    (keys : ∀ d : Dict, f.kind = .dict d → d.HasDeclaredKeys)
    (entries : ∀ d : Dict, f.kind = .dict d → ∀ key c, (key, c) ∈ d → Declared inDefault c)
    (default : f.default.DeclaredFor f)
    (held : ∀ v g, f.default = .value v → v.Within (.field g) → Declared true g) :
    Declared inDefault f

/-- JSON values that declare fields, on their own or within a default. -/
structure Json.Declares (inDefault : Bool) (j : Json) : Prop where
  inRange : j.InRange
  stable : inDefault = true → j.Stable

variable {inDefault : Bool} {f g : Field} {v w : Value}

theorem Json.Declares.item {items : List Json} (h : (Json.array items).Declares inDefault) :
    ∀ i ∈ items, i.Declares inDefault := by
  intro i hi
  refine ⟨?_, fun hin => Json.stable_array_iff.mp (h.stable hin) i hi⟩
  cases h.inRange with
  | array inRange => exact inRange i hi

theorem Json.Declares.member {members : List (String × Json)}
    (h : (Json.object members).Declares inDefault) :
    ∀ key i, (key, i) ∈ members → i.Declares inDefault := by
  intro key i hi
  refine ⟨?_, fun hin => Json.stable_object_iff.mp (h.stable hin) key i hi⟩
  cases h.inRange with
  | object inRange => exact inRange key i hi

/-! ## Fields within decoded defaults -/

namespace Value

variable {declare : DeclarationReader}

theorem not_within_field_of_jsonTypes (h : v.Everywhere HasJsonType) : ¬ v.Within (.field g) :=
  fun hg => h _ hg

/-- A field within a decoded value was declared by a mapping within the raw one. -/
theorem exists_declaration_of_within {u : Value} :
    ∀ {f v}, u.Everywhere HasJsonType → u.decodeWith declare f = .ok v → v.Within (.field g) →
      ∃ es j, u.Within (.map es) ∧ (Value.map es).toJson = .ok j ∧ declare j = .ok g := by
  induction u using containerInduction with
  | leaf u hu =>
    intro f v hjson h hg
    rw [decodeWith_leaf hu] at h
    rcases eq_or_isScalar_of_decodeScalar h with rfl | hv
    · exact absurd hg (not_within_field_of_jsonTypes hjson)
    · cases hg with
      | self => cases hv
      | item => cases hv
      | entry => cases hv
  | list items ih =>
    intro f v hjson h hg
    rcases f.kind.eq_list_or_ne with ⟨candidates, least, most, hk⟩ | hk
    · rw [decodeWith_list hk] at h
      cases h
      cases hg with
      | item mem within =>
        rw [decodeItems_eq_map] at mem
        obtain ⟨u, hu, rfl⟩ := List.mem_map.mp mem
        have hujson := (everywhere_list_iff.mp hjson).2 u hu
        rcases decodeElement_cases declare candidates u with ⟨c, -, hc⟩ | hsame
        · obtain ⟨es, j, hes, hj⟩ := ih u hu hujson hc within
          exact ⟨es, j, .item hu hes, hj⟩
        · rw [hsame] at within
          exact absurd within (not_within_field_of_jsonTypes hujson)
    · rw [decodeWith_list_of_kind_ne hk] at h
      cases h
      exact absurd hg (not_within_field_of_jsonTypes hjson)
  | map es ih =>
    intro f v hjson h hg
    rcases f.kind.eq_dict_or_field_or_ne with ⟨d, hk⟩ | hk | ⟨hdict, hfield⟩
    · rw [decodeWith_map hk] at h
      obtain ⟨ws, hws, rfl⟩ := map_eq_ok_iff.mp h
      cases hg with
      | entry mem within =>
        obtain ⟨u, c, hu, -, huc⟩ := mem_decodeEntries hws _ _ mem
        have hujson := (everywhere_map_iff.mp hjson).2 _ u hu
        obtain ⟨sub, j, hsub, hj⟩ := ih _ u hu hujson huc within
        exact ⟨sub, j, .entry hu hsub, hj⟩
    · obtain ⟨j, hj, c, hc, rfl⟩ := (decodeWith_map_of_field_eq_ok_iff hk).mp h
      cases hg
      exact ⟨es, j, .self _, hj, hc⟩
    · rw [decodeWith_map_of_kind_ne hdict hfield] at h
      cases h
      exact absurd hg (not_within_field_of_jsonTypes hjson)

end Value

/-! ## Fields before their options are set -/

namespace Field

theorem declared_of_unset (hk : f.kind.isContainer = false) (hd : f.default = .unset)
    (bounds : f.kind.BoundsHold Number.IsBound) (lengths : f.kind.LengthsHold FitsLong) :
    f.Declared inDefault := by
  have hlist : ∀ candidates least most, f.kind ≠ .list candidates least most :=
    fun _ _ _ h => by simp [h, FieldKind.isContainer] at hk
  have hdict : ∀ d, f.kind ≠ .dict d := fun _ h => by simp [h, FieldKind.isContainer] at hk
  refine .mk bounds (fun _ => lengths) ?_ ?_ ?_ ?_ ?_
  · exact fun _ _ _ h => absurd h (hlist _ _ _)
  · exact fun _ h => absurd h (hdict _)
  · exact fun _ h => absurd h (hdict _)
  · rw [hd]
    refine .unset ?_
    cases hkind : f.kind with
    | list => exact absurd hkind (hlist _ _ _)
    | _ => rfl
  · intro v g h
    rw [hd] at h
    cases h

theorem declared_of_plainField? {name : String} (h : Declaration.plainField? name = some f) :
    f.Declared inDefault := by
  have hnumber : ∀ o : Option Number, o = none → ∀ n, o = some n → n.IsBound :=
    fun _ ho _ hn => by simp [ho] at hn
  have huuid : ∀ n, some 32 = some n → FitsLong n := by
    rintro n h
    cases h
    decide
  unfold Declaration.plainField? at h
  split at h <;> cases h
  all_goals
    refine declared_of_unset rfl rfl ?_ ?_
    · first | exact trivial | exact ⟨hnumber _ rfl, hnumber _ rfl⟩
    · first
        | exact trivial
        | exact ⟨huuid, nofun, nofun⟩
        | exact ⟨nofun, nofun, nofun⟩

theorem declared_list {candidates : List Field} (h : ∀ c ∈ candidates, c.Declared inDefault) :
    (list candidates).Declared inDefault := by
  refine .mk trivial (fun _ => ⟨by decide, nofun⟩) ?_ ?_ ?_ ?_ ?_
  · rintro _ _ _ ⟨⟩
    exact h
  · exact fun _ hk => by cases hk
  · exact fun _ hk => by cases hk
  · exact .value Value.isRaw_empty rfl
  · rintro v g ⟨⟩ hg
    cases hg with
    | item mem => cases mem

theorem declared_dict {d : Dict} (keys : d.HasDeclaredKeys)
    (h : ∀ key c, (key, c) ∈ d → c.Declared inDefault) : (dict d).Declared inDefault := by
  refine .mk trivial (fun _ => trivial) ?_ ?_ ?_ (.unset rfl) ?_
  · exact fun _ _ _ hk => by cases hk
  · rintro _ ⟨⟩
    exact keys
  · rintro _ ⟨⟩
    exact h
  · exact fun _ _ hd => by cases hd

end Field

/-! ## Options -/

namespace Declaration

variable {option key : String} {j : Json} {kind : FieldKind} {n : Number}

theorem isBound_of_bound? (hj : j.InRange) (h : bound? j = some n) : n.IsBound := by
  cases hj with
  | @integer i low high =>
    simp only [bound?] at h
    split at h
    · next hfits =>
      cases h
      rw [Number.IsBound, Number.describe, toInt_ofInt_of_fitsInt64 hfits, bound?, if_pos hfits]
    · next hfits =>
      cases h
      obtain ⟨n, rfl⟩ : ∃ n : Nat, i = n := by
        simp only [fitsInt64, Bool.and_eq_true, decide_eq_true_eq] at hfits
        exact Int.eq_ofNat_of_zero_le (by omega)
      have hfinite : (Float.ofInt n).isFinite = true := by
        simp only [fitsInt64, Bool.and_eq_true, decide_eq_true_eq] at hfits
        exact isFinite_ofInt (by omega) (by omega)
      simp [Number.IsBound, Number.describe, Json.ofFloat, hfinite, bound?]
  | float finite =>
    cases h
    simp [Number.IsBound, Number.describe, Json.ofFloat, finite, bound?]
  | _ => cases h

theorem fitsLong_of_length? {n : Nat} (hj : j.Stable) (h : length? j = some n) : FitsLong n := by
  cases j with
  | integer i =>
    cases i with
    | ofNat m =>
      cases h
      exact stable_ofNat_iff.mp hj
    | negSucc => cases h
  | _ => cases h

/-- What a single member says comes from that member. -/
theorem said_singleton {α : Type} {read : Json → Option α} {a : α}
    (h : said read key [(option, j)] = some a) : read j = some a := by
  rw [said_cons, said_nil] at h
  split at h
  · exact h
  · cases h

theorem boundsHold_withMembers (hj : j.InRange) (h : kind.BoundsHold Number.IsBound) :
    (kind.withMembers [(option, j)]).BoundsHold Number.IsBound := by
  have hbound : ∀ {key : String} {o : Option Number}, (∀ n, o = some n → n.IsBound) →
      ∀ n, (said bound? key [(option, j)]).or o = some n → n.IsBound := by
    intro key o ho n hn
    rcases Option.or_eq_some_iff.mp hn with hn | ⟨-, hn⟩
    · exact isBound_of_bound? hj (said_singleton hn)
    · exact ho n hn
  cases kind with
  | int | long | float => exact ⟨hbound h.1, hbound h.2⟩
  | _ => trivial

theorem lengthsHold_withMembers (hj : j.Stable) (h : kind.LengthsHold FitsLong) :
    (kind.withMembers [(option, j)]).LengthsHold FitsLong := by
  have hlength : ∀ {key : String} {o : Option Nat}, (∀ n, o = some n → FitsLong n) →
      ∀ n, (said length? key [(option, j)]).or o = some n → FitsLong n := by
    intro key o ho n hn
    rcases Option.or_eq_some_iff.mp hn with hn | ⟨-, hn⟩
    · exact fitsLong_of_length? hj (said_singleton hn)
    · exact ho n hn
  cases kind with
  | text => exact ⟨hlength h.1, hlength h.2.1, hlength h.2.2⟩
  | list candidates least most =>
    refine ⟨?_, hlength h.2⟩
    cases hn : said length? "min_len" [(option, j)] with
    | none => exact h.1
    | some n => exact fitsLong_of_length? hj (said_singleton hn)
  | _ => trivial

theorem list_of_withMembers {ms : List (String × Json)} {candidates : List Field} {least : Nat}
    {most : Option Nat} (h : kind.withMembers ms = .list candidates least most) :
    ∃ least most, kind = .list candidates least most := by
  cases kind <;> cases h
  exact ⟨_, _, rfl⟩

theorem dict_of_withMembers {ms : List (String × Json)} {d : Dict}
    (h : kind.withMembers ms = .dict d) : kind = .dict d := by
  cases kind <;> cases h
  rfl

/-- Options do not matter to how a value is decoded. -/
@[simp] theorem decode_withMembers (ms : List (String × Json)) (f : Field) (u : Value) :
    (f.withMembers ms).decode u = f.decode u := by
  obtain ⟨kind, options, default⟩ := f
  cases u <;> cases kind <;> rfl

theorem declared_withMembers (hj : j.Declares inDefault) (h : f.Declared inDefault) :
    (f.withMembers [(option, j)]).Declared inDefault := by
  cases h with
  | mk bounds lengths candidates keys entries default held =>
    refine .mk ?_ ?_ ?_ ?_ ?_ ?_ held
    · exact boundsHold_withMembers hj.inRange bounds
    · exact fun hin => lengthsHold_withMembers (hj.stable hin) (lengths hin)
    · intro cs least most hk
      obtain ⟨least', most', hk'⟩ := list_of_withMembers hk
      exact candidates cs least' most' hk'
    · exact fun d hk => keys d (dict_of_withMembers hk)
    · exact fun d hk => entries d (dict_of_withMembers hk)
    · show f.default.DeclaredFor _
      cases hd : f.default with
      | unset =>
        rw [hd] at default
        cases default with
        | unset kind =>
          refine .unset ?_
          obtain ⟨k, options, default⟩ := f
          cases k with
          | list => cases kind
          | _ => rfl
      | value v =>
        rw [hd] at default
        cases default with
        | value raw decoded => exact .value raw ((decode_withMembers _ f _).trans decoded)
      | counter =>
        rw [hd] at default
        cases default

end Declaration

end TypedDocument
