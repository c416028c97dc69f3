import TypedDocument.Proofs.Schema.Document

/-!
# Partial validation

Partial validation is closed under leaving entries out: whatever is taken out of the mappings of a
valid or partially valid document, the rest is partially valid. What it leaves out beside full
validation are the entries that mappings lack. Full validation of a partially valid document can
complain of nothing else, except that within a list the lack shows as an element without a matching
candidate.
-/

namespace TypedDocument

/-! ## Leaving entries out -/

namespace Value

mutual

/-- The second document is the first one without some entries of its mappings, at any depth. Lists
keep all their elements, and fields held as data stay as they are. -/
inductive Thinned : Value → Value → Prop where
  | leaf {v : Value} (plain : v.isContainer = false) : Thinned v v
  | list {items items' : List Value} (elements : ItemsThinned items items') :
    Thinned (.list items) (.list items')
  | map {es es' : Mapping} (entries : EntriesThinned es es') : Thinned (.map es) (.map es')

inductive ItemsThinned : List Value → List Value → Prop where
  | nil : ItemsThinned [] []
  | cons {v w : Value} {vs ws : List Value} (head : Thinned v w) (tail : ItemsThinned vs ws) :
    ItemsThinned (v :: vs) (w :: ws)

/-- Every entry is kept, with less in it, or left out. -/
inductive EntriesThinned : List (String × Value) → List (String × Value) → Prop where
  | nil : EntriesThinned [] []
  | keep {key : String} {v w : Value} {es es' : List (String × Value)} (value : Thinned v w)
    (rest : EntriesThinned es es') : EntriesThinned ((key, v) :: es) ((key, w) :: es')
  | drop {key : String} {v : Value} {es es' : List (String × Value)}
    (rest : EntriesThinned es es') : EntriesThinned ((key, v) :: es) es'

end

variable {items items' : List Value} {es es' : Mapping}

theorem ItemsThinned.length_eq (h : ItemsThinned items items') : items'.length = items.length := by
  induction items generalizing items' with
  | nil =>
    cases h
    rfl
  | cons v rest ih =>
    cases h with
    | cons _ tail => rw [List.length_cons, List.length_cons, ih tail]

theorem ItemsThinned.exists_mem (h : ItemsThinned items items') :
    ∀ w ∈ items', ∃ v ∈ items, Thinned v w := by
  induction items generalizing items' with
  | nil =>
    cases h
    simp
  | cons v rest ih =>
    cases h with
    | cons head tail =>
      intro w hw
      rcases List.mem_cons.mp hw with rfl | hw
      · exact ⟨v, List.mem_cons_self, head⟩
      · obtain ⟨u, hu, huw⟩ := ih tail w hw
        exact ⟨u, List.mem_cons_of_mem v hu, huw⟩

theorem EntriesThinned.exists_mem (h : EntriesThinned es es') :
    ∀ key w, (key, w) ∈ es' → ∃ v, (key, v) ∈ es ∧ Thinned v w := by
  induction es generalizing es' with
  | nil =>
    cases h
    simp
  | cons e rest ih =>
    intro key w hw
    cases h with
    | keep value tail =>
      rcases List.mem_cons.mp hw with hw | hw
      · cases hw
        exact ⟨_, List.mem_cons_self, value⟩
      · obtain ⟨v, hv, hvw⟩ := ih tail key w hw
        exact ⟨v, List.mem_cons_of_mem _ hv, hvw⟩
    | drop tail =>
      obtain ⟨v, hv, hvw⟩ := ih tail key w hw
      exact ⟨v, List.mem_cons_of_mem _ hv, hvw⟩

theorem ItemsThinned.of_forall (h : ∀ v ∈ items, Thinned v v) : ItemsThinned items items := by
  induction items with
  | nil => exact .nil
  | cons v rest ih =>
    exact .cons (h v List.mem_cons_self) (ih fun w hw => h w (List.mem_cons_of_mem v hw))

theorem EntriesThinned.of_forall (h : ∀ key v, (key, v) ∈ es → Thinned v v) :
    EntriesThinned es es := by
  induction es with
  | nil => exact .nil
  | cons e rest ih =>
    obtain ⟨key, v⟩ := e
    exact .keep (h key v List.mem_cons_self) (ih fun k w hw => h k w (List.mem_cons_of_mem _ hw))

/-- Nothing has to be left out. -/
theorem Thinned.refl (v : Value) : v.Thinned v := by
  induction v using containerInduction with
  | leaf v hv => exact .leaf hv
  | list items ih => exact .list (.of_forall ih)
  | map es ih => exact .map (.of_forall ih)

/-- What is left of a conforming value conforms partially. An element that conformed to a candidate
goes on to conform to it, though another one may match first now. -/
theorem Conforms.thinned {partially : Bool} {v : Value} :
    ∀ {f w}, v.Conforms partially f → v.Thinned w → w.Conforms true f := by
  induction v using containerInduction with
  | leaf v hv =>
    intro f w h hthinned
    cases hthinned with
    | leaf =>
      cases h with
      | null nullable => exact .null nullable
      | plain present kind accepted rules => exact .plain present kind accepted rules
      | list => cases hv
      | map => cases hv
    | list => cases hv
    | map => cases hv
  | list items ih =>
    intro f w h hthinned
    cases hthinned with
    | leaf plain => cases plain
    | @list _ items' elements =>
      cases h with
      | plain _ kind accepted =>
        have haccepts : f.kind.accepts (.list items') = true := by
          rw [← accepted]
          cases f.kind <;> rfl
        refine .plain (by simp) kind haccepts ?_
        cases f.kind <;> trivial
      | list kind enough notTooMany candidates =>
        have hlength := elements.length_eq
        refine .list kind (hlength ▸ enough) (hlength ▸ notTooMany) fun hne w hw => ?_
        obtain ⟨v, hv, hvw⟩ := elements.exists_mem w hw
        obtain ⟨candidate, conforms⟩ := candidates hne v hv
        exact .intro candidate (ih v hv conforms hvw)
  | map es ih =>
    intro f w h hthinned
    cases hthinned with
    | leaf plain => cases plain
    | @map _ es' entries =>
      cases h with
      | plain _ kind accepted =>
        have haccepts : f.kind.accepts (.map es') = true := by
          rw [← accepted]
          cases f.kind <;> rfl
        refine .plain (by simp) kind haccepts ?_
        cases f.kind <;> trivial
      | map kind governed =>
        refine .map kind (fun key w hw => ?_) nofun
        obtain ⟨v, hv, hvw⟩ := entries.exists_mem key w hw
        obtain ⟨governs, conforms⟩ := governed key v hv
        exact .intro governs (ih key v hv conforms hvw)

theorem Conforms.partially {v : Value} {f : Field} (h : v.Conforms false f) : v.Conforms true f :=
  h.thinned (.refl v)

end Value

/-! ## Offences that are lacks -/

/-- Whether an offence is that a mapping lacks an entry. -/
def Offence.isLack : Offence → Bool
  | missingField => true
  | missingTypeKey _ => true
  | _ => false

variable {name : String} {e : ValidationError} {f : Field}

theorem Bounds.isLack_of_offence? {b : Bounds} {n : Number} {o : Offence}
    (h : b.offence? n = some o) : o.isLack = false := by
  rw [offence?] at h
  split at h
  · cases h
    rfl
  · split at h <;> cases h <;> rfl

theorem TextRules.isLack_of_offence? {r : TextRules} {s : String} {o : Offence}
    (h : r.offence? s = some o) : o.isLack = false := by
  rw [offence?, Option.or_eq_some_iff] at h
  rcases h with h | ⟨-, h⟩
  · rw [lengthOffence?] at h
    split at h
    · split at h <;> cases h
      rfl
    · split at h <;> cases h <;> rfl
  · rw [patternOffence?] at h
    split at h
    · split at h <;> cases h
      rfl
    · cases h

/-- A value that is not taken apart lacks nothing. -/
theorem FieldKind.isLack_of_offence? {kind : FieldKind} {v : Value} {o : Offence}
    (h : kind.offence? v = some o) : o.isLack = false := by
  unfold offence? at h
  split at h
  · cases h
    rfl
  · split at h
    · exact Bounds.isLack_of_offence? h
    · exact Bounds.isLack_of_offence? h
    · exact Bounds.isLack_of_offence? h
    · exact TextRules.isLack_of_offence? h
    · cases h

theorem FieldKind.isLack_of_countOffence? {least count : Nat} {most : Option Nat} {o : Offence}
    (h : countOffence? least most count = some o) : o.isLack = false := by
  unfold countOffence? at h
  split at h
  · cases h
    rfl
  · split at h
    · split at h <;> cases h
      rfl
    · cases h

theorem Dict.isLack_of_firstLack? {d : Dict} {keys : List String}
    (h : d.firstLack? name keys = some e) : e.offence.isLack = true := by
  obtain ⟨⟨key, f⟩, -, hlack⟩ := List.exists_of_findSome?_eq_some h
  dsimp only [lack?] at hlack
  split at hlack
  · cases hlack
  · cases key <;> (dsimp only at hlack; split at hlack <;> cases hlack; rfl)

namespace Value

variable {partially : Bool}

/-- A list has no other complaint of its elements than that one matches no candidate. -/
theorem offence_of_validateItems {candidates : List Field} {items : List Value} {index : Nat}
    (h : validateItems partially candidates name index items = .error e) :
    e.offence = .noMatchingElement := by
  obtain ⟨_, _, _, -, -, -, rfl⟩ := validateItems_eq_error_iff.mp h
  rfl

/-- A complaint of the entries of a mapping is that one is not declared, or a complaint of one. -/
theorem exists_of_validateEntries {d : Dict} {es : Mapping}
    (h : validateEntries partially d name es = .error e) :
    (∃ key v, (key, v) ∈ es ∧ d.field? key = none ∧ e.offence = .undefinedField) ∨
      ∃ key v g, (key, v) ∈ es ∧ d.field? key = some g ∧
        v.validate partially g (Path.join name key) = .error e := by
  obtain ⟨before, ⟨key, v⟩, after, rfl, -, hv⟩ := validateEntries_eq_error_iff.mp h
  have hmem : (key, v) ∈ before ++ (key, v) :: after :=
    List.mem_append_right before List.mem_cons_self
  rcases hv with ⟨hg, rfl⟩ | ⟨g, hg, hvalidate⟩
  · exact .inl ⟨key, v, hmem, hg, rfl⟩
  · exact .inr ⟨key, v, g, hmem, hg, hvalidate⟩

/-- Partial validation complains of no lack. -/
theorem isLack_of_validate_partially {v : Value} :
    ∀ {f name e}, v.validate true f name = .error e → e.offence.isLack = false := by
  have hreport : ∀ {f : Field} {v : Value} {name e},
      report name (f.kind.offence? v) = .error e → e.offence.isLack = false := by
    intro f v name e h
    obtain ⟨o, ho, rfl⟩ := report_eq_error_iff.mp h
    exact FieldKind.isLack_of_offence? ho
  induction v using containerInduction with
  | leaf v hv =>
    intro f name e h
    by_cases present : v = .null
    · subst present
      obtain ⟨o, ho, rfl⟩ := report_eq_error_iff.mp h
      split at ho <;> cases ho
      rfl
    · rw [validate_leaf hv present] at h
      exact hreport h
  | list items ih =>
    intro f name e h
    rcases f.kind.eq_list_or_ne with ⟨candidates, least, most, hk⟩ | hk
    · simp only [validate, hk] at h
      cases hcount : report name (FieldKind.countOffence? least most items.length) with
      | error e' =>
        rw [hcount] at h
        cases h
        obtain ⟨o, ho, rfl⟩ := report_eq_error_iff.mp hcount
        exact FieldKind.isLack_of_countOffence? ho
      | ok =>
        rw [hcount, ok_bind] at h
        split at h
        · cases h
        · rw [offence_of_validateItems h]
          rfl
    · rw [validate_list_of_kind_ne hk] at h
      exact hreport h
  | map es ih =>
    intro f name e h
    rcases f.kind.eq_dict_or_ne with ⟨d, hk⟩ | hk
    · simp only [validate, hk] at h
      cases hes : validateEntries true d name es with
      | error e' =>
        rw [hes] at h
        cases h
        rcases exists_of_validateEntries hes with ⟨_, _, -, -, he⟩ | ⟨key, v, g, hv, -, hvalidate⟩
        · rw [he]
          rfl
        · exact ih key v hv hvalidate
      | ok =>
        rw [hes] at h
        cases h
    · rw [validate_map_of_kind_ne hk] at h
      exact hreport h

/-- Full validation complains of a partially valid value only for what it lacks. -/
theorem isLack_or_of_validate {v : Value} :
    ∀ {f name e}, v.validate true f name = .ok () → v.validate false f name = .error e →
      e.offence.isLack = true ∨ e.offence = .noMatchingElement := by
  induction v using containerInduction with
  | leaf v hv =>
    intro f name e hpart h
    by_cases present : v = .null
    · subst present
      cases hpart.symm.trans h
    · rw [validate_leaf hv present] at hpart h
      cases hpart.symm.trans h
  | list items ih =>
    intro f name e hpart h
    rcases f.kind.eq_list_or_ne with ⟨candidates, least, most, hk⟩ | hk
    · simp only [validate, hk] at hpart h
      obtain ⟨hcount, -⟩ := check_bind_eq_ok_iff.mp hpart
      rw [hcount, ok_bind] at h
      split at h
      · cases h
      · exact .inr (offence_of_validateItems h)
    · rw [validate_list_of_kind_ne hk] at hpart h
      cases hpart.symm.trans h
  | map es ih =>
    intro f name e hpart h
    rcases f.kind.eq_dict_or_ne with ⟨d, hk⟩ | hk
    · have hconforms := (conforms_map_iff hk).mp ((validate_eq_ok_iff f name).mp hpart)
      simp only [validate, hk] at h
      cases hes : validateEntries false d name es with
      | error e' =>
        rw [hes] at h
        cases h
        obtain ⟨hgoverned, -⟩ := hconforms
        rcases exists_of_validateEntries hes with
          ⟨key, v, hv, hg, -⟩ | ⟨key, v, g, hv, hg, hvalidate⟩
        · obtain ⟨g, hg', -⟩ := hgoverned key v hv
          cases hg.symm.trans hg'
        · obtain ⟨g', hg', hvg⟩ := hgoverned key v hv
          cases hg.symm.trans hg'
          exact ih key v hv ((validate_eq_ok_iff g _).mpr hvg) hvalidate
      | ok =>
        rw [hes, ok_bind] at h
        simp only [Bool.false_eq_true, if_false] at h
        split at h
        · next e' hlack =>
          cases h
          exact .inl (Dict.isLack_of_firstLack? hlack)
        · cases h
    · rw [validate_map_of_kind_ne hk] at hpart h
      cases hpart.symm.trans h

end Value

/-! ## The laws of partial validation -/

/-- What holds of partial beside full validation, for a check that is told which of them it is. -/
structure PartialLaws (check : Value → Bool → Except ValidationError Unit) : Prop where
  /-- Entries may be left out of whatever is valid, partially or fully. -/
  thinned : ∀ partially v w, check v partially = .ok () → v.Thinned w → check w true = .ok ()
  /-- What is partially valid fails to be valid only by what it lacks. -/
  lack : ∀ v e, check v true = .ok () → check v false = .error e →
    e.offence.isLack = true ∨ e.offence = .noMatchingElement
  /-- A lack is no offence against partial validity. -/
  noLack : ∀ v e, check v true = .error e → e.offence.isLack = false

theorem Field.partialLaws (f : Field) (name : String) :
    PartialLaws fun v partially => f.validate v name partially where
  thinned _ _ _ h hthinned :=
    (Value.validate_eq_ok_iff f name).mpr
      (((Value.validate_eq_ok_iff f name).mp h).thinned hthinned)
  lack _ _ := Value.isLack_or_of_validate
  noLack _ _ := Value.isLack_of_validate_partially

/-- Partial validation of fields and of schemas is closed under leaving out entries, and differs
from full validation by lacks alone. -/
theorem validate_partialLaws :
    (∀ (f : Field) (name : String), PartialLaws fun v partially => f.validate v name partially) ∧
      ∀ s : Schema, PartialLaws s.validate := by
  refine ⟨Field.partialLaws, fun s => ?_⟩
  have hfield := (Field.dict s.root).partialLaws ""
  have hroot : ∀ v partially, v ≠ .null →
      s.validate v partially = (Field.dict s.root).validate v "" partially := by
    intro v partially present
    cases v with
    | null => exact absurd rfl present
    | _ => rfl
  refine ⟨?_, ?_, ?_⟩
  · intro partially v w h hthinned
    obtain ⟨es, rfl, hconforms⟩ := Schema.validate_eq_ok_iff.mp h
    cases hthinned with
    | leaf plain => cases plain
    | map entries =>
      exact Schema.validate_eq_ok_iff.mpr ⟨_, rfl, hconforms.thinned (.map entries)⟩
  · intro v e hpart h
    obtain ⟨es, rfl, -⟩ := Schema.validate_eq_ok_iff.mp hpart
    exact hfield.lack _ e hpart h
  · intro v e h
    by_cases present : v = .null
    · subst present
      cases h
      rfl
    · rw [hroot v true present] at h
      exact hfield.noLack v e h

/-- Without its entry an element of a list matches another candidate, and lacks that one's entry. -/
theorem validate_partialLaws_trips :
    let trips := Schema.ofDict [(.name "trips", .list [.dict [(.name "train", .int)],
      .dict [(.name "ferry", .text)]])]
    let trip : Value := .map [("trips", .list [.map [("ferry", .text "Hoy")]])]
    let unknown : Value := .map [("trips", .list [.map []])]
    trips.validate trip false = .ok () ∧ trips.validate unknown true = .ok () ∧
      ∃ e, trips.validate unknown false = .error e ∧
        (e.offence.isLack = true ∨ e.offence = .noMatchingElement) := by
  intro trips trip unknown
  have htrip : trips.validate trip false = .ok () := toBool_eq_true_iff.mp (by decide +kernel)
  have hthinned : trip.Thinned unknown :=
    .map (.keep (.list (.cons (.map (.drop .nil)) .nil)) .nil)
  have hunknown := (validate_partialLaws.2 trips).thinned false trip unknown htrip hthinned
  have herror : trips.validate unknown false = .error ⟨"trips[0]", .noMatchingElement⟩ := rfl
  exact ⟨htrip, hunknown, _, herror, (validate_partialLaws.2 trips).lack _ _ hunknown herror⟩

end TypedDocument
