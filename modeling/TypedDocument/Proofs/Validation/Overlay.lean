import TypedDocument.Proofs.Schema.Document
import TypedDocument.Schema.Creation

/-!
# Overlaying valid documents

An overlay knows nothing of schemas, but the field of a key depends on the key alone. So the old
and the new value at a key conform to one field, and what the overlay makes of them conforms to
it too: two mappings are overlaid under the fields of one dict, a mapping that takes the place of
another value starts from the empty one, and every other value is taken over as it is. An overlay
never loses a key, which is all that a complete mapping needs beyond its values.
-/

namespace TypedDocument

variable {partially skipNull : Bool} {d : Dict} {key : String} {es target : Mapping} {f : Field}

/-- All entries of a mapping conform to the fields that govern them. Nothing is said about the
entries it lacks. -/
def Mapping.Governed (partially : Bool) (d : Dict) (es : Mapping) : Prop :=
  ∀ key v, (key, v) ∈ es → ∃ f, d.field? key = some f ∧ Value.Conforms partially v f

theorem Mapping.governed_nil : Mapping.Governed partially d [] := fun _ _ h => by cases h

theorem Mapping.Governed.put {v : Value} (h : Mapping.Governed partially d es)
    (hf : d.field? key = some f) (hv : v.Conforms partially f) :
    Mapping.Governed partially d (Entries.put key v es) := by
  intro k w hw
  rcases Entries.mem_put hw with ⟨rfl, rfl⟩ | hw
  · exact ⟨f, hf, hv⟩
  · exact h k w hw

/-- What the overlay of a nested mapping starts from is governed by the dict of the field. -/
theorem Mapping.Governed.below {nested : Dict} (h : Mapping.Governed partially d es)
    (hf : d.field? key = some f) (hk : f.kind = .dict nested) :
    Mapping.Governed partially nested (Mapping.below key es) := by
  rw [Mapping.below]
  split
  · next sub hsub =>
    obtain ⟨g, hg, hconforms⟩ := h key _ (Entries.mem_of_get?_eq_some hsub)
    rw [hf] at hg
    cases hg
    exact ((Value.conforms_map_iff hk).mp hconforms).1
  · exact governed_nil

/-- Under a field that does not describe entries one mapping conforms if another does: the field
is for any value. -/
theorem Value.conforms_map_of_kind_ne {sub : Mapping} (hk : ∀ d, f.kind ≠ .dict d)
    (h : (Value.map sub).Conforms partially f) : (Value.map es).Conforms partially f := by
  have haccepts := accepts_of_conforms (by simp) h
  cases hkind : f.kind with
  | any =>
    exact (conforms_iff_accepts (by simp) (by simp) fun _ _ _ => hk _).mpr
      ⟨by rw [hkind]; rfl, by rw [hkind]; trivial⟩
  | dict nested => exact absurd hkind (hk nested)
  | _ => simp [hkind, FieldKind.accepts] at haccepts

/-! ## Keys -/

theorem Value.mem_keys_overlayAt_of_mem {k : String} (v : Value) (h : k ∈ Entries.keys target) :
    k ∈ Entries.keys (v.overlayAt skipNull key target) := by
  have hput : ∀ w, k ∈ Entries.keys (Entries.put key w target) :=
    fun _ => Entries.mem_keys_put_iff.mpr (.inr h)
  cases v with
  | null =>
    rw [overlayAt]
    split
    · exact h
    · exact hput _
  | _ => exact hput _

theorem Value.mem_keys_overlayAt (v : Value) :
    key ∈ Entries.keys (v.overlayAt false key target) := by
  cases v <;> exact Entries.mem_keys_put_iff.mpr (.inl rfl)

/-- An overlay keeps the keys of the target. -/
theorem Mapping.mem_keys_overlay_of_mem {k : String} (es : Mapping)
    (h : k ∈ Entries.keys target) : k ∈ Entries.keys (Mapping.overlay skipNull es target) := by
  induction es generalizing target with
  | nil => exact h
  | cons e rest ih => exact ih (e.2.mem_keys_overlayAt_of_mem h)

/-- Unless nulls are left out, an overlay brings in all its keys. -/
theorem Mapping.mem_keys_overlay {k : String} (h : k ∈ Entries.keys es) :
    k ∈ Entries.keys (Mapping.overlay false es target) := by
  induction es generalizing target with
  | nil => cases h
  | cons e rest ih =>
    rcases List.mem_cons.mp h with rfl | h
    · exact mem_keys_overlay_of_mem rest e.2.mem_keys_overlayAt
    · exact ih h

theorem Dict.CompletedBy.mono {keys more : List String} (h : d.CompletedBy keys)
    (hsub : ∀ k ∈ keys, k ∈ more) : d.CompletedBy more where
  names n f hmem hf := hsub n (h.names n f hmem hf)
  types t f hmem hf :=
    have ⟨k, hk, htype⟩ := h.types t f hmem hf
    ⟨k, hsub k hk, htype⟩

/-! ## One value, and one after the other -/

/-- Bringing in one value after the other keeps the entries governed, if bringing in each of them
does. -/
theorem Mapping.governed_overlay_of_values {es : Mapping}
    (ih : ∀ key v, (key, v) ∈ es → ∀ target, Mapping.Governed partially d target →
      Mapping.Governed partially d (v.overlayAt skipNull key target)) :
    ∀ target, Mapping.Governed partially d target →
      Mapping.Governed partially d (Mapping.overlay skipNull es target) := by
  induction es with
  | nil => exact fun _ h => h
  | cons e rest ihrest =>
    obtain ⟨key, v⟩ := e
    intro target htarget
    have hrest := ihrest fun k w hw => ih k w (List.mem_cons_of_mem _ hw)
    exact hrest _ (ih key v List.mem_cons_self target htarget)

/-- The overlay of two mappings of one dict. What the target lacks the overlay has, unless missing
entries do not matter; only in that case may nulls be left out. -/
theorem Value.conforms_overlay (hskip : skipNull = true → partially = true)
    (hk : f.kind = .dict d) (htarget : Mapping.Governed partially d target)
    (hes : (Value.map es).Conforms partially f)
    (ih : ∀ key v, (key, v) ∈ es → ∀ (g : Field) (target : Mapping), d.field? key = some g →
      v.Conforms partially g → Mapping.Governed partially d target →
      Mapping.Governed partially d (v.overlayAt skipNull key target)) :
    (Value.map (Mapping.overlay skipNull es target)).Conforms partially f := by
  obtain ⟨hgoverned, hcomplete⟩ := (conforms_map_iff hk).mp hes
  refine (conforms_map_iff hk).mpr ⟨?_, ?_⟩
  · apply Mapping.governed_overlay_of_values ?_ target htarget
    intro key v hv target htarget
    obtain ⟨g, hg, hconforms⟩ := hgoverned key v hv
    exact ih key v hv g target hg hconforms htarget
  · intro hfull
    have hnull : skipNull = false := by
      cases skipNull with
      | false => rfl
      | true => rw [hskip rfl] at hfull; cases hfull
    subst hnull
    exact (hcomplete hfull).mono fun _ hkey => Mapping.mem_keys_overlay hkey

/-- Bringing in one value keeps the entries governed. -/
theorem Value.governed_overlayAt (hskip : skipNull = true → partially = true) (v : Value) :
    ∀ (d : Dict) (key : String) (f : Field) (target : Mapping), d.field? key = some f →
      v.Conforms partially f → Mapping.Governed partially d target →
      Mapping.Governed partially d (v.overlayAt skipNull key target) := by
  induction v using containerInduction with
  | leaf v hv =>
    intro d key f target hf hconforms htarget
    have hput := htarget.put hf hconforms
    cases v with
    | null =>
      rw [overlayAt]
      split
      · exact htarget
      · exact hput
    | list => cases hv
    | map => cases hv
    | _ => exact hput
  | list items =>
    intro d key f target hf hconforms htarget
    exact htarget.put hf hconforms
  | map sub ih =>
    intro d key f target hf hconforms htarget
    refine htarget.put hf ?_
    rcases f.kind.eq_dict_or_ne with ⟨nested, hk⟩ | hne
    · apply conforms_overlay hskip hk (htarget.below hf hk) hconforms
      exact fun k w hw g below => ih k w hw nested k g below
    · exact conforms_map_of_kind_ne hne hconforms

namespace Schema

variable {s : Schema}

/-- The overlay of two documents that validate does too, if nulls are left out only where missing
entries do not matter. -/
theorem validate_overlay (hskip : skipNull = true → partially = true)
    (htarget : s.validate (.map target) partially = .ok ())
    (hes : s.validate (.map es) partially = .ok ()) :
    s.validate (.map (Mapping.overlay skipNull es target)) partially = .ok () := by
  have conforms_of : ∀ {es}, s.validate (.map es) partially = .ok () →
      (Value.map es).Conforms partially (Field.dict s.root) := by
    intro es h
    obtain ⟨_, heq, hconforms⟩ := validate_eq_ok_iff.mp h
    exact heq ▸ hconforms
  have hgoverned := ((Value.conforms_map_iff rfl).mp (conforms_of htarget)).1
  refine validate_eq_ok_iff.mpr ⟨_, rfl, ?_⟩
  apply Value.conforms_overlay hskip rfl hgoverned (conforms_of hes)
  exact fun key v _ => v.governed_overlayAt hskip s.root key

/-- Overlaying documents keeps them valid: partially in any case, fully if nulls are not left out.
A new document that is laid under an initial one is a case of it. -/
theorem overlay_valid (s : Schema) (target es : Mapping) :
    (∀ skipNull, s.validate (.map target) true = .ok () → s.validate (.map es) true = .ok () →
      s.validate (.map (Mapping.overlay skipNull es target)) true = .ok ()) ∧
    (s.validate (.map target) false = .ok () → s.validate (.map es) false = .ok () →
      s.validate (.map (Mapping.overlay false es target)) false = .ok ()) ∧
    ∀ c, s.validate (s.create c).1 true = .ok () → s.validate (.map es) true = .ok () →
      s.validate (s.createFrom es c).1 true = .ok () := by
  refine ⟨?_, ?_, ?_⟩
  · intro skipNull
    exact validate_overlay fun _ => rfl
  · apply validate_overlay
    exact fun h => (Bool.false_ne_true h).elim
  · intro c
    exact validate_overlay fun _ => rfl

/-- A mapping takes the place of a null, a null that of a number, and a text gets a number as its
neighbour. -/
theorem overlay_valid_diary :
    let text := Field.text.withNullable true
    let diary := ofDict [(.name "day", (Field.dict [(.name "note", text)]).withNullable true),
      (.name "mood", Field.int.withNullable true), (.type .integer, Field.any)]
    let old : Mapping := [("day", .null), ("mood", .int 3), ("7", .text "a")]
    let new : Mapping := [("day", .map [("note", .null)]), ("mood", .null), ("8", .int 1)]
    let empty : Mapping := [("8", .text "b")]
    (diary.validate (.map (Mapping.overlay true new old)) true = .ok () ∧
      diary.validate (.map (Mapping.overlay false new old)) false = .ok ()) ∧
    diary.validate (diary.createFrom empty .fresh).1 true = .ok () := by
  intro text diary old new empty
  have hold : diary.validate (.map old) false = .ok () :=
    toBool_eq_true_iff.mp (by decide +kernel)
  have hnew : diary.validate (.map new) false = .ok () :=
    toBool_eq_true_iff.mp (by decide +kernel)
  have holdPart : diary.validate (.map old) true = .ok () :=
    toBool_eq_true_iff.mp (by decide +kernel)
  have hnewPart : diary.validate (.map new) true = .ok () :=
    toBool_eq_true_iff.mp (by decide +kernel)
  have hcreate : diary.validate (diary.create .fresh).1 true = .ok () :=
    toBool_eq_true_iff.mp (by decide +kernel)
  have hempty : diary.validate (.map empty) true = .ok () :=
    toBool_eq_true_iff.mp (by decide +kernel)
  refine ⟨⟨?_, ?_⟩, ?_⟩
  · exact (overlay_valid diary old new).1 true holdPart hnewPart
  · exact (overlay_valid diary old new).2.1 hold hnew
  · exact (overlay_valid diary old empty).2.2 .fresh hcreate hempty

end Schema

end TypedDocument
