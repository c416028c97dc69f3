import TypedDocument.Document.Json
import TypedDocument.Proofs.Document.Containers
import TypedDocument.Proofs.Traversal

/-!
# Through JSON and back

A value that has a JSON form comes back from it with one change: JSON does not tell the widths
of integers apart, so a 64-bit integer that fits 32 bits comes back as one of 32 bits.
-/

namespace TypedDocument

/-- A 64-bit integer that fits 32 bits survives the shorter form. -/
theorem toInt64_toInt32_of_fitsInt32 {i : Int64} (h : fitsInt32 i.toInt = true) :
    i.toInt32.toInt64 = i := by
  apply Int64.toInt_inj.mp
  rw [Int32.toInt_toInt64, ← Int32.ofInt_int64ToInt, toInt_ofInt_of_fitsInt32 h]

namespace Value

mutual

/-- A value with every integer in the smallest type it fits. -/
def narrowed : Value → Value
  | long i => if fitsInt32 i.toInt then int i.toInt32 else long i
  | list items => list (narrowedItems items)
  | map es => map (narrowedEntries es)
  | v => v
termination_by structural v => v

def narrowedItems : List Value → List Value
  | [] => []
  | v :: rest => narrowed v :: narrowedItems rest
termination_by structural items => items

def narrowedEntries : List (String × Value) → List (String × Value)
  | [] => []
  | (key, v) :: rest => (key, narrowed v) :: narrowedEntries rest
termination_by structural entries => entries

end

@[simp] theorem ofInteger_toInt32 (i : Int32) : ofInteger i.toInt = int i := by
  simp [ofInteger]

@[simp] theorem ofInteger_toInt64 (i : Int64) : ofInteger i.toInt = narrowed (long i) := by
  simp [ofInteger, narrowed]

/-! ## The parts of a JSON form -/

theorem toJson_list_eq_ok_iff {items : List Value} {j : Json} :
    toJson (list items) = .ok j ↔ ∃ js, toJsonItems items = .ok js ∧ .array js = j := by
  rw [toJson, map_eq_ok_iff]

theorem toJson_map_eq_ok_iff {es : Mapping} {j : Json} :
    toJson (map es) = .ok j ↔ ∃ ms, toJsonMembers es = .ok ms ∧ .object ms = j := by
  rw [toJson, map_eq_ok_iff]

theorem toJsonItems_cons_eq_ok_iff {v : Value} {rest : List Value} {js : List Json} :
    toJsonItems (v :: rest) = .ok js ↔
      ∃ j, toJson v = .ok j ∧ ∃ js', toJsonItems rest = .ok js' ∧ j :: js' = js := by
  simp [toJsonItems, bind_eq_ok_iff]

theorem toJsonMembers_eq_traverse (es : Mapping) :
    toJsonMembers es = Entries.traverse (fun _ v => v.toJson) es := by
  induction es with
  | nil => rfl
  | cons e rest ih => rw [toJsonMembers, Entries.traverse, ih]

theorem toJsonMembers_cons_eq_ok_iff {key : String} {v : Value} {rest : Mapping}
    {ms : List (String × Json)} :
    toJsonMembers ((key, v) :: rest) = .ok ms ↔
      ∃ j, toJson v = .ok j ∧ ∃ ms', toJsonMembers rest = .ok ms' ∧ (key, j) :: ms' = ms := by
  simp [toJsonMembers, bind_eq_ok_iff]

/-- What has a JSON form comes back from it with its integers in the smallest type they fit. -/
theorem ofJson_of_toJson {v : Value} : ∀ j, v.toJson = .ok j → ofJson j = v.narrowed := by
  induction v using containerInduction with
  | leaf v hv =>
    intro j h
    cases v with
    | list items => simp [isContainer] at hv
    | map es => simp [isContainer] at hv
    | int i =>
      cases h
      rw [ofJson, ofInteger_toInt32, narrowed]
      all_goals simp
    | long i =>
      cases h
      rw [ofJson, ofInteger_toInt64]
    | float x =>
      simp only [toJson] at h
      split at h
      · cases h
        simp [ofJson, narrowed]
      · cases h
    | null | bool | text =>
      cases h
      simp [ofJson, narrowed]
    | dateTime | date | time | field => cases h
  | list items ih =>
    intro j h
    obtain ⟨js, hjs, rfl⟩ := toJson_list_eq_ok_iff.mp h
    rw [ofJson, narrowed, list.injEq]
    clear h
    induction items generalizing js with
    | nil =>
      cases hjs
      rfl
    | cons v rest ihrest =>
      obtain ⟨j, hj, js', hjs', rfl⟩ := toJsonItems_cons_eq_ok_iff.mp hjs
      rw [ofJsonItems, narrowedItems, ih v List.mem_cons_self j hj,
        ihrest (fun w hw => ih w (List.mem_cons_of_mem v hw)) js' hjs']
  | map es ih =>
    intro j h
    obtain ⟨ms, hms, rfl⟩ := toJson_map_eq_ok_iff.mp h
    rw [ofJson, narrowed, map.injEq]
    clear h
    induction es generalizing ms with
    | nil =>
      cases hms
      rfl
    | cons e rest ihrest =>
      obtain ⟨key, v⟩ := e
      obtain ⟨j, hj, ms', hms', rfl⟩ := toJsonMembers_cons_eq_ok_iff.mp hms
      rw [ofJsonMembers, narrowedEntries, ih key v List.mem_cons_self j hj,
        ihrest (fun k w hw => ih k w (List.mem_cons_of_mem _ hw)) ms' hms']

end Value

end TypedDocument
