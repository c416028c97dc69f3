import TypedDocument.Entries
import TypedDocument.Proofs.Outcome

/-!
# Entries one after the other

Encoding, decoding and writing a mapping, and reading the declaration of one, all go through the
entries in order, make something of each under the same key, and fail as soon as one entry does.
The success of such a traversal is the success of every single step.
-/

namespace TypedDocument.Entries

variable {ε κ α β : Type}

/-- Makes something of every entry, or fails with the first entry that cannot be used. -/
def traverse (step : κ → α → Except ε β) : Entries κ α → Except ε (Entries κ β)
  | [] => .ok []
  | (key, a) :: rest => do
    let b ← step key a
    let bs ← traverse step rest
    return (key, b) :: bs

variable {step : κ → α → Except ε β} {key : κ} {a : α} {es : Entries κ α} {ws : Entries κ β}

theorem traverse_cons_eq_ok_iff :
    traverse step ((key, a) :: es) = .ok ws ↔
      ∃ b, step key a = .ok b ∧ ∃ bs, traverse step es = .ok bs ∧ (key, b) :: bs = ws := by
  simp [traverse, bind_eq_ok_iff]

theorem traverse_ok_iff :
    (∃ ws, traverse step es = .ok ws) ↔ ∀ key a, (key, a) ∈ es → ∃ b, step key a = .ok b := by
  induction es with
  | nil => simp [traverse]
  | cons e rest ih =>
    obtain ⟨k, v⟩ := e
    simp only [traverse_cons_eq_ok_iff, List.mem_cons, Prod.mk.injEq]
    constructor
    · rintro ⟨_, b, hb, bs, hbs, rfl⟩ key a (⟨rfl, rfl⟩ | ha)
      · exact ⟨b, hb⟩
      · exact ih.mp ⟨bs, hbs⟩ key a ha
    · intro h
      obtain ⟨b, hb⟩ := h k v (.inl ⟨rfl, rfl⟩)
      obtain ⟨bs, hbs⟩ := ih.mpr fun key a ha => h key a (.inr ha)
      exact ⟨_, b, hb, bs, hbs, rfl⟩

/-- A traversal keeps the keys and their order. -/
theorem keys_traverse (h : traverse step es = .ok ws) : keys ws = keys es := by
  induction es generalizing ws with
  | nil =>
    cases h
    rfl
  | cons e rest ih =>
    obtain ⟨b, -, bs, hbs, rfl⟩ := traverse_cons_eq_ok_iff.mp h
    exact congrArg (e.1 :: ·) (ih hbs)

theorem mem_traverse (h : traverse step es = .ok ws) :
    ∀ key b, (key, b) ∈ ws → ∃ a, (key, a) ∈ es ∧ step key a = .ok b := by
  induction es generalizing ws with
  | nil =>
    cases h
    simp
  | cons e rest ih =>
    obtain ⟨k, v⟩ := e
    obtain ⟨b, hb, bs, hbs, rfl⟩ := traverse_cons_eq_ok_iff.mp h
    intro key c hc
    rcases List.mem_cons.mp hc with hc | hc
    · cases hc
      exact ⟨v, List.mem_cons_self, hb⟩
    · obtain ⟨a, ha, hac⟩ := ih hbs key c hc
      exact ⟨a, List.mem_cons_of_mem _ ha, hac⟩

/-- A traversal makes each entry of the one at its place. -/
theorem getElem?_traverse {key' : κ} {b : β} {i : Nat} (h : traverse step es = .ok ws)
    (ha : es[i]? = some (key, a)) (hb : ws[i]? = some (key', b)) : step key a = .ok b := by
  induction es generalizing ws i with
  | nil => simp at ha
  | cons entry rest ih =>
    obtain ⟨c, hc, ws', hws', rfl⟩ := traverse_cons_eq_ok_iff.mp h
    cases i with
    | zero =>
      cases ha
      cases hb
      exact hc
    | succ i => exact ih hws' (by simpa using ha) (by simpa using hb)

theorem traverse_congr {step' : κ → α → Except ε β}
    (h : ∀ key a, (key, a) ∈ es → step key a = step' key a) :
    traverse step es = traverse step' es := by
  induction es with
  | nil => rfl
  | cons e rest ih =>
    obtain ⟨k, v⟩ := e
    rw [traverse, traverse, h k v List.mem_cons_self,
      ih fun key a ha => h key a (List.mem_cons_of_mem _ ha)]

end TypedDocument.Entries
