/-!
# Outcomes of steps that can fail

A sequence of steps succeeds exactly if each step does, so a success can be taken apart into the
successes of its steps.
-/

namespace TypedDocument

variable {ε α β : Type}

-- Not by `rfl`: rewriting by a definitional equation leaves the kernel to compare the two
-- computations, and it may then unfold the arithmetic inside them instead of the binds.
@[simp] theorem ok_bind (a : α) (f : α → Except ε β) : (Except.ok a >>= f) = f a := by
  cases h : f a <;> exact h

@[simp] theorem error_bind (e : ε) (f : α → Except ε β) : (Except.error e >>= f) = Except.error e :=
  rfl

@[simp] theorem pure_eq_ok (a : α) : (pure a : Except ε α) = .ok a := rfl

theorem bind_eq_ok_iff {x : Except ε α} {f : α → Except ε β} {b : β} :
    (x >>= f) = .ok b ↔ ∃ a, x = .ok a ∧ f a = .ok b := by
  cases x <;> simp

/-- As `bind_eq_ok_iff`, for a step that is taken only for its failure. -/
theorem check_bind_eq_ok_iff {x : Except ε Unit} {f : Unit → Except ε β} {b : β} :
    (x >>= f) = .ok b ↔ x = .ok () ∧ f () = .ok b := by
  cases x <;> simp

theorem map_eq_ok_iff {x : Except ε α} {f : α → β} {b : β} :
    x.map f = .ok b ↔ ∃ a, x = .ok a ∧ f a = b := by
  cases x <;> simp [Except.map]

theorem exists_map_eq_ok_iff {x : Except ε α} {f : α → β} :
    (∃ b, x.map f = .ok b) ↔ ∃ a, x = .ok a := by
  cases x <;> simp [Except.map]

/-- As `exists_map_eq_ok_iff`, for a function that is applied in a last step. -/
theorem exists_bind_eq_ok_iff {x : Except ε α} {f : α → β} :
    (∃ b, (x >>= fun a => pure (f a)) = .ok b) ↔ ∃ a, x = .ok a := by
  cases x <;> simp

@[simp] theorem toBool_eq_true_iff {x : Except ε Unit} : x.toBool = true ↔ x = .ok () := by
  cases x <;> simp [Except.toBool]

@[simp] theorem toOption_eq_some_iff {x : Except ε α} {a : α} :
    x.toOption = some a ↔ x = .ok a := by
  cases x <;> simp [Except.toOption]

/-! ## The error of a computation -/

/-- The error of a computation that fails. -/
def errorOf : Except ε α → Option ε
  | .error e => some e
  | .ok _ => none

@[simp] theorem errorOf_eq_some_iff {x : Except ε α} {e : ε} :
    errorOf x = some e ↔ x = .error e := by
  cases x <;> simp [errorOf]

theorem errorOf_eq_none_iff {x : Except ε α} : errorOf x = none ↔ ∃ a, x = .ok a := by
  cases x <;> simp [errorOf]

@[simp] theorem errorOf_map {x : Except ε α} {f : α → β} : errorOf (x.map f) = errorOf x := by
  cases x <;> rfl

/-- Of two computations in a row, the first one that fails has the error. -/
theorem errorOf_bind {x : Except ε α} {f : α → Except ε β} {o : Option ε}
    (h : ∀ a, errorOf (f a) = o) : errorOf (x >>= f) = (errorOf x).or o := by
  cases x with
  | error e => rfl
  | ok a => exact h a

/-! ## The first of several -/

/-- The first of several that something is said of, while something else is said of those before
it, is the head, or it comes after a head that the latter is said of. -/
theorem exists_split_cons_iff {p : α → Prop} {q : List α → α → Prop} {a : α} {l : List α} :
    (∃ before x after, a :: l = before ++ x :: after ∧ (∀ y ∈ before, p y) ∧ q before x) ↔
      q [] a ∨ p a ∧ ∃ before x after, l = before ++ x :: after ∧ (∀ y ∈ before, p y) ∧
        q (a :: before) x := by
  constructor
  · rintro ⟨before, x, after, hsplit, hbefore, hx⟩
    cases before with
    | nil =>
      cases hsplit
      exact .inl hx
    | cons b before =>
      cases hsplit
      obtain ⟨ha, hbefore⟩ := List.forall_mem_cons.mp hbefore
      exact .inr ⟨ha, before, x, after, rfl, hbefore, hx⟩
  · rintro (ha | ⟨ha, before, x, after, rfl, hbefore, hx⟩)
    · exact ⟨[], a, l, rfl, by simp, ha⟩
    · exact ⟨a :: before, x, after, rfl, List.forall_mem_cons.mpr ⟨ha, hbefore⟩, hx⟩

/-! ## Two computations side by side -/

/-- Two computations agree if both fail or both succeed, with related results. How they fail does
not matter. -/
def Agree {ε ε' : Type} (r : α → β → Prop) : Except ε α → Except ε' β → Prop
  | .ok a, .ok b => r a b
  | .error _, .error _ => True
  | _, _ => False

namespace Agree

variable {ε' γ δ : Type} {r : α → β → Prop} {s : γ → δ → Prop} {x : Except ε α} {y : Except ε' β}

theorem refl {r : α → α → Prop} (hr : ∀ a, r a a) (x : Except ε α) : Agree r x x := by
  cases x with
  | error => trivial
  | ok a => exact hr a

theorem of_eq_ok {a : α} (h : Agree r x y) (hx : x = .ok a) : ∃ b, y = .ok b ∧ r a b := by
  subst hx
  cases y with
  | error => cases h
  | ok b => exact ⟨b, rfl, h⟩

theorem ok_iff (h : Agree r x y) : (∃ a, x = .ok a) ↔ ∃ b, y = .ok b := by
  cases x <;> cases y <;> simp_all [Agree]

theorem rel {a : α} {b : β} (h : Agree r x y) (hx : x = .ok a) (hy : y = .ok b) : r a b := by
  subst hx hy
  exact h

theorem of_iff (hok : (∃ a, x = .ok a) ↔ ∃ b, y = .ok b)
    (hrel : ∀ a b, x = .ok a → y = .ok b → r a b) : Agree r x y := by
  cases x with
  | error =>
    cases y with
    | error => trivial
    | ok b => simpa using hok.mpr ⟨b, rfl⟩
  | ok a =>
    cases y with
    | error => simpa using hok.mp ⟨a, rfl⟩
    | ok b => exact hrel a b rfl rfl

/-- The second steps need to agree only on what the first ones give. -/
theorem bind_of_eq_ok {f : α → Except ε γ} {g : β → Except ε' δ} (h : Agree r x y)
    (hfg : ∀ a b, x = .ok a → r a b → Agree s (f a) (g b)) : Agree s (x >>= f) (y >>= g) := by
  cases x with
  | error =>
    cases y with
    | error => trivial
    | ok => cases h
  | ok a =>
    cases y with
    | error => cases h
    | ok b =>
      rw [ok_bind, ok_bind]
      exact hfg a b rfl h

theorem bind {f : α → Except ε γ} {g : β → Except ε' δ} (h : Agree r x y)
    (hfg : ∀ a b, r a b → Agree s (f a) (g b)) : Agree s (x >>= f) (y >>= g) :=
  h.bind_of_eq_ok fun a b _ => hfg a b

theorem map {f : α → γ} {g : β → δ} (h : Agree r x y) (hfg : ∀ a b, r a b → s (f a) (g b)) :
    Agree s (x.map f) (y.map g) := by
  cases x with
  | error =>
    cases y with
    | error => trivial
    | ok => cases h
  | ok a =>
    cases y with
    | error => cases h
    | ok b => exact hfg a b h

end Agree

end TypedDocument
