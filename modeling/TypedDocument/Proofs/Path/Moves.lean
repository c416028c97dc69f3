import TypedDocument.Path.Access
import TypedDocument.Proofs.Reordering.Basic

/-!
# Moving values along keys

Taking a value out of a document and writing it back where it was gives the document again, up to
the order of entries: the key comes back at the end of its mapping. A value written where there was
none, into mappings that are there already, can be taken out again and leaves no trace. Both hold in
whatever order the entries stand meanwhile.
-/

namespace TypedDocument.Value

/-- Keys lead to a value, and the last value remains when it is taken out. -/
inductive Removes : List String → Value → Value → Value → Prop where
  | last {key : String} {es : Mapping} {c : Value} (found : Entries.get? key es = some c) :
    Removes [key] (map es) c (map (Entries.erase key es))
  | along {key : String} {keys : List String} {es : Mapping} {c old c' : Value}
    (found : Entries.get? key es = some c) (removes : Removes keys c old c') :
    Removes (key :: keys) (map es) old (map (Entries.put key c' es))

variable {v w old rem new : Value} {keys : List String}

theorem Removes.keys_ne_nil (h : Removes keys v old rem) : keys ≠ [] := by
  cases h <;> exact List.cons_ne_nil _ _

theorem Removes.exists_map (h : Removes keys v old rem) : ∃ es, rem = map es := by
  cases h <;> exact ⟨_, rfl⟩

theorem remove?_of_removes (h : Removes keys v old rem) :
    remove? (keys.map .key) v = some (old, rem) := by
  induction h with
  | last found =>
    rw [List.map_cons, List.map_nil, remove?, child?, found]
    rfl
  | @along key keys es c old c' found removes ih =>
    cases keys with
    | nil => exact absurd rfl removes.keys_ne_nil
    | cons k rest =>
      rw [List.map_cons] at ih ⊢
      rw [List.map_cons, remove?, child?, found]
      · exact congrArg (Option.bind · fun p => some (p.1, map (Entries.put key p.2 es))) ih
      · simp

theorem removes_of_remove? (h : remove? (keys.map .key) v = some (old, rem)) :
    Removes keys v old rem := by
  induction keys generalizing v rem with
  | nil => cases h
  | cons key rest ih =>
    have hchild : ∃ es c, v = map es ∧ Entries.get? key es = some c := by
      cases v with
      | map es =>
        cases hc : Entries.get? key es with
        | some c => exact ⟨es, c, rfl, hc⟩
        | none => cases rest <;> simp [remove?, child?, hc] at h
      | _ => cases rest <;> cases h
    obtain ⟨es, c, rfl, hc⟩ := hchild
    cases rest with
    | nil =>
      simp only [List.map_cons, List.map_nil, remove?, child?, hc, Option.map_some,
        Option.some.injEq, Prod.mk.injEq] at h
      obtain ⟨rfl, rfl⟩ := h
      exact .last hc
    | cons k more =>
      simp only [List.map_cons, remove?, child?, hc, Option.bind_eq_bind, Option.bind_some] at h ih
      obtain ⟨⟨old', c'⟩, hold, heq⟩ := Option.bind_eq_some_iff.mp h
      cases heq
      exact .along hc (ih hold)

theorem remove?_eq_some_iff :
    remove? (keys.map .key) v = some (old, rem) ↔ Removes keys v old rem :=
  ⟨removes_of_remove?, remove?_of_removes⟩

/-! ## Reading -/

theorem at?_cons_map (key : String) (keys : List String) (es : Mapping) :
    (map es).at? ((key :: keys).map .key) =
      (Entries.get? key es).bind fun c => c.at? (keys.map .key) := rfl

theorem Removes.at? (h : Removes keys v old rem) : v.at? (keys.map .key) = some old := by
  induction h with
  | last found => rw [at?_cons_map, found]; rfl
  | along found _ ih =>
    rw [at?_cons_map, found]
    exact ih

theorem at?_reordered (keys : List String) (h : v.Reordered w) :
    Option.Rel Value.Reordered (v.at? (keys.map .key)) (w.at? (keys.map .key)) := by
  induction keys generalizing v w with
  | nil => exact .some h
  | cons key rest ih =>
    cases h with
    | @map es es' distinct distinct' keys values =>
      have hes : Entries.Reordered Value.Reordered es es' := ⟨distinct, distinct', keys, values⟩
      have hkey := hes.get? key
      rw [at?_cons_map, at?_cons_map]
      generalize Entries.get? key es = o at hkey ⊢
      generalize Entries.get? key es' = o' at hkey ⊢
      cases hkey with
      | none => exact .none
      | some hc => exact ih hc
    | leaf plain =>
      cases v with
      | map => cases plain
      | _ => exact .none
    | _ => exact .none

/-! ## Taking out -/

/-- Taking a value out does not make a way where there was none. -/
theorem Removes.at?_eq_none (h : Removes keys v old rem) :
    v.Reordered v → ∀ {target : List String}, v.at? (target.map .key) = none →
      rem.at? (target.map .key) = none := by
  induction h with
  | @last key es c found =>
    intro hv target htarget
    cases target with
    | nil => cases htarget
    | cons t more =>
      rw [at?_cons_map, Entries.get?_erase (reordered_map_iff.mp hv).distinct]
      split
      · rfl
      · exact htarget
  | @along key keys es c old c' found removes ih =>
    intro hv target htarget
    have hes := reordered_map_iff.mp hv
    cases target with
    | nil => cases htarget
    | cons t more =>
      rw [at?_cons_map] at htarget
      rw [at?_cons_map, Entries.get?_put]
      split
      · next ht =>
        cases eq_of_beq ht
        rw [found] at htarget
        have hc := Entries.mem_of_get?_eq_some found
        exact ih (hes.values key c c hc hc) htarget
      · exact htarget

/-- A mapping is the same up to order only as a mapping. -/
theorem reordered_map_right {es : Mapping} (h : w.Reordered (map es)) :
    ∃ es', w = map es' ∧ Entries.Reordered Value.Reordered es' es := by
  cases h with
  | leaf plain => cases plain
  | map distinct distinct' keys values => exact ⟨_, rfl, distinct, distinct', keys, values⟩

theorem found_reordered {es es' : Mapping} {key : String} {c : Value}
    (h : Entries.Reordered Value.Reordered es' es) (found : Entries.get? key es = some c) :
    ∃ c', Entries.get? key es' = some c' ∧ c'.Reordered c := by
  have hkey := h.get? key
  rw [found] at hkey
  generalize Entries.get? key es' = o at hkey ⊢
  cases hkey with
  | some hc => exact ⟨_, rfl, hc⟩

/-- Values are taken out alike in whatever order the entries stand. -/
theorem Removes.reordered (h : Removes keys v old rem) :
    ∀ {w : Value}, w.Reordered v →
      ∃ old' rem', Removes keys w old' rem' ∧ old'.Reordered old ∧ rem'.Reordered rem := by
  induction h with
  | @last key es c found =>
    intro w hw
    obtain ⟨es', rfl, hes⟩ := reordered_map_right hw
    obtain ⟨c', hc', hc⟩ := found_reordered hes found
    exact ⟨c', _, .last hc', hc, reordered_map_iff.mpr hes.erase⟩
  | @along key keys es c old rem found removes ih =>
    intro w hw
    obtain ⟨es', rfl, hes⟩ := reordered_map_right hw
    obtain ⟨c', hc', hc⟩ := found_reordered hes found
    obtain ⟨old', rem', hremoves, hold, hrem⟩ := ih hc
    exact ⟨old', _, .along hc' hremoves, hold, reordered_map_iff.mpr (hes.put hrem)⟩

theorem Removes.proper (h : Removes keys v old rem) (hv : v.Reordered v) :
    old.Reordered old ∧ rem.Reordered rem := by
  obtain ⟨old', rem', hremoves, hold, hrem⟩ := h.reordered hv
  have hsame : some (old', rem') = some (old, rem) :=
    (remove?_of_removes hremoves).symm.trans (remove?_of_removes h)
  cases hsame
  exact ⟨hold, hrem⟩

/-! ## Writing back -/

theorem write_cons_map (limit : Nat) (key : String) (keys : List String) (es : Mapping)
    (new : Value) :
    write limit new ((key :: keys).map .key) (map es) =
      (map (Entries.put key
          (write limit new (keys.map .key) (room (keys.map .key) (Entries.get? key es))).1 es),
        (write limit new (keys.map .key) (room (keys.map .key) (Entries.get? key es))).2) := rfl

/-- A mapping is room for whatever comes below it. -/
@[simp] theorem room_map (rest : List Segment) (es : Mapping) :
    room rest (some (map es)) = map es := rfl

/-- What was taken out can be written back where it was. The entries may have changed their order
in the meantime. -/
theorem Removes.write_back (limit : Nat) (h : Removes keys v old rem) :
    v.Reordered v → ∀ {old' rem' : Value}, old'.Reordered old → rem'.Reordered rem →
      ∃ w, write limit old' (keys.map .key) rem' = (w, none) ∧ w.Reordered v := by
  induction h with
  | @last key es c found =>
    intro hv old' rem' hold hrem
    have hes := reordered_map_iff.mp hv
    obtain ⟨es', rfl, hes'⟩ := reordered_map_right hrem
    refine ⟨map (Entries.put key old' es'), rfl, reordered_map_iff.mpr ?_⟩
    refine Entries.reordered_of_get? hes'.distinct.put hes.distinct ?_
    intro k
    have hk := hes'.get? k
    rw [Entries.get?_erase hes.distinct] at hk
    rw [Entries.get?_put]
    split
    · next heq =>
      cases eq_of_beq heq
      rw [found]
      exact .some hold
    · next hne =>
      rw [if_neg hne] at hk
      exact hk
  | @along key keys es c old rem found removes ih =>
    intro hv old' rem' hold hrem
    have hes := reordered_map_iff.mp hv
    have hc := Entries.mem_of_get?_eq_some found
    obtain ⟨es', rfl, hes'⟩ := reordered_map_right hrem
    obtain ⟨c', hc', hrem'⟩ := found_reordered hes' Entries.get?_put_self
    obtain ⟨w, hw, hwc⟩ := ih (hes.values key c c hc hc) hold hrem'
    obtain ⟨sub, rfl⟩ := removes.exists_map
    obtain ⟨sub', rfl, -⟩ := reordered_map_right hrem'
    refine ⟨map (Entries.put key w es'), ?_, reordered_map_iff.mpr ?_⟩
    · rw [write_cons_map, hc', room_map, hw]
    · refine Entries.reordered_of_get? hes'.distinct.put hes.distinct ?_
      intro k
      have hk := hes'.get? k
      rw [Entries.get?_put] at hk ⊢
      split
      · next heq =>
        cases eq_of_beq heq
        rw [found]
        exact .some hwc
      · next hne =>
        rw [if_neg hne] at hk
        exact hk

/-! ## Writing where there was nothing -/

/-- Keys lead to no value, but through mappings up to the last of them. -/
inductive Vacant : List String → Value → Prop where
  | last {key : String} {es : Mapping} (free : Entries.get? key es = none) : Vacant [key] (map es)
  | along {key : String} {keys : List String} {es sub : Mapping}
    (found : Entries.get? key es = some (map sub)) (vacant : Vacant keys (map sub)) :
    Vacant (key :: keys) (map es)

theorem vacant_of_at? (hfree : v.at? (keys.map .key) = none)
    (hparents : ∀ parent, parent <+: keys → parent ≠ keys →
      ∃ es, v.at? (parent.map .key) = some (map es)) : Vacant keys v := by
  induction keys generalizing v with
  | nil => cases hfree
  | cons key rest ih =>
    obtain ⟨es, hes⟩ := hparents [] List.nil_prefix (List.cons_ne_nil _ _).symm
    cases hes
    rw [at?_cons_map] at hfree
    cases rest with
    | nil =>
      cases hc : Entries.get? key es with
      | none => exact .last hc
      | some c =>
        rw [hc] at hfree
        cases hfree
    | cons k more =>
      have hbelow : ∀ parent, parent <+: k :: more → parent ≠ k :: more →
          ∃ c, Entries.get? key es = some c ∧ ∃ sub, c.at? (parent.map .key) = some (map sub) := by
        intro parent hprefix hne
        obtain ⟨sub, hsub⟩ := hparents (key :: parent) (List.cons_prefix_cons.mpr ⟨rfl, hprefix⟩)
          (by simpa using hne)
        rw [at?_cons_map] at hsub
        obtain ⟨c, hc, hsub⟩ := Option.bind_eq_some_iff.mp hsub
        exact ⟨c, hc, sub, hsub⟩
      obtain ⟨c, hc, sub, hsub⟩ := hbelow [] List.nil_prefix (List.cons_ne_nil _ _).symm
      cases hsub
      rw [hc] at hfree
      refine .along hc (ih hfree ?_)
      intro parent hprefix hne
      obtain ⟨c', hc', hsub⟩ := hbelow parent hprefix hne
      rw [hc] at hc'
      cases hc'
      exact hsub

/-- A value written to a vacant place can be taken out again, and what it was written into
remains. -/
theorem Vacant.write (limit : Nat) (h : Vacant keys v) (hnew : new.Reordered new) :
    v.Reordered v → ∃ w, Value.write limit new (keys.map .key) v = (w, none) ∧ w.Reordered w ∧
      Removes keys w new v := by
  induction h with
  | @last key es free =>
    intro hv
    refine ⟨map (Entries.put key new es), rfl, ?_, ?_⟩
    · exact reordered_map_iff.mpr ((reordered_map_iff.mp hv).put hnew)
    · have hremoves : Removes [key] (map (Entries.put key new es)) new _ :=
        .last Entries.get?_put_self
      rwa [Entries.erase_put_of_not_mem (Entries.get?_eq_none_iff.mp free)] at hremoves
  | @along key keys es sub found vacant ih =>
    intro hv
    have hes := reordered_map_iff.mp hv
    have hsub := Entries.mem_of_get?_eq_some found
    obtain ⟨w, hw, hproper, hremoves⟩ := ih (hes.values key _ _ hsub hsub)
    refine ⟨map (Entries.put key w es), ?_, reordered_map_iff.mpr (hes.put hproper), ?_⟩
    · rw [write_cons_map, found, room_map, hw]
    · have hremoves : Removes (key :: keys) (map (Entries.put key w es)) new _ :=
        .along Entries.get?_put_self hremoves
      rwa [Entries.put_put_of_get? found] at hremoves

end TypedDocument.Value
