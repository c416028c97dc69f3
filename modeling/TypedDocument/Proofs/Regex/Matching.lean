import TypedDocument.Regex.Basic

/-!
# What an expression matches

An expression relates two positions of a text if a match leads from the one to the other.
`Regex.Matches` says so expression by expression, for single positions: repetitions are chains of
matches, of any length within their limits. `Regex.run` instead moves sets of positions, stops
repeating as soon as a round brings nothing new, and bounds the rounds of an unbounded repetition
by the size of the text. `Regex.mem_run_iff` is the reason none of that can be noticed: chains that
return to known positions can be shortened.
-/

namespace TypedDocument.Regex

/-- A chain of a given number of steps, each between related positions. -/
inductive Chain (R : Nat → Nat → Prop) : Nat → Nat → Nat → Prop where
  | nil (i : Nat) : Chain R 0 i i
  | cons {n i k j : Nat} (step : R i k) (rest : Chain R n k j) : Chain R (n + 1) i j

/-- A match of an expression leads from the first position to the second. -/
def Matches (text : Array Char) : Regex → Nat → Nat → Prop
  | empty => fun i j => j = i
  | chars set => fun i j => (∃ c, text[i]? = some c ∧ set.contains c.toNat = true) ∧ j = i + 1
  | look l => fun i j => l.holds text i = true ∧ j = i
  | seq r s => fun i j => ∃ k, Matches text r i k ∧ Matches text s k j
  | alt r s => fun i j => Matches text r i j ∨ Matches text s i j
  | repeated r least most => fun i j =>
    ∃ n, least ≤ n ∧ (∀ m, most = some m → n ≤ max m least) ∧ Chain (Matches text r) n i j
  | notAhead r => fun i j => (∀ k, ¬ Matches text r i k) ∧ j = i

/-! ## Chains -/

namespace Chain

variable {R : Nat → Nat → Prop} {m n i j k : Nat}

theorem append (h : Chain R m i k) (h' : Chain R n k j) : Chain R (m + n) i j := by
  induction h with
  | nil => exact (Nat.zero_add n).symm ▸ h'
  | cons step _ ih =>
    have hlength : ∀ l, l + 1 + n = l + n + 1 := by omega
    rw [hlength]
    exact .cons step (ih h')

theorem split (h : Chain R (m + n) i j) : ∃ k, Chain R m i k ∧ Chain R n k j := by
  induction m generalizing i with
  | zero => exact ⟨i, .nil i, Nat.zero_add n ▸ h⟩
  | succ m ih =>
    have hlength : m + 1 + n = m + n + 1 := by omega
    rw [hlength] at h
    cases h with
    | cons step rest =>
      obtain ⟨k, hfirst, hlast⟩ := ih rest
      exact ⟨k, .cons step hfirst, hlast⟩

theorem le (hR : ∀ i j, R i j → i ≤ j) (h : Chain R n i j) : i ≤ j := by
  induction h with
  | nil => exact Nat.le_refl _
  | cons step _ ih => exact Nat.le_trans (hR _ _ step) ih

/-- Steps that stay where they are can be left out, so no chain needs to be longer than the
distance it covers. -/
theorem shorten (hR : ∀ i j, R i j → i ≤ j) (h : Chain R n i j) : ∃ m ≤ j - i, Chain R m i j := by
  induction h with
  | nil i => exact ⟨0, Nat.zero_le _, .nil i⟩
  | @cons n i k j step rest ih =>
    obtain ⟨m, hm, hchain⟩ := ih
    by_cases hik : i = k
    · subst hik
      exact ⟨m, hm, hchain⟩
    · have hstep := hR _ _ step
      have hrest := rest.le hR
      exact ⟨m + 1, by omega, .cons step hchain⟩

/-- A chain from a set of positions either stays in it or enters what lies around it, and has
fewer steps left from there. -/
theorem stays_or_enters {inner outer : List Nat}
    (hR : ∀ i ∈ inner, ∀ j, R i j → j ∈ inner ∨ j ∈ outer) (h : Chain R n i j) (hi : i ∈ inner) :
    j ∈ inner ∨ ∃ m < n, ∃ k ∈ outer, Chain R m k j := by
  induction h with
  | nil => exact .inl hi
  | @cons n i k j step rest ih =>
    rcases hR i hi k step with hk | hk
    · rcases ih hk with hj | ⟨m, hm, hchain⟩
      · exact .inl hj
      · exact .inr ⟨m, by omega, hchain⟩
    · exact .inr ⟨n, by omega, k, hk, rest⟩

end Chain

/-! ## Repeated steps between sets of positions -/

section Steps

variable {R : Nat → Nat → Prop} {step : List Nat → List Nat} {i j n : Nat} {here : List Nat}

/-- The set of positions a step leads to, by the single positions it relates. -/
def Moves (R : Nat → Nat → Prop) (step : List Nat → List Nat) : Prop :=
  ∀ here j, j ∈ step here ↔ ∃ i ∈ here, R i j

@[simp] theorem mem_fresh_iff {known next : List Nat} :
    i ∈ fresh known next ↔ i ∈ next ∧ i ∉ known := by
  induction next generalizing known with
  | nil => simp [fresh]
  | cons k rest ih =>
    rw [fresh]
    split
    · next hk =>
      rw [ih, List.mem_cons]
      grind
    · next hk =>
      rw [List.mem_cons, ih, List.mem_cons, List.mem_cons]
      grind

/-- A step that leaves a set as it is can be repeated without effect. -/
theorem Moves.mem_iff_of_fixed (h : Moves R step) (hfixed : step here = here) :
    j ∈ here ↔ ∃ i ∈ here, Chain R n i j := by
  induction n generalizing j with
  | zero =>
    constructor
    · exact fun hj => ⟨j, hj, .nil j⟩
    · rintro ⟨i, hi, hchain⟩
      cases hchain
      exact hi
  | succ n ih =>
    constructor
    · intro hj
      obtain ⟨k, hk, hchain⟩ := ih.mp hj
      obtain ⟨i, hi, hstep⟩ := (h here k).mp (hfixed.symm ▸ hk)
      exact ⟨i, hi, .cons hstep hchain⟩
    · rintro ⟨i, hi, hchain⟩
      cases hchain with
      | cons hstep hrest => exact ih.mpr ⟨_, hfixed ▸ (h here _).mpr ⟨i, hi, hstep⟩, hrest⟩

/-- Stopping early gives the positions that all the steps lead to. -/
theorem Moves.mem_exactly_iff (h : Moves R step) :
    j ∈ exactly step n here ↔ ∃ i ∈ here, Chain R n i j := by
  induction n generalizing here with
  | zero =>
    rw [exactly]
    constructor
    · exact fun hj => ⟨j, hj, .nil j⟩
    · rintro ⟨i, hi, hchain⟩
      cases hchain
      exact hi
  | succ n ih =>
    have hcons : (∃ i ∈ here, Chain R (n + 1) i j) ↔ ∃ k ∈ step here, Chain R n k j := by
      constructor
      · rintro ⟨i, hi, hchain⟩
        cases hchain with
        | cons hstep hrest => exact ⟨_, (h here _).mpr ⟨i, hi, hstep⟩, hrest⟩
      · rintro ⟨k, hk, hchain⟩
        obtain ⟨i, hi, hstep⟩ := (h here k).mp hk
        exact ⟨i, hi, .cons hstep hchain⟩
    rw [hcons, exactly]
    split
    · next hstop =>
      rcases Bool.or_eq_true _ _ |>.mp hstop with hempty | hfixed
      · rw [List.isEmpty_iff.mp hempty]
        simp
      · have hfixed : step here = here := eq_of_beq hfixed
        rw [hfixed]
        exact h.mem_iff_of_fixed hfixed
    · exact ih

/-- The rounds of `atMost` find every position that few enough steps lead to. All that is known
must lead to what is known, except for the frontier. -/
theorem Moves.mem_atMost_iff (h : Moves R step) {known frontier : List Nat}
    (hknown : ∀ i ∈ frontier, i ∈ known)
    (hclosed : ∀ i ∈ known, ∀ j, R i j → i ∈ frontier ∨ j ∈ known) :
    j ∈ atMost step n known frontier ↔
      j ∈ known ∨ ∃ m ≤ n, ∃ i ∈ frontier, Chain R m i j := by
  induction n generalizing known frontier with
  | zero =>
    rw [atMost]
    constructor
    · exact .inl
    · rintro (hj | ⟨m, hm, i, hi, hchain⟩)
      · exact hj
      · cases Nat.le_zero.mp hm
        cases hchain
        exact hknown _ hi
  | succ n ih =>
    have hnext : ∀ i ∈ known, ∀ j, R i j → j ∈ known ∨ j ∈ fresh known (step frontier) := by
      intro i hi j hij
      rcases hclosed i hi j hij with hi | hj
      · have hj := (h frontier j).mpr ⟨i, hi, hij⟩
        by_cases hknown : j ∈ known
        · exact .inl hknown
        · exact .inr (mem_fresh_iff.mpr ⟨hj, hknown⟩)
      · exact .inl hj
    -- One round splits chains into those that stay in what is known and those that leave it.
    have hround : (j ∈ known ∨ ∃ m ≤ n + 1, ∃ i ∈ frontier, Chain R m i j) ↔
        j ∈ known ∨ ∃ m ≤ n, ∃ k ∈ fresh known (step frontier), Chain R m k j := by
      constructor
      · rintro (hj | ⟨m, hm, i, hi, hchain⟩)
        · exact .inl hj
        · rcases hchain.stays_or_enters hnext (hknown i hi) with hj | ⟨l, hl, hchain⟩
          · exact .inl hj
          · exact .inr ⟨l, by omega, hchain⟩
      · rintro (hj | ⟨m, hm, k, hk, hchain⟩)
        · exact .inl hj
        · obtain ⟨i, hi, hstep⟩ := (h frontier k).mp (mem_fresh_iff.mp hk).1
          exact .inr ⟨m + 1, by omega, i, hi, .cons hstep hchain⟩
    rw [hround, atMost]
    cases hfresh : fresh known (step frontier) with
    | nil => simp
    | cons k rest =>
      rw [hfresh] at hnext
      have hsub : ∀ i ∈ k :: rest, i ∈ known ++ k :: rest :=
        fun i hi => List.mem_append.mpr (.inr hi)
      have hclosed' : ∀ i ∈ known ++ k :: rest, ∀ j, R i j →
          i ∈ k :: rest ∨ j ∈ known ++ k :: rest := by
        intro i hi j hij
        rcases List.mem_append.mp hi with hi | hi
        · exact .inr (List.mem_append.mpr (hnext i hi j hij))
        · exact .inl hi
      simp only
      rw [ih hsub hclosed']
      constructor
      · rintro (hj | hj)
        · rcases List.mem_append.mp hj with hj | hj
          · exact .inl hj
          · exact .inr ⟨0, Nat.zero_le n, j, hj, .nil j⟩
        · exact .inr hj
      · rintro (hj | hj)
        · exact .inl (List.mem_append.mpr (.inl hj))
        · exact .inr hj

/-- A number of steps and then some rounds lead where a chain leads that has one step more for
each round that brings anything new. -/
theorem Moves.mem_rounds_iff (h : Moves R step) {least rounds : Nat} :
    j ∈ atMost step rounds (exactly step least here) (exactly step least here) ↔
      ∃ i ∈ here, ∃ m ≤ rounds, Chain R (least + m) i j := by
  rw [h.mem_atMost_iff (fun _ hi => hi) fun i hi _ _ => .inl hi]
  constructor
  · rintro (hj | ⟨m, hm, k, hk, hchain⟩)
    · obtain ⟨i, hi, hchain⟩ := h.mem_exactly_iff.mp hj
      exact ⟨i, hi, 0, Nat.zero_le _, hchain⟩
    · obtain ⟨i, hi, hstart⟩ := h.mem_exactly_iff.mp hk
      exact ⟨i, hi, m, hm, hstart.append hchain⟩
  · rintro ⟨i, hi, m, hm, hchain⟩
    obtain ⟨k, hstart, hrest⟩ := hchain.split
    exact .inr ⟨m, hm, k, h.mem_exactly_iff.mpr ⟨i, hi, hstart⟩, hrest⟩

end Steps

/-! ## The runs of expressions -/

variable {text : Array Char} {r s : Regex} {i j : Nat}

theorem matches_repeated_iff {least : Nat} {most : Option Nat} :
    Matches text (repeated r least most) i j ↔ ∃ n, least ≤ n ∧
      (∀ m, most = some m → n ≤ max m least) ∧ Chain (Matches text r) n i j :=
  Iff.rfl

/-- A match stays where it starts or leads forward within the text. -/
theorem Matches.bounds (h : Matches text r i j) : i = j ∨ i < j ∧ j ≤ text.size := by
  induction r generalizing i j with
  | empty => exact .inl h.symm
  | chars set =>
    obtain ⟨⟨c, hc, _⟩, rfl⟩ := h
    have hlt := (Array.getElem?_eq_some_iff.mp hc).1
    exact .inr ⟨by omega, hlt⟩
  | look l => exact .inl h.2.symm
  | seq r s ihr ihs =>
    obtain ⟨k, hr, hs⟩ := h
    have hfirst := ihr hr
    have hlast := ihs hs
    omega
  | alt r s ihr ihs =>
    rcases h with h | h
    · exact ihr h
    · exact ihs h
  | repeated r least most ih =>
    obtain ⟨n, -, -, hchain⟩ := h
    clear least most
    induction hchain with
    | nil => exact .inl rfl
    | cons step _ ihrest =>
      have hstep := ih step
      omega
  | notAhead r => exact .inl h.2.symm

theorem Matches.le (h : Matches text r i j) : i ≤ j := by
  have hbounds := h.bounds
  omega

/-- The rounds of a repetition lead where a chain of any admitted length leads: chains beyond the
size of the text have shorter ones to the same positions. -/
theorem mem_run_repeated_iff {least : Nat} {most : Option Nat} {here : List Nat}
    (h : Moves (Matches text r) (run text r)) :
    j ∈ run text (repeated r least most) here ↔
      ∃ i ∈ here, Matches text (repeated r least most) i j := by
  cases most with
  | some n =>
    rw [run, h.mem_rounds_iff]
    apply exists_congr
    intro i
    apply and_congr_right
    intro _
    constructor
    · rintro ⟨m, hm, hchain⟩
      refine ⟨least + m, Nat.le_add_right _ _, ?_, hchain⟩
      intro l hl
      cases hl
      omega
    · rintro ⟨l, hleast, hmost, hchain⟩
      obtain ⟨m, rfl⟩ := Nat.exists_eq_add_of_le hleast
      have hl := hmost n rfl
      exact ⟨m, by omega, hchain⟩
  | none =>
    rw [run, h.mem_rounds_iff]
    apply exists_congr
    intro i
    apply and_congr_right
    intro _
    constructor
    · rintro ⟨m, hm, hchain⟩
      exact ⟨least + m, Nat.le_add_right _ _, by simp, hchain⟩
    · rintro ⟨l, hleast, -, hchain⟩
      obtain ⟨m, rfl⟩ := Nat.exists_eq_add_of_le hleast
      obtain ⟨k, hstart, hrest⟩ := hchain.split
      obtain ⟨n, hn, hshort⟩ := hrest.shorten fun _ _ => Matches.le
      have hbounds : k = j ∨ k < j ∧ j ≤ text.size :=
        Matches.bounds (r := repeated r 0 none) ⟨m, Nat.zero_le _, by simp, hrest⟩
      exact ⟨n, by omega, hstart.append hshort⟩

/-- Running an expression finds exactly the positions where matches end that start at one of the
given ones. -/
theorem mem_run_iff {here : List Nat} :
    j ∈ run text r here ↔ ∃ i ∈ here, Matches text r i j := by
  induction r generalizing here j with
  | empty => simp [run, Matches]
  | chars set =>
    rw [run, List.mem_filterMap]
    apply exists_congr
    intro i
    apply and_congr_right
    intro _
    cases hc : text[i]? with
    | none => simp [Matches, hc]
    | some c =>
      constructor
      · intro h
        simp only [Option.ite_none_right_eq_some, Option.some.injEq] at h
        exact ⟨⟨c, hc, h.1⟩, h.2.symm⟩
      · rintro ⟨⟨d, hd, hset⟩, rfl⟩
        cases hc.symm.trans hd
        exact if_pos hset
  | look l =>
    simp only [run, Matches, List.mem_filter]
    constructor
    · exact fun ⟨hj, hl⟩ => ⟨j, hj, hl, rfl⟩
    · rintro ⟨i, hi, hl, rfl⟩
      exact ⟨hi, hl⟩
  | seq r s ihr ihs =>
    simp only [run, Matches, ihs, ihr]
    constructor
    · rintro ⟨k, ⟨i, hi, hr⟩, hs⟩
      exact ⟨i, hi, k, hr, hs⟩
    · rintro ⟨i, hi, k, hr, hs⟩
      exact ⟨k, ⟨i, hi, hr⟩, hs⟩
  | alt r s ihr ihs =>
    simp only [run, Matches, List.mem_append, mem_fresh_iff, ihs, ihr]
    constructor
    · rintro (⟨i, hi, hr⟩ | ⟨⟨i, hi, hs⟩, -⟩)
      · exact ⟨i, hi, .inl hr⟩
      · exact ⟨i, hi, .inr hs⟩
    · rintro ⟨i, hi, hr | hs⟩
      · exact .inl ⟨i, hi, hr⟩
      · by_cases hleft : ∃ i ∈ here, Matches text r i j
        · exact .inl hleft
        · exact .inr ⟨⟨i, hi, hs⟩, hleft⟩
  | repeated r least most ih => exact mem_run_repeated_iff fun here j => ih
  | notAhead r ih =>
    have hempty : ∀ i, (run text r [i]).isEmpty = true ↔ ∀ k, ¬ Matches text r i k := by
      intro i
      rw [List.isEmpty_iff, List.eq_nil_iff_forall_not_mem]
      simp only [ih, List.mem_singleton, exists_eq_left]
    simp only [run, Matches, List.mem_filter, hempty]
    constructor
    · exact fun ⟨hj, hnone⟩ => ⟨j, hj, hnone, rfl⟩
    · rintro ⟨i, hi, hnone, rfl⟩
      exact ⟨hi, hnone⟩

theorem isEmpty_run_iff {here : List Nat} :
    (run text r here).isEmpty = true ↔ ∀ i ∈ here, ∀ j, ¬ Matches text r i j := by
  rw [List.isEmpty_iff, List.eq_nil_iff_forall_not_mem]
  simp only [mem_run_iff]
  grind

theorem matchesStart_iff {t : String} :
    r.matchesStart t = true ↔ ∃ j, Matches t.toList.toArray r 0 j := by
  rw [matchesStart, matchesAt, Bool.not_eq_true', ← Bool.not_eq_true, isEmpty_run_iff]
  simp

/-- A search succeeds if a match starts anywhere in the text, its end included. -/
theorem matchesWithin_iff {t : String} :
    r.matchesWithin t = true ↔ ∃ i ≤ t.toList.length, ∃ j, Matches t.toList.toArray r i j := by
  rw [matchesWithin, Bool.not_eq_true', ← Bool.not_eq_true, isEmpty_run_iff]
  simp only [List.mem_range, List.size_toArray, Nat.lt_succ_iff]
  grind

end TypedDocument.Regex
