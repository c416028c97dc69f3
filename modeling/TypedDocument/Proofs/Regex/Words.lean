import TypedDocument.Proofs.Regex.Matching

/-!
# The words of expressions

An expression that puts no conditions on positions matches the same words wherever it starts. Such
an expression is known by its words: those of its parts one after the other, or those of any
alternative. Between the start and the end of the text it matches the texts that are its words.
-/

namespace TypedDocument

/-! ## Single characters -/

namespace CharSet

@[simp] theorem contains_interval_iff {a b c : Char} :
    (interval a b).contains c.toNat = true ↔ a.toNat ≤ c.toNat ∧ c.toNat ≤ b.toNat := by
  simp [interval, contains, CharRanges.contains, CharRange.contains, CharRange.chars,
    CharRange.upTo, Nat.mod_one]

@[simp] theorem contains_single_iff {a c : Char} : (single a).contains c.toNat = true ↔ c = a := by
  have hinterval : (single a).contains c.toNat = true ↔ a.toNat ≤ c.toNat ∧ c.toNat ≤ a.toNat :=
    contains_interval_iff
  rw [hinterval, ← Char.toNat_inj]
  omega

@[simp] theorem contains_asciiDigits_iff {c : Char} :
    asciiDigits.contains c.toNat = true ↔ c.isDigit = true := by
  rw [asciiDigits, contains_interval_iff, Char.isDigit_iff_toNat]

end CharSet

/-- A word that two words make up begins a text if the first does and the second what follows. -/
theorem append_prefix_iff {u v cs : List Char} :
    u ++ v <+: cs ↔ u <+: cs ∧ v <+: cs.drop u.length := by
  constructor
  · rintro ⟨rest, rfl⟩
    refine ⟨⟨v ++ rest, by rw [List.append_assoc]⟩, rest, ?_⟩
    rw [List.append_assoc, List.drop_left]
  · rintro ⟨⟨rest, rfl⟩, hv⟩
    rw [List.drop_left] at hv
    exact (List.prefix_append_right_inj u).mpr hv

namespace Regex

/-- The matches from any position of any text are the words of a language that begin there. -/
def Spells (r : Regex) (L : List Char → Prop) : Prop :=
  ∀ (cs : List Char) (i j : Nat),
    Matches cs.toArray r i j ↔ ∃ w, L w ∧ w <+: cs.drop i ∧ j = i + w.length

variable {r s : Regex} {L M : List Char → Prop} {set : CharSet} {cs : List Char}

theorem Spells.congr (h : Spells r L) (hLM : ∀ w, L w ↔ M w) : Spells r M := by
  intro cs i j
  rw [h cs i j]
  simp only [hLM]

/-! ## The words of each form of expression -/

theorem spells_empty : Spells empty (· = []) := by
  intro cs i j
  simp [Matches]

theorem spells_chars : Spells (chars set) fun w => ∃ c, w = [c] ∧ set.contains c.toNat = true := by
  intro cs i j
  have hbegin : ∀ c, [c] <+: cs.drop i ↔ cs[i]? = some c := by
    intro c
    rw [List.prefix_iff_eq_take, ← List.head?_drop]
    cases cs.drop i <;> simp [eq_comm]
  simp only [Matches, List.getElem?_toArray, ← hbegin]
  constructor
  · rintro ⟨⟨c, hc, hset⟩, hj⟩
    exact ⟨[c], ⟨c, rfl, hset⟩, hc, hj⟩
  · rintro ⟨_, ⟨c, rfl, hset⟩, hc, hj⟩
    exact ⟨⟨c, hc, hset⟩, hj⟩

theorem Spells.seq (hr : Spells r L) (hs : Spells s M) :
    Spells (seq r s) fun w => ∃ u v, w = u ++ v ∧ L u ∧ M v := by
  intro cs i j
  simp only [Matches, hr cs, hs cs]
  constructor
  · rintro ⟨_, ⟨u, hu, hbegin, rfl⟩, v, hv, hrest, rfl⟩
    rw [← List.drop_drop] at hrest
    exact ⟨u ++ v, ⟨u, v, rfl, hu, hv⟩, append_prefix_iff.mpr ⟨hbegin, hrest⟩, by
      rw [List.length_append, Nat.add_assoc]⟩
  · rintro ⟨_, ⟨u, v, rfl, hu, hv⟩, hbegin, rfl⟩
    obtain ⟨hbegin, hrest⟩ := append_prefix_iff.mp hbegin
    rw [List.drop_drop] at hrest
    exact ⟨_, ⟨u, hu, hbegin, rfl⟩, v, hv, hrest, by rw [List.length_append, Nat.add_assoc]⟩

/-- A chain of single characters spells a word of them. -/
theorem chain_chars_iff {n i j : Nat} :
    Chain (Matches cs.toArray (chars set)) n i j ↔
      ∃ w, (w.length = n ∧ ∀ c ∈ w, set.contains c.toNat = true) ∧ w <+: cs.drop i ∧
        j = i + w.length := by
  induction n generalizing i with
  | zero =>
    constructor
    · rintro ⟨⟩
      exact ⟨[], ⟨rfl, by simp⟩, List.nil_prefix, rfl⟩
    · rintro ⟨w, ⟨hlength, -⟩, -, rfl⟩
      rw [hlength]
      exact .nil i
  | succ n ih =>
    constructor
    · rintro ⟨⟩
      next step rest =>
      obtain ⟨_, ⟨c, rfl, hc⟩, hbegin, rfl⟩ := (spells_chars cs i _).mp step
      obtain ⟨w, ⟨hlength, hw⟩, hrest, rfl⟩ := ih.mp rest
      rw [← List.drop_drop] at hrest
      refine ⟨[c] ++ w, ⟨by simp [hlength], ?_⟩, append_prefix_iff.mpr ⟨hbegin, hrest⟩, ?_⟩
      · exact List.forall_mem_cons.mpr ⟨hc, hw⟩
      · rw [List.length_append, Nat.add_assoc]
    · rintro ⟨w, ⟨hlength, hw⟩, hbegin, rfl⟩
      obtain ⟨c, w, rfl⟩ := List.exists_cons_of_length_eq_add_one hlength
      obtain ⟨hc, hrest⟩ := append_prefix_iff.mp (show [c] ++ w <+: cs.drop i from hbegin)
      rw [List.drop_drop] at hrest
      obtain ⟨hset, hw⟩ := List.forall_mem_cons.mp hw
      refine .cons ((spells_chars cs i _).mpr ⟨[c], ⟨c, rfl, hset⟩, hc, rfl⟩) (ih.mpr ?_)
      refine ⟨w, ⟨Nat.succ.inj hlength, hw⟩, hrest, ?_⟩
      simp only [List.length_cons, List.length_nil]
      omega

theorem spells_repeated_chars {least : Nat} {most : Option Nat} :
    Spells (repeated (chars set) least most) fun w =>
      least ≤ w.length ∧ (∀ m, most = some m → w.length ≤ max m least) ∧
        ∀ c ∈ w, set.contains c.toNat = true := by
  intro cs i j
  rw [matches_repeated_iff]
  simp only [chain_chars_iff]
  constructor
  · rintro ⟨_, hleast, hmost, w, ⟨rfl, hw⟩, hbegin, hj⟩
    exact ⟨w, ⟨hleast, hmost, hw⟩, hbegin, hj⟩
  · rintro ⟨w, ⟨hleast, hmost, hw⟩, hbegin, hj⟩
    exact ⟨w.length, hleast, hmost, w, ⟨rfl, hw⟩, hbegin, hj⟩

/-! ## Sequences and choices -/

section Lists

variable {text : Array Char} {rs : List Regex} {i j : Nat}

theorem matches_foldl_seq_iff :
    Matches text (rs.foldl .seq r) i j ↔
      ∃ k, Matches text r i k ∧ Matches text (sequence rs) k j := by
  induction rs generalizing r i j with
  | nil => simp [sequence, Matches]
  | cons s rest ih =>
    simp only [sequence, List.foldl_cons, ih, Matches]
    constructor
    · rintro ⟨l, ⟨k, hr, hs⟩, hrest⟩
      exact ⟨k, hr, l, hs, hrest⟩
    · rintro ⟨k, hr, l, hs, hrest⟩
      exact ⟨l, ⟨k, hr, hs⟩, hrest⟩

/-- A sequence matches one expression after the other. -/
theorem matches_sequence_cons_iff :
    Matches text (sequence (r :: rs)) i j ↔
      ∃ k, Matches text r i k ∧ Matches text (sequence rs) k j :=
  matches_foldl_seq_iff

theorem matches_sequence_append_iff {rs' : List Regex} :
    Matches text (sequence (rs ++ rs')) i j ↔
      ∃ k, Matches text (sequence rs) i k ∧ Matches text (sequence rs') k j := by
  induction rs generalizing i with
  | nil => simp [sequence, Matches]
  | cons r rest ih =>
    simp only [List.cons_append, matches_sequence_cons_iff, ih]
    constructor
    · rintro ⟨k, hr, l, hrest, hrs'⟩
      exact ⟨l, ⟨k, hr, hrest⟩, hrs'⟩
    · rintro ⟨l, ⟨k, hr, hrest⟩, hrs'⟩
      exact ⟨k, hr, l, hrest, hrs'⟩

theorem matches_foldl_alt_iff :
    Matches text (rs.foldl .alt r) i j ↔ ∃ s ∈ r :: rs, Matches text s i j := by
  induction rs generalizing r with
  | nil => simp
  | cons s rest ih =>
    rw [List.foldl_cons, ih]
    simp only [List.mem_cons, exists_eq_or_imp, Matches, or_assoc]

@[simp] theorem matches_choice_iff :
    Matches text (choice rs) i j ↔ ∃ r ∈ rs, Matches text r i j := by
  cases rs with
  | nil => simp [choice, Matches, CharSet.empty, CharSet.contains, CharRanges.contains]
  | cons r rest => exact matches_foldl_alt_iff

end Lists

theorem Spells.sequence_cons {rs : List Regex} (hr : Spells r L) (hrs : Spells (sequence rs) M) :
    Spells (sequence (r :: rs)) fun w => ∃ u v, w = u ++ v ∧ L u ∧ M v := by
  intro cs i j
  rw [matches_sequence_cons_iff]
  exact hr.seq hrs cs i j

theorem spells_literal (s : List Char) : Spells (literal s) (· = s) := by
  induction s with
  | nil => exact spells_empty
  | cons c rest ih =>
    apply (spells_chars.sequence_cons ih).congr
    intro w
    simp only [CharSet.contains_single_iff]
    constructor
    · rintro ⟨_, _, rfl, ⟨_, rfl, rfl⟩, rfl⟩
      rfl
    · rintro rfl
      exact ⟨[c], rest, rfl, ⟨c, rfl, rfl⟩, rfl⟩

/-! ## Whole texts and their beginnings -/

/-- A match starts at the start of a text if a word begins the text. -/
theorem Spells.matchesStart_iff {s : String} (h : Spells r L) :
    r.matchesStart s = true ↔ ∃ w, L w ∧ w <+: s.toList := by
  rw [Regex.matchesStart_iff]
  simp only [h s.toList 0, List.drop_zero]
  constructor
  · rintro ⟨_, w, hw, hbegin, -⟩
    exact ⟨w, hw, hbegin⟩
  · rintro ⟨w, hw, hbegin⟩
    exact ⟨_, w, hw, hbegin, rfl⟩

@[simp] theorem holds_textStart_iff {text : Array Char} {i : Nat}
    (hi : i ≤ text.size) : Look.textStart.holds text i = true ↔ i = 0 := by
  cases i with
  | zero => simp [Look.holds, Look.holdsBetween]
  | succ i =>
    have hlt : i < text.size := hi
    simp [Look.holds, Look.holdsBetween, hlt]

@[simp] theorem holds_textEnd_iff {text : Array Char} {i : Nat} :
    Look.textEnd.holds text i = true ↔ text.size ≤ i := by
  simp [Look.holds, Look.holdsBetween]

/-- From the start to the end of a text a match spells the text. -/
theorem Spells.whole_iff (h : Spells r L) :
    (∃ k, Matches cs.toArray r 0 k ∧ cs.length ≤ k) ↔ L cs := by
  constructor
  · rintro ⟨_, hmatch, hlength⟩
    obtain ⟨w, hw, hbegin, rfl⟩ := (h cs 0 _).mp hmatch
    rw [List.drop_zero] at hbegin
    rw [Nat.zero_add] at hlength
    exact hbegin.eq_of_length_le hlength ▸ hw
  · intro hcs
    exact ⟨cs.length, (h cs 0 _).mpr ⟨cs, hcs, List.prefix_refl cs, (Nat.zero_add _).symm⟩,
      Nat.le_refl _⟩

end Regex

end TypedDocument
