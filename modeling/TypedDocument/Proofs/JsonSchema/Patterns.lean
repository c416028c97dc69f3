import TypedDocument.JsonSchema.Check
import TypedDocument.Proofs.Calendar.RoundTrip
import TypedDocument.Proofs.Regex.Words

/-!
# The patterns of exported schemas

An exported schema has patterns for days and times, which follow their layouts part by part, and a
pattern for integer keys. The former match exactly the texts in the usual form of a layout, which
is how it writes all years of four digits. The latter matches exactly the texts that are read as
integers, of whatever size, except for the names it leaves out.
-/

namespace TypedDocument

open Regex

/-! ## Layouts -/

namespace LayoutPart

/-- The digits, as the patterns for layouts write them. -/
def digitClass : CharSet := .union .empty (.interval '0' '9')

@[simp] theorem contains_digitClass_iff {c : Char} :
    digitClass.contains c.toNat = true ↔ c.isDigit = true :=
  CharSet.contains_asciiDigits_iff

/-- The usual form of a part: a mark is itself, and a number has a fixed width. -/
def Form : LayoutPart → List Char → Prop
  | year, w => w.length = 4 ∧ ∀ c ∈ w, c.isDigit = true
  | mark c, w => w = [c]
  | _, w => w.length = 2 ∧ ∀ c ∈ w, c.isDigit = true

/-- The expression for the usual form of a part. -/
def regex : LayoutPart → Regex
  | year => .repeated (.chars digitClass) 4 (some 4)
  | mark c => .chars (.single c)
  | _ => .repeated (.chars digitClass) 2 (some 2)

theorem spells_digits (width : Nat) :
    Spells (.repeated (.chars digitClass) width (some width)) fun w =>
      w.length = width ∧ ∀ c ∈ w, c.isDigit = true := by
  apply spells_repeated_chars.congr
  intro w
  simp only [contains_digitClass_iff, Option.some.injEq, forall_eq', ← and_assoc]
  apply and_congr_left
  intro _
  omega

theorem spells_regex (part : LayoutPart) : Spells part.regex part.Form := by
  cases part with
  | year => exact spells_digits 4
  | mark c =>
    apply spells_chars.congr
    intro w
    simp only [CharSet.contains_single_iff]
    constructor
    · rintro ⟨_, rfl, rfl⟩
      rfl
    · rintro rfl
      exact ⟨c, rfl, rfl⟩
  | _ => exact spells_digits 2

theorem form_padded {width n : Nat} (hn : (Nat.toDigits 10 n).length ≤ width) :
    (padded width n).length = width ∧ ∀ c ∈ padded width n, c.isDigit = true :=
  ⟨length_padded hn, fun _ => isDigit_of_mem_padded⟩

theorem form_padded_two {n : Nat} (hn : n < 100) :
    (padded 2 n).length = 2 ∧ ∀ c ∈ padded 2 n, c.isDigit = true :=
  form_padded ((Nat.length_toDigits_le_iff (by decide) (by decide)).mpr hn)

/-- Every part is written in its usual form, a year if it has no sign. -/
theorem form_write {n : LayoutNumbers} (hn : n.InRange) (hyear : 0 ≤ n.year ∧ n.year ≤ 9999)
    (part : LayoutPart) : part.Form (part.write n) := by
  obtain ⟨-, hmonth, hday, hhour, hminute, hsecond⟩ := hn
  cases part with
  | year =>
    have hwrite : year.write n = padded 4 n.year.toNat := by simp [write, writeYear, hyear]
    rw [hwrite]
    exact form_padded ((Nat.length_toDigits_le_iff (by decide) (by decide)).mpr (by omega))
  | mark c => rfl
  | month => exact form_padded_two (by omega)
  | day => exact form_padded_two (by omega)
  | hour => exact form_padded_two (by omega)
  | minute => exact form_padded_two (by omega)
  | second => exact form_padded_two (by omega)

end LayoutPart

namespace Layout

/-- The usual form of a layout: that of its parts, one after the other. -/
def Form : Layout → List Char → Prop
  | [], w => w = []
  | part :: rest, w => ∃ u v, w = u ++ v ∧ part.Form u ∧ Form rest v

/-- The expression for texts in the usual form of a layout. -/
def regex (l : Layout) : Regex :=
  .sequence (.look .textStart :: (l.map LayoutPart.regex ++ [.look .textEnd]))

theorem spells_parts (l : Layout) : Spells (.sequence (l.map LayoutPart.regex)) l.Form := by
  induction l with
  | nil => exact spells_empty
  | cons part rest ih => exact part.spells_regex.sequence_cons ih

theorem matchesWithin_regex_iff {l : Layout} {s : String} :
    l.regex.matchesWithin s = true ↔ l.Form s.toList := by
  rw [matchesWithin_iff, ← l.spells_parts.whole_iff]
  simp only [regex, matches_sequence_cons_iff, matches_sequence_append_iff]
  constructor
  · rintro ⟨i, hi, j, _, ⟨hstart, rfl⟩, k, hparts, _, ⟨hend, -⟩, -⟩
    cases (holds_textStart_iff hi).mp hstart
    exact ⟨k, hparts, holds_textEnd_iff.mp hend⟩
  · rintro ⟨k, hparts, hend⟩
    have hstart : Look.textStart.holds s.toList.toArray 0 = true :=
      (holds_textStart_iff (Nat.zero_le _)).mpr rfl
    exact ⟨0, Nat.zero_le _, k, 0, ⟨hstart, rfl⟩, k, hparts, k,
      ⟨holds_textEnd_iff.mpr hend, rfl⟩, rfl⟩

theorem form_write {n : LayoutNumbers} (hn : n.InRange) (hyear : 0 ≤ n.year ∧ n.year ≤ 9999)
    (l : Layout) : l.Form (l.write n).toList := by
  rw [write, String.toList_ofList]
  induction l with
  | nil => rfl
  | cons part rest ih => exact ⟨_, _, List.flatMap_cons, part.form_write hn hyear, ih⟩

end Layout

namespace JsonSchema

theorem patternRegex?_datePattern : patternRegex? datePattern = some Layout.date.regex := by
  decide +kernel

theorem patternRegex?_timePattern : patternRegex? timePattern = some Layout.time.regex := by
  decide +kernel

theorem patternRegex?_dateTimePattern :
    patternRegex? dateTimePattern = some Layout.dateTime.regex := by
  decide +kernel

end JsonSchema

/-! ## Integer keys -/

/-- Decimal digits, at least one of them. -/
def IsDigits (w : List Char) : Prop := w ≠ [] ∧ ∀ c ∈ w, c.isDigit = true

/-- What stands before the digits of an integer. -/
def IsSign (w : List Char) : Prop := w = [] ∨ w = ['+'] ∨ w = ['-']

theorem isSome_readDigits_iff {digits : List Char} {i : Int} :
    (if digits.isEmpty || !digits.all Char.isDigit then none else some i).isSome = true ↔
      IsDigits digits := by
  by_cases h : digits.isEmpty || !digits.all Char.isDigit
  · rw [if_pos h]
    simp only [Option.isSome_none, Bool.false_eq_true, false_iff]
    rintro ⟨hne, hdigits⟩
    simp [hne, List.all_eq_true.mpr hdigits] at h
  · rw [if_neg h]
    simp only [Bool.or_eq_true, List.isEmpty_iff, Bool.not_eq_true', not_or,
      Bool.not_eq_false, List.all_eq_true] at h
    exact iff_of_true rfl h

/-- Integers are read from digits behind a sign. -/
theorem isSome_readInteger?_iff {cs : List Char} :
    (readInteger? cs).isSome = true ↔
      ∃ sign digits, cs = sign ++ digits ∧ IsSign sign ∧ IsDigits digits := by
  by_cases hminus : ∃ rest, cs = '-' :: rest
  · obtain ⟨rest, rfl⟩ := hminus
    rw [readInteger?, isSome_readDigits_iff]
    constructor
    · exact fun h => ⟨['-'], rest, rfl, .inr (.inr rfl), h⟩
    · rintro ⟨_, digits, hcs, rfl | rfl | rfl, hdigits⟩
      · cases hcs
        exact absurd (hdigits.2 '-' List.mem_cons_self) (by decide)
      · cases hcs
      · cases hcs
        exact hdigits
  by_cases hplus : ∃ rest, cs = '+' :: rest
  · obtain ⟨rest, rfl⟩ := hplus
    rw [readInteger?, isSome_readDigits_iff]
    constructor
    · exact fun h => ⟨['+'], rest, rfl, .inr (.inl rfl), h⟩
    · rintro ⟨_, digits, hcs, rfl | rfl | rfl, hdigits⟩
      · cases hcs
        exact absurd (hdigits.2 '+' List.mem_cons_self) (by decide)
      · cases hcs
        exact hdigits
      · cases hcs
  rw [readInteger?, isSome_readDigits_iff]
  · constructor
    · exact fun h => ⟨[], cs, rfl, .inl rfl, h⟩
    · rintro ⟨_, digits, hcs, rfl | rfl | rfl, hdigits⟩
      · exact hcs ▸ hdigits
      · exact absurd ⟨digits, hcs⟩ hplus
      · exact absurd ⟨digits, hcs⟩ hminus
  · exact fun rest h => hminus ⟨rest, h⟩
  · exact fun rest h => hplus ⟨rest, h⟩

namespace KeyPattern

theorem spells_sign :
    Spells (.repeated (.chars (.union (.single '+') (.single '-'))) 0 (some 1)) IsSign := by
  have hsign : ∀ c : Char, (CharSet.union (.single '+') (.single '-')).contains c.toNat = true ↔
      c = '+' ∨ c = '-' := by
    intro c
    rw [CharSet.contains, Bool.or_eq_true, CharSet.contains_single_iff, CharSet.contains_single_iff]
  apply spells_repeated_chars.congr
  intro w
  simp only [hsign, Option.some.injEq, forall_eq', Nat.zero_le, true_and, IsSign]
  constructor
  · rintro ⟨hlength, hw⟩
    cases w with
    | nil => exact .inl rfl
    | cons c rest =>
      obtain rfl : rest = [] := List.eq_nil_of_length_eq_zero (by simpa using hlength)
      rcases hw c List.mem_cons_self with rfl | rfl
      · exact .inr (.inl rfl)
      · exact .inr (.inr rfl)
  · rintro (rfl | rfl | rfl) <;> simp

theorem spells_digits : Spells (.repeated (.chars .asciiDigits) 1 none) IsDigits := by
  apply spells_repeated_chars.congr
  intro w
  simp [IsDigits, Nat.succ_le_iff, List.length_pos_iff]

/-- What the pattern for integers spells is what can be read as an integer. -/
theorem spells_signedDigits : Spells signedDigits fun w => (readInteger? w).isSome = true := by
  apply (spells_sign.seq spells_digits).congr
  exact fun w => isSome_readInteger?_iff.symm

/-- Looking ahead for the exceptions finds them where they make up the whole text. -/
theorem matches_exceptions_iff {names : List String} {key : String} :
    (∃ j, Matches key.toList.toArray
      (.seq (choice (names.map fun s => literal s.toList)) (.look .textEnd)) 0 j) ↔
      key ∈ names := by
  have hname : ∀ s : String, (∃ k, Matches key.toList.toArray (literal s.toList) 0 k ∧
      key.toList.length ≤ k) ↔ key = s := by
    intro s
    rw [(spells_literal s.toList).whole_iff, String.toList_inj]
  simp only [Matches, matches_choice_iff, List.mem_map, holds_textEnd_iff]
  constructor
  · rintro ⟨_, k, ⟨_, ⟨s, hs, rfl⟩, hmatch⟩, hend, -⟩
    exact (hname s).mp ⟨k, hmatch, hend⟩ ▸ hs
  · intro hmem
    obtain ⟨k, hmatch, hend⟩ := (hname key).mpr rfl
    exact ⟨k, k, ⟨_, ⟨_, hmem, rfl⟩, hmatch⟩, hend, rfl⟩

/-- The pattern for integer keys matches the keys that are read as integers, save the
exceptions. -/
theorem matchesKey_integersExcept_iff {names : List String} {key : String} :
    (integersExcept names).matchesKey key = true ↔
      (readInteger? key.toList).isSome = true ∧ key ∉ names := by
  have hahead : ∀ j, Matches key.toList.toArray (if names.isEmpty then .empty
      else .notAhead (.seq (choice (names.map fun s => literal s.toList)) (.look .textEnd))) 0 j ↔
      key ∉ names ∧ j = 0 := by
    intro j
    by_cases h : names.isEmpty
    · rw [if_pos h, List.isEmpty_iff.mp h]
      simp [Matches]
    · rw [if_neg h, ← matches_exceptions_iff]
      simp only [Matches, not_exists]
  rw [matchesKey, matchesWithin_iff, integersExcept, ← spells_signedDigits.whole_iff]
  constructor
  · rintro ⟨i, hi, _, _, ⟨hstart, rfl⟩, _, h, k, hdigits, hend, -⟩
    cases (holds_textStart_iff hi).mp hstart
    obtain ⟨hnames, rfl⟩ := (hahead _).mp h
    exact ⟨⟨k, hdigits, holds_textEnd_iff.mp hend⟩, hnames⟩
  · rintro ⟨⟨k, hdigits, hend⟩, hnames⟩
    have hstart : Look.textStart.holds key.toList.toArray 0 = true :=
      (holds_textStart_iff (Nat.zero_le _)).mpr rfl
    exact ⟨0, Nat.zero_le _, k, 0, ⟨hstart, rfl⟩, 0, (hahead 0).mpr ⟨hnames, rfl⟩, k, hdigits,
      holds_textEnd_iff.mpr hend, rfl⟩

end KeyPattern

end TypedDocument
