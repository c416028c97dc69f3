import TypedDocument.Proofs.Regex.Words
import TypedDocument.Proofs.Validation.Conformance

/-!
# The texts that preset fields accept

Fields for identifiers and for addresses are text fields with a pattern, and a pattern need only
match a beginning of a text. For identifiers the exact length leaves no room behind the match, so
every character is a digit of the right kind. For addresses the match cannot cross a line break, so
what counts is the first line, whatever the lines after it hold.
-/

namespace TypedDocument

/-- A text field accepts the texts that keep its rules. -/
theorem Field.validate_text_eq_ok_iff {rules : TextRules} {s name : String} {partially : Bool} :
    (Field.ofKind (.text rules)).validate (.text s) name partially = .ok () ↔ rules.Admits s := by
  have haccepts : (FieldKind.text rules).accepts (.text s) = true := rfl
  rw [validate_eq_ok_iff_conforms, Value.conforms_iff_accepts (by simp) (by simp) (by simp)]
  exact and_iff_right haccepts

/-! ## Identifiers -/

/-- The digits of identifiers: `0` to `9` and `a` to `f`. -/
def IsLowerHexDigit (c : Char) : Prop := ('0' ≤ c ∧ c ≤ '9') ∨ ('a' ≤ c ∧ c ≤ 'f')

theorem spells_uuid : Regex.Spells Pattern.uuid.regex fun w =>
    w.length = 32 ∧ ∀ c ∈ w, IsLowerHexDigit c := by
  have hdigit : ∀ c : Char, (CharSet.union (.union .empty (.interval '0' '9'))
      (.interval 'a' 'f')).contains c.toNat = true ↔ IsLowerHexDigit c := by
    intro c
    have hdecimal : (CharSet.interval '0' '9').contains c.toNat = true ↔ '0' ≤ c ∧ c ≤ '9' :=
      CharSet.contains_interval_iff
    have hletter : (CharSet.interval 'a' 'f').contains c.toNat = true ↔ 'a' ≤ c ∧ c ≤ 'f' :=
      CharSet.contains_interval_iff
    have hempty : CharSet.empty.contains c.toNat = false := rfl
    simp only [CharSet.contains, hempty, Bool.false_or, Bool.or_eq_true, hdecimal, hletter,
      IsLowerHexDigit]
  apply Regex.spells_repeated_chars.congr
  intro w
  simp only [hdigit, Option.some.injEq, forall_eq', ← and_assoc]
  apply and_congr_left
  intro _
  omega

/-- A text of the exact length that begins with a word of that length is the word. -/
theorem uuid_admits_iff {s : String} :
    ({ length := some 32, pattern := some .uuid } : TextRules).Admits s ↔
      s.toList.length = 32 ∧ ∀ c ∈ s.toList, IsLowerHexDigit c := by
  have hmatch : Pattern.uuid.matchesStart s = true ↔ _ := spells_uuid.matchesStart_iff
  constructor
  · intro h
    have hlength : s.toList.length = 32 := h.length 32 rfl
    obtain ⟨w, ⟨hw, hdigits⟩, hbegin⟩ := hmatch.mp (h.pattern _ rfl)
    cases hbegin.eq_of_length (hw.trans hlength.symm)
    exact ⟨hw, hdigits⟩
  · rintro ⟨hlength, hdigits⟩
    refine ⟨?_, by simp, by simp, ?_⟩
    · rintro _ ⟨⟩
      exact hlength
    · rintro _ ⟨⟩
      exact hmatch.mpr ⟨s.toList, ⟨hlength, hdigits⟩, List.prefix_refl _⟩

/-! ## Addresses -/

/-- The part of a text before its first line break. -/
def firstLine (s : String) : List Char := s.toList.takeWhile (· != '\n')

theorem firstLine_prefix (s : String) : firstLine s <+: s.toList := List.takeWhile_prefix _

theorem ne_newline_of_mem_firstLine {s : String} {c : Char} (h : c ∈ firstLine s) : c ≠ '\n' := by
  have hall : (firstLine s).all (· != '\n') = true := List.all_takeWhile
  simpa using List.all_eq_true.mp hall c h

/-- What begins a text and has no line break begins its first line. -/
theorem prefix_firstLine {w : List Char} {s : String} (hbegin : w <+: s.toList)
    (hw : ∀ c ∈ w, c ≠ '\n') : w <+: firstLine s := by
  obtain ⟨rest, hrest⟩ := hbegin
  rw [firstLine, ← hrest, List.takeWhile_append_of_pos (by simpa using hw)]
  exact List.prefix_append _ _

theorem spells_email : Regex.Spells Pattern.email.regex fun w =>
    ∃ u v, w = u ++ '@' :: v ∧ u ≠ [] ∧ v ≠ [] ∧ ∀ c ∈ w, c ≠ '\n' := by
  have hinline : ∀ c : Char, (CharSet.allBut '\n').contains c.toNat = true ↔ c ≠ '\n' := by
    intro c
    have hnewline : (CharSet.single '\n').contains c.toNat = true ↔ c = '\n' :=
      CharSet.contains_single_iff
    rw [CharSet.allBut, CharSet.contains, Bool.not_eq_true', ← Bool.not_eq_true, hnewline]
  apply ((Regex.spells_repeated_chars.seq Regex.spells_chars).seq
    Regex.spells_repeated_chars).congr
  intro w
  simp only [hinline, CharSet.contains_single_iff]
  constructor
  · rintro ⟨_, v, rfl, ⟨u, _, rfl, ⟨hu, -, hu'⟩, _, rfl, rfl⟩, hv, -, hv'⟩
    refine ⟨u, v, by simp, ?_, ?_, ?_⟩
    · exact List.ne_nil_of_length_pos hu
    · exact List.ne_nil_of_length_pos hv
    · simp only [List.mem_append, List.mem_singleton]
      rintro c ((hc | rfl) | hc)
      · exact hu' c hc
      · decide
      · exact hv' c hc
  · rintro ⟨u, v, rfl, hu, hv, hw⟩
    simp only [List.mem_append, List.mem_cons] at hw
    refine ⟨u ++ ['@'], v, by simp, ⟨u, ['@'], rfl, ?_, '@', rfl, rfl⟩, ?_⟩
    · exact ⟨List.length_pos_iff.mpr hu, by simp, fun c hc => hw c (.inl hc)⟩
    · exact ⟨List.length_pos_iff.mpr hv, by simp, fun c hc => hw c (.inr (.inr hc))⟩

/-- The pattern of addresses matches as much of a text as it can on the first line, and nothing
behind it. -/
theorem email_admits_iff {s : String} :
    ({ pattern := some .email } : TextRules).Admits s ↔
      ∃ before after, firstLine s = before ++ '@' :: after ∧ before ≠ [] ∧ after ≠ [] := by
  have hmatch : Pattern.email.matchesStart s = true ↔ _ := spells_email.matchesStart_iff
  constructor
  · intro h
    obtain ⟨_, ⟨u, v, rfl, hu, hv, hw⟩, hbegin⟩ := hmatch.mp (h.pattern _ rfl)
    obtain ⟨rest, hrest⟩ := prefix_firstLine hbegin hw
    refine ⟨u, v ++ rest, ?_, hu, List.append_ne_nil_of_left_ne_nil hv _⟩
    rw [← hrest, List.append_assoc, List.cons_append]
  · rintro ⟨before, after, hline, hbefore, hafter⟩
    refine ⟨by simp, by simp, by simp, ?_⟩
    rintro _ ⟨⟩
    exact hmatch.mpr ⟨firstLine s, ⟨before, after, hline, hbefore, hafter,
      fun c => ne_newline_of_mem_firstLine⟩, firstLine_prefix s⟩

/-- A field for identifiers accepts the texts of exactly thirty-two lower-case hexadecimal digits. A
field for addresses accepts the texts whose first line has an at sign with something on both its
sides. -/
theorem Field.validate_presets_iff (s name : String) (partially : Bool) :
    (Field.uuid.validate (.text s) name partially = .ok () ↔
      s.toList.length = 32 ∧ ∀ c ∈ s.toList, IsLowerHexDigit c) ∧
    (Field.email.validate (.text s) name partially = .ok () ↔
      ∃ before after, firstLine s = before ++ '@' :: after ∧ before ≠ [] ∧ after ≠ []) :=
  ⟨validate_text_eq_ok_iff.trans uuid_admits_iff, validate_text_eq_ok_iff.trans email_admits_iff⟩

end TypedDocument
