import TypedDocument.Calendar.Layout
import TypedDocument.Proofs.Outcome

/-!
# Reading back written days and times

What a layout writes, it reads. Two-digit parts are read by their width, whatever follows them;
a year may be longer than its usual width and is then read up to the first character that is no
digit, so it needs a mark behind it. Days come back unchanged, and times come back without
fractions of a second.
-/

namespace TypedDocument

theorem CharProperty.isWhiteSpace_eq_false_of_isDigit {c : Char} (h : c.isDigit = true) :
    isWhiteSpace c = false := by
  have htable : ∀ n < 58, 48 ≤ n → whiteSpace.contains n = false := by decide +kernel
  obtain ⟨hlow, hhigh⟩ := Char.isDigit_iff_toNat.mp h
  have hlow' : 48 ≤ c.toNat := hlow
  have hhigh' : c.toNat ≤ 57 := hhigh
  exact htable c.toNat (by omega) hlow'

namespace LayoutPart

/-! ## Digits -/

theorem isDigit_of_mem_padded {width n : Nat} {c : Char} (h : c ∈ padded width n) :
    c.isDigit = true := by
  simp only [padded, List.mem_append, List.mem_replicate] at h
  rcases h with ⟨_, rfl⟩ | h
  · decide
  · exact Nat.isDigit_of_mem_toDigits (by decide) (by decide) h

@[simp] theorem digitsValue_padded (width n : Nat) : digitsValue 0 (padded width n) = n := by
  show Nat.ofDigitChars 10 (padded width n) 0 = n
  simp [padded, Nat.ofDigitChars_append]

@[simp] theorem length_padded {width n : Nat} (hn : (Nat.toDigits 10 n).length ≤ width) :
    (padded width n).length = width := by
  simp only [padded, List.length_append, List.length_replicate]
  omega

theorem padded_eq_cons (width n : Nat) : ∃ c cs, padded width n = c :: cs ∧ c.isDigit = true := by
  cases h : padded width n with
  | nil => simp [padded] at h
  | cons c cs => exact ⟨c, cs, rfl, isDigit_of_mem_padded (by rw [h]; exact List.mem_cons_self)⟩

theorem takeWhile_padded {width n : Nat} {rest : List Char}
    (hrest : ∀ c ∈ rest.head?, c.isDigit = false) :
    (padded width n ++ rest).takeWhile Char.isDigit = padded width n := by
  rw [List.takeWhile_append_of_pos fun _ => isDigit_of_mem_padded]
  cases rest with
  | nil => simp
  | cons d rest => simp [hrest d (by simp)]

/-- Reading gives back a written number as soon as it looks at the digits of that number and at
no others. -/
theorem readDigits_of_window {width n : Nat} {limit : Option Nat} {rest : List Char}
    (h : (match limit with
      | some w => (padded width n ++ rest).take w
      | none => padded width n ++ rest).takeWhile Char.isDigit = padded width n) :
    readDigits limit (padded width n ++ rest) = .ok (n, rest) := by
  obtain ⟨c, cs, hcons, hc⟩ := padded_eq_cons width n
  have hread : readDigits limit (padded width n ++ rest) =
      .ok (digitsValue 0 (padded width n),
        (padded width n ++ rest).drop (padded width n).length) := by
    rw [hcons] at h ⊢
    cases limit <;> simp_all [readDigits]
  rw [hread, digitsValue_padded, List.drop_left]

/-- A number of a fixed width is read whatever stands behind it. -/
theorem readDigits_padded {width n : Nat} (hn : (Nat.toDigits 10 n).length ≤ width)
    (rest : List Char) : readDigits (some width) (padded width n ++ rest) = .ok (n, rest) := by
  apply readDigits_of_window
  have hlength := length_padded hn
  have htake : (padded width n ++ rest).take width = padded width n := by
    rw [List.take_append_of_le_length (Nat.le_of_eq hlength.symm),
      List.take_of_length_le (Nat.le_of_eq hlength)]
  have hwhile := @takeWhile_padded width n [] (by simp)
  simpa [htake] using hwhile

/-- A number of any length is read up to the first character that is no digit. -/
theorem readDigits_none_padded {width n : Nat} {rest : List Char}
    (hrest : ∀ c ∈ rest.head?, c.isDigit = false) :
    readDigits none (padded width n ++ rest) = .ok (n, rest) :=
  readDigits_of_window (takeWhile_padded hrest)

@[simp] theorem skipBlanks_padded (width n : Nat) (rest : List Char) :
    skipBlanks (padded width n ++ rest) = padded width n ++ rest := by
  obtain ⟨c, cs, hcons, hc⟩ := padded_eq_cons width n
  simp [skipBlanks, hcons, CharProperty.isWhiteSpace_eq_false_of_isDigit hc]

theorem readWithin_padded {low high n : Nat} (hlow : low ≤ n) (hhigh : n ≤ high) (hn : n < 100)
    (rest : List Char) : readWithin low high (padded 2 n ++ rest) = .ok (n, rest) := by
  have hdigits : (Nat.toDigits 10 n).length ≤ 2 :=
    (Nat.length_toDigits_le_iff (by decide) (by decide)).mpr hn
  rw [readWithin, readDigits_padded hdigits]
  simp [hlow, hhigh]

theorem readYear_minus {n : Nat} {y : Int} {body rest : List Char}
    (h : readDigits none body = .ok (n, rest)) (hn : -(n : Int) = y) (hy : fitsInt32 y = true) :
    readYear ('-' :: body) = .ok (y, rest) := by
  unfold readYear
  split
  · next heq =>
    cases heq
    simp [h, hn, hy]
  · next heq => simp at heq
  · next hminus _ => exact absurd rfl (hminus body)

theorem readYear_plus {n : Nat} {y : Int} {body rest : List Char}
    (h : readDigits none body = .ok (n, rest)) (hn : (n : Int) = y) (hy : fitsInt32 y = true) :
    readYear ('+' :: body) = .ok (y, rest) := by
  unfold readYear
  split
  · next heq => simp at heq
  · next heq =>
    cases heq
    simp [h, hn, hy]
  · next hplus => exact absurd rfl (hplus body)

theorem readYear_digit {c : Char} {cs rest : List Char} {n : Nat} {y : Int} (hc : c.isDigit = true)
    (h : readDigits (some 4) (c :: cs) = .ok (n, rest)) (hn : (n : Int) = y)
    (hy : fitsInt32 y = true) : readYear (c :: cs) = .ok (y, rest) := by
  have hminus : c ≠ '-' := by rintro rfl; revert hc; decide
  have hplus : c ≠ '+' := by rintro rfl; revert hc; decide
  simp [readYear, h, hn, hy, hminus, hplus]

@[simp] theorem skipBlanks_minus (cs : List Char) : skipBlanks ('-' :: cs) = '-' :: cs := by
  have hblank : CharProperty.isWhiteSpace '-' = false := by decide +kernel
  simp [skipBlanks, hblank]

@[simp] theorem skipBlanks_plus (cs : List Char) : skipBlanks ('+' :: cs) = '+' :: cs := by
  have hblank : CharProperty.isWhiteSpace '+' = false := by decide +kernel
  simp [skipBlanks, hblank]

/-- A written year is read back whatever its sign and length. -/
theorem readYear_writeYear {y : Int} {rest : List Char} (hy : fitsInt32 y = true)
    (hrest : ∀ c ∈ rest.head?, c.isDigit = false) :
    readYear (skipBlanks (writeYear y ++ rest)) = .ok (y, rest) := by
  by_cases hfour : 0 ≤ y ∧ y ≤ 9999
  · have hwrite : writeYear y = padded 4 y.toNat := by simp [writeYear, hfour]
    have hnat : (y.toNat : Int) = y := Int.toNat_of_nonneg hfour.1
    have hdigits : (Nat.toDigits 10 y.toNat).length ≤ 4 :=
      (Nat.length_toDigits_le_iff (by decide) (by decide)).mpr (by omega)
    have hread := readDigits_padded hdigits rest
    obtain ⟨c, cs, hcons, hc⟩ := padded_eq_cons 4 y.toNat
    rw [hwrite, skipBlanks_padded]
    rw [hcons, List.cons_append] at hread ⊢
    exact readYear_digit hc hread hnat hy
  · by_cases hneg : y < 0
    · have hwrite : writeYear y = '-' :: padded 4 y.natAbs := by simp [writeYear, hfour, hneg]
      have hnat : -(y.natAbs : Int) = y := by omega
      rw [hwrite, List.cons_append, skipBlanks_minus]
      exact readYear_minus (readDigits_none_padded hrest) hnat hy
    · have hwrite : writeYear y = '+' :: padded 4 y.toNat := by simp [writeYear, hfour, hneg]
      have hnat : (y.toNat : Int) = y := Int.toNat_of_nonneg (by omega)
      rw [hwrite, List.cons_append, skipBlanks_plus]
      exact readYear_plus (readDigits_none_padded hrest) hnat hy

/-! ## Parts -/

/-- The numbers `n` with the number of one part taken from `m`. -/
def copy (m n : LayoutNumbers) : LayoutPart → LayoutNumbers
  | year => { n with year := m.year }
  | month => { n with month := m.month }
  | day => { n with day := m.day }
  | hour => { n with hour := m.hour }
  | minute => { n with minute := m.minute }
  | second => { n with second := m.second }
  | mark _ => n

end LayoutPart

/-- Numbers that every part of a layout reads. -/
structure LayoutNumbers.InRange (m : LayoutNumbers) : Prop where
  year : fitsInt32 m.year = true
  month : 1 ≤ m.month ∧ m.month ≤ 12
  day : 1 ≤ m.day ∧ m.day ≤ 31
  hour : m.hour ≤ 23
  minute : m.minute ≤ 59
  second : m.second ≤ 60

/-- A part reads what it wrote. Behind a year no further digit may stand. -/
theorem LayoutPart.read_write {m : LayoutNumbers} (hm : m.InRange) (n : LayoutNumbers)
    {part : LayoutPart} {rest : List Char}
    (hrest : part = .year → ∀ c ∈ rest.head?, c.isDigit = false) :
    part.read n (part.write m ++ rest) = .ok (part.copy m n, rest) := by
  obtain ⟨hyear, hmonth, hday, hhour, hminute, hsecond⟩ := hm
  cases part with
  | year => simp [read, write, copy, readYear_writeYear hyear (hrest rfl), Except.map]
  | month => simp [read, write, copy, readWithin_padded hmonth.1 hmonth.2 (by omega), Except.map]
  | day => simp [read, write, copy, readWithin_padded hday.1 hday.2 (by omega), Except.map]
  | hour => simp [read, write, copy, readWithin_padded (Nat.zero_le _) hhour (by omega), Except.map]
  | minute =>
    simp [read, write, copy, readWithin_padded (Nat.zero_le _) hminute (by omega), Except.map]
  | second =>
    simp [read, write, copy, readWithin_padded (Nat.zero_le _) hsecond (by omega), Except.map]
  | mark c => simp [read, write, copy]

namespace Layout

/-- Whether a mark that is no digit stands behind every year. -/
def separated : Layout → Bool
  | .year :: .mark c :: rest => !c.isDigit && separated rest
  | .year :: _ => false
  | _ :: rest => separated rest
  | [] => true

theorem separated_cons {part : LayoutPart} {l : Layout} (h : separated (part :: l) = true) :
    separated l = true ∧
      ∀ m, part = .year → ∀ c ∈ (l.flatMap (LayoutPart.write m)).head?, c.isDigit = false := by
  cases part with
  | year =>
    match l, h with
    | .mark c :: rest, h =>
      simp only [separated, Bool.and_eq_true, Bool.not_eq_true'] at h
      exact ⟨h.2, fun m _ => by simp [LayoutPart.write, h.1]⟩
  | _ => exact ⟨by simpa [separated] using h, by simp⟩

theorem readParts_write {m : LayoutNumbers} (hm : m.InRange) {l : Layout} (hl : l.separated = true)
    (n : LayoutNumbers) :
    l.readParts n (l.flatMap (LayoutPart.write m)) = .ok (l.foldl (LayoutPart.copy m) n, []) := by
  induction l generalizing n with
  | nil => rfl
  | cons part l ih =>
    obtain ⟨hrest, hhead⟩ := separated_cons hl
    rw [List.flatMap_cons, readParts, LayoutPart.read_write hm n (hhead m)]
    exact ih hrest _

/-- A layout reads what it wrote, as far as its parts go. -/
theorem read_write {m : LayoutNumbers} (hm : m.InRange) {l : Layout} (hl : l.separated = true) :
    l.read (l.write m) = .ok (l.foldl (LayoutPart.copy m) {}) := by
  simp [read, write, readParts_write hm hl]

/-- A layout that names all unusual numbers reads them back as they were. -/
theorem read_write_of_named {m : LayoutNumbers} (hm : m.InRange) {l : Layout}
    (hl : l.separated = true) (hnamed : l.foldl (LayoutPart.copy m) {} = m) :
    l.read (l.write m) = .ok m := by
  rw [read_write hm hl, hnamed]

end Layout

/-! ## Days and times -/

theorem IsDay.month_range {year : Int} {month day : Nat} (h : IsDay year month day) :
    1 ≤ month ∧ month ≤ 12 := by
  obtain ⟨_, _, hone, hday⟩ := h
  unfold daysInMonth at hday
  grind

theorem IsDay.day_le {year : Int} {month day : Nat} (h : IsDay year month day) : day ≤ 31 := by
  obtain ⟨_, _, hone, hday⟩ := h
  unfold daysInMonth at hday
  grind

theorem IsDay.fitsInt32 {year : Int} {month day : Nat} (h : IsDay year month day) :
    fitsInt32 year = true := by
  obtain ⟨hfirst, hlast, _⟩ := h
  simp only [firstYear, lastYear] at hfirst hlast
  simp only [TypedDocument.fitsInt32, Bool.and_eq_true, decide_eq_true_eq]
  omega

namespace Time

theorem shownSecond_le (t : Time) : t.shownSecond ≤ 60 := by
  obtain ⟨_, _, hsecond, hnano⟩ := t.exists_time
  simp only [shownSecond]
  omega

/-- The time that stays if only what a clock shows is kept: a leap second behind second 59 loses its
fraction, any other time becomes the start of the second that is shown. -/
def wholeSeconds (t : Time) : Time :=
  if h : t.shownSecond = 60 then
    { hour := t.hour, minute := t.minute, second := 59, nanosecond := 1000000000
      exists_time := ⟨t.exists_time.1, t.exists_time.2.1, by decide, by decide⟩ }
  else
    { hour := t.hour, minute := t.minute, second := t.shownSecond, nanosecond := 0
      exists_time := ⟨t.exists_time.1, t.exists_time.2.1, Nat.lt_of_le_of_ne t.shownSecond_le h,
        by decide⟩ }

@[simp] theorem hour_wholeSeconds (t : Time) : t.wholeSeconds.hour = t.hour := by
  rw [wholeSeconds]
  split <;> rfl

@[simp] theorem minute_wholeSeconds (t : Time) : t.wholeSeconds.minute = t.minute := by
  rw [wholeSeconds]
  split <;> rfl

section OfParts

variable {hour minute second nanosecond : Nat} {t : Time}

/-- Parts are put together if they are a time without a leap second or with one behind second 59. -/
theorem of?_eq_some_iff :
    of? hour minute second nanosecond = some t ↔
      (t.hour = hour ∧ t.minute = minute ∧ t.second = second ∧ t.nanosecond = nanosecond) ∧
        (nanosecond < 1000000000 ∨ second = 59) := by
  obtain ⟨hour', minute', second', nanosecond', htime⟩ := t
  rw [of?]
  constructor
  · intro h
    split at h
    · split at h
      · next hleap =>
        cases h
        exact ⟨⟨rfl, rfl, rfl, rfl⟩, hleap⟩
      · cases h
    · cases h
  · rintro ⟨⟨rfl, rfl, rfl, rfl⟩, hleap⟩
    rw [dif_pos htime, if_pos hleap]

/-- What a clock shows is what the time it stands for shows. -/
theorem shown_of_ofShown? (h : ofShown? hour minute second = some t) :
    t.hour = hour ∧ t.minute = minute ∧ t.shownSecond = second := by
  rw [ofShown?] at h
  split at h
  · next hleap =>
    obtain ⟨⟨hhour, hminute, hsecond, hnano⟩, _⟩ := of?_eq_some_iff.mp h
    exact ⟨hhour, hminute, by rw [shownSecond, hsecond, hnano, hleap]⟩
  · obtain ⟨⟨hhour, hminute, hsecond, hnano⟩, _⟩ := of?_eq_some_iff.mp h
    exact ⟨hhour, hminute, by rw [shownSecond, hsecond, hnano]; rfl⟩

end OfParts

/-- What a clock shows is enough to set it, up to fractions of a second. -/
theorem ofShown?_shownSecond (t : Time) :
    ofShown? t.hour t.minute t.shownSecond = some t.wholeSeconds := by
  rw [ofShown?, wholeSeconds]
  split
  · exact of?_eq_some_iff.mpr ⟨⟨rfl, rfl, rfl, rfl⟩, .inr rfl⟩
  · exact of?_eq_some_iff.mpr ⟨⟨rfl, rfl, rfl, rfl⟩, .inl (by decide)⟩

/-- A time that a clock shows has no fraction of a second. -/
theorem wholeSeconds_of_ofShown? {hour minute second : Nat} {t : Time}
    (h : ofShown? hour minute second = some t) : t.wholeSeconds = t := by
  obtain ⟨hhour, hminute, hsecond⟩ := shown_of_ofShown? h
  have hagain := t.ofShown?_shownSecond
  rw [hhour, hminute, hsecond, h] at hagain
  exact (Option.some.inj hagain).symm

end Time

/-- A day with its time without fractions of a second. -/
def DateTime.wholeSeconds (t : DateTime) : DateTime := ⟨t.date, t.time.wholeSeconds⟩

namespace LayoutNumbers

theorem inRange_ofDate (d : Date) : (ofDate d).InRange where
  year := d.exists_day.fitsInt32
  month := d.exists_day.month_range
  day := ⟨d.exists_day.2.2.1, d.exists_day.day_le⟩
  hour := by simp [ofDate]
  minute := by simp [ofDate]
  second := by simp [ofDate]

theorem inRange_ofDateTime (t : DateTime) : (ofDateTime t).InRange where
  year := t.date.exists_day.fitsInt32
  month := t.date.exists_day.month_range
  day := ⟨t.date.exists_day.2.2.1, t.date.exists_day.day_le⟩
  hour := Nat.le_of_lt_succ t.time.exists_time.1
  minute := Nat.le_of_lt_succ t.time.exists_time.2.1
  second := t.time.shownSecond_le

theorem inRange_ofTime (t : Time) : (ofTime t).InRange where
  year := show fitsInt32 0 = true by decide
  month := by simp [ofTime]
  day := by simp [ofTime]
  hour := Nat.le_of_lt_succ t.exists_time.1
  minute := Nat.le_of_lt_succ t.exists_time.2.1
  second := t.shownSecond_le

@[simp] theorem date?_ofDate (d : Date) : (ofDate d).date? = some d := by
  simp [date?, ofDate, Date.of?, d.exists_day]

@[simp] theorem time?_ofTime (t : Time) :
    (ofTime t).time? = some t.wholeSeconds := t.ofShown?_shownSecond

@[simp] theorem dateTime?_ofDateTime (t : DateTime) :
    (ofDateTime t).dateTime? = some t.wholeSeconds := by
  have hdate : (ofDateTime t).date? = some t.date := date?_ofDate t.date
  have htime : (ofDateTime t).time? = some t.time.wholeSeconds := time?_ofTime t.time
  simp [dateTime?, hdate, htime, DateTime.wholeSeconds]

end LayoutNumbers

@[simp] theorem orOutOfRange_eq_ok_iff {α : Type} {o : Option α} {a : α} :
    orOutOfRange o = .ok a ↔ o = some a := by
  cases o <;> simp [orOutOfRange]

/-- A written day is read back. -/
@[simp] theorem Date.read_text (d : Date) : Date.read d.text = .ok d := by
  have hread := Layout.read_write_of_named (LayoutNumbers.inRange_ofDate d) (l := Layout.date)
    (by decide) rfl
  simp [read, text, hread]

/-- A written time is read back without its fraction of a second. -/
@[simp] theorem Time.read_text (t : Time) : Time.read t.text = .ok t.wholeSeconds := by
  have hread := Layout.read_write_of_named (LayoutNumbers.inRange_ofTime t) (l := Layout.time)
    (by decide) rfl
  simp [read, text, hread]

/-- A written day with its time is read back without the fraction of a second. -/
@[simp] theorem DateTime.read_text (t : DateTime) : DateTime.read t.text = .ok t.wholeSeconds := by
  have hread := Layout.read_write_of_named (LayoutNumbers.inRange_ofDateTime t)
    (l := Layout.dateTime) (by decide) rfl
  simp [read, text, hread]

/-- A time that is read has no fraction of a second. -/
theorem Time.wholeSeconds_of_read {s : String} {t : Time} (h : Time.read s = .ok t) :
    t.wholeSeconds = t := by
  obtain ⟨n, -, hn⟩ := bind_eq_ok_iff.mp h
  exact wholeSeconds_of_ofShown? (orOutOfRange_eq_ok_iff.mp hn)

theorem DateTime.wholeSeconds_of_read {s : String} {t : DateTime} (h : DateTime.read s = .ok t) :
    t.wholeSeconds = t := by
  obtain ⟨n, -, hn⟩ := bind_eq_ok_iff.mp h
  obtain ⟨d, -, time, htime, heq⟩ : ∃ d, n.date? = some d ∧ ∃ time, n.time? = some time ∧
      DateTime.mk d time = t := by
    simpa [LayoutNumbers.dateTime?, Option.bind_eq_some_iff] using orOutOfRange_eq_ok_iff.mp hn
  rw [← heq, wholeSeconds, Time.wholeSeconds_of_ofShown? htime]

end TypedDocument
