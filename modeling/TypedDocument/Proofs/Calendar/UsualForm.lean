import TypedDocument.Declaration.Reader
import TypedDocument.Proofs.Conversion.Steps
import TypedDocument.Proofs.JsonSchema.Patterns

/-!
# Texts in the usual form

The patterns of exported schemas describe the usual form of days and times, in which every number
has its fixed width. In that form reading and writing are inverse: a text is what the layout
writes for the numbers it shows, and it is read exactly if these are within the limits of their
parts. What remains to be asked is whether the numbers are a day and a time.
-/

namespace TypedDocument

/-! ## Digits -/

/-- A digit stands for less than ten and is known by what it stands for. -/
theorem Char.digit_of_isDigit {c : Char} (h : c.isDigit = true) :
    ∃ n < 10, c.toNat - '0'.toNat = n ∧ c.toNat = '0'.toNat + n := by
  obtain ⟨hlow, hhigh⟩ := Char.isDigit_iff_toNat.mp h
  have hnine : '9'.toNat = '0'.toNat + 9 := rfl
  exact ⟨c.toNat - '0'.toNat, by omega, rfl, by omega⟩

/-- Behind a start, digits reach the next start at most. -/
theorem digitsValue_lt {w : List Char} (hw : ∀ c ∈ w, c.isDigit = true) (start : Nat) :
    digitsValue start w < (start + 1) * Nat.pow 10 w.length := by
  induction w generalizing start with
  | nil => exact Nat.lt_of_lt_of_eq (Nat.lt_succ_self start) (Nat.mul_one _).symm
  | cons c rest ih =>
    obtain ⟨n, hn, hvalue, -⟩ := Char.digit_of_isDigit (hw c List.mem_cons_self)
    have hrest := ih (fun d hd => hw d (List.mem_cons_of_mem c hd)) (10 * start + n)
    have hstep : digitsValue start (c :: rest) = digitsValue (10 * start + n) rest := by
      rw [← hvalue]
      rfl
    rw [hstep]
    calc digitsValue (10 * start + n) rest
        < (10 * start + n + 1) * Nat.pow 10 rest.length := hrest
      _ ≤ ((start + 1) * 10) * Nat.pow 10 rest.length := Nat.mul_le_mul_right _ (by omega)
      _ = (start + 1) * Nat.pow 10 (c :: rest).length := by
        rw [Nat.mul_assoc, Nat.mul_comm 10]
        rfl

/-- Digits of the same number stand for different values. -/
theorem digitsValue_inj {u w : List Char} (hlength : u.length = w.length)
    (hu : ∀ c ∈ u, c.isDigit = true) (hw : ∀ c ∈ w, c.isDigit = true) {a b : Nat}
    (h : digitsValue a u = digitsValue b w) : a = b ∧ u = w := by
  -- The start goes into the induction: the first digits are part of the start of the others.
  induction u generalizing w a b with
  | nil =>
    obtain rfl := List.eq_nil_of_length_eq_zero hlength.symm
    exact ⟨h, rfl⟩
  | cons c u ih =>
    cases w with
    | nil => cases hlength
    | cons d w =>
      obtain ⟨hstart, rfl⟩ := ih (Nat.succ.inj hlength)
        (fun e he => hu e (List.mem_cons_of_mem c he))
        (fun e he => hw e (List.mem_cons_of_mem d he)) h
      obtain ⟨m, hm, hc, hcm⟩ := Char.digit_of_isDigit (hu c List.mem_cons_self)
      obtain ⟨n, hn, hd, hdn⟩ := Char.digit_of_isDigit (hw d List.mem_cons_self)
      have hdigit : 10 * a + (c.toNat - '0'.toNat) = 10 * b + (d.toNat - '0'.toNat) := hstart
      obtain ⟨rfl, rfl⟩ : a = b ∧ m = n := by omega
      exact ⟨rfl, by rw [Char.toNat_inj.mp (hcm.trans hdn.symm)]⟩

namespace LayoutPart

variable {limit low high : Nat} {w rest : List Char}

/-- Digits of a width stay below the first number of a greater one. -/
theorem lt_of_digits (hw : w.length = limit ∧ ∀ c ∈ w, c.isDigit = true) :
    digitsValue 0 w < Nat.pow 10 limit := by
  have hlt := digitsValue_lt hw.2 0
  rwa [Nat.zero_add, Nat.one_mul, hw.1] at hlt

/-- Digits are what padding their value to their number writes. -/
theorem padded_digitsValue (hw : w.length = limit ∧ ∀ c ∈ w, c.isDigit = true)
    (hlimit : 0 < limit) : padded limit (digitsValue 0 w) = w := by
  have hdigits : (Nat.toDigits 10 (digitsValue 0 w)).length ≤ limit :=
    (Nat.length_toDigits_le_iff (by decide) hlimit).mpr (lt_of_digits hw)
  have hlength : (padded limit (digitsValue 0 w)).length = w.length :=
    (length_padded hdigits).trans hw.1.symm
  exact (digitsValue_inj hlength (fun _ => isDigit_of_mem_padded) hw.2
    (digitsValue_padded limit _)).2

/-- A number in its usual form is read within the limits of its part and refused outside. -/
theorem readWithin_of_form (hw : w.length = 2 ∧ ∀ c ∈ w, c.isDigit = true) :
    readWithin low high (skipBlanks (w ++ rest)) =
      if low ≤ digitsValue 0 w && digitsValue 0 w ≤ high then .ok (digitsValue 0 w, rest)
      else .error .outOfRange := by
  have hread : readDigits (some 2) (w ++ rest) = .ok (digitsValue 0 w, rest) := by
    have hpadded := readDigits_padded
      ((Nat.length_toDigits_le_iff (by decide) (by decide)).mpr (lt_of_digits hw)) rest
    rwa [padded_digitsValue hw (by decide)] at hpadded
  have hskip := skipBlanks_padded 2 (digitsValue 0 w) rest
  rw [padded_digitsValue hw (by decide)] at hskip
  rw [hskip, readWithin, hread, ok_bind]
  rfl

theorem readYear_of_form (hw : w.length = 4 ∧ ∀ c ∈ w, c.isDigit = true) :
    readYear (skipBlanks (w ++ rest)) = .ok ((digitsValue 0 w : Nat), rest) := by
  have hlt : digitsValue 0 w < 10000 := lt_of_digits hw
  have hpadded := readDigits_padded
    ((Nat.length_toDigits_le_iff (by decide) (by decide)).mpr (lt_of_digits hw)) rest
  have hskip := skipBlanks_padded 4 (digitsValue 0 w) rest
  rw [padded_digitsValue hw (by decide)] at hpadded hskip
  have hfits : fitsInt32 (digitsValue 0 w : Nat) = true := by
    simp only [fitsInt32, Bool.and_eq_true, decide_eq_true_eq]
    omega
  rw [hskip]
  cases w with
  | nil => cases hw.1
  | cons c cs => exact readYear_digit (hw.2 c List.mem_cons_self) hpadded rfl hfits

/-! ## Parts -/

/-- The number of characters of a part in its usual form. -/
def width : LayoutPart → Nat
  | year => 4
  | mark _ => 1
  | _ => 2

/-- Whether some digits are the number of a part. -/
def Shows (m : LayoutNumbers) : LayoutPart → List Char → Prop
  | year, w => (digitsValue 0 w : Nat) = m.year
  | month, w => digitsValue 0 w = m.month
  | day, w => digitsValue 0 w = m.day
  | hour, w => digitsValue 0 w = m.hour
  | minute, w => digitsValue 0 w = m.minute
  | second, w => digitsValue 0 w = m.second
  | mark _, _ => True

/-- Whether the number of a part is within its limits. -/
def admits (m : LayoutNumbers) : LayoutPart → Bool
  | year => true
  | month => 1 ≤ m.month && m.month ≤ 12
  | day => 1 ≤ m.day && m.day ≤ 31
  | hour => m.hour ≤ 23
  | minute => m.minute ≤ 59
  | second => m.second ≤ 60
  | mark _ => true

variable {m : LayoutNumbers} {part : LayoutPart}

theorem length_of_form (hform : part.Form w) : w.length = part.width := by
  cases part with
  | mark c => exact congrArg List.length hform
  | _ => exact hform.1

/-- A part in its usual form is what is written for the number it shows. -/
theorem write_of_form (hform : part.Form w) (hshows : part.Shows m w) : part.write m = w := by
  cases part with
  | year =>
    have hlt : digitsValue 0 w < 10000 := lt_of_digits hform
    have hyear : 0 ≤ m.year ∧ m.year ≤ 9999 := by
      rw [← show (digitsValue 0 w : Int) = m.year from hshows]
      omega
    have hnat : m.year.toNat = digitsValue 0 w := by
      rw [← show (digitsValue 0 w : Int) = m.year from hshows, Int.toNat_natCast]
    have hwrite : year.write m = padded 4 m.year.toNat := by simp [write, writeYear, hyear]
    rw [hwrite, hnat, padded_digitsValue hform (by decide)]
  | mark c => exact hform.symm
  | month | day | hour | minute | second =>
    simp only [Shows] at hshows
    rw [write, ← hshows, padded_digitsValue hform (by decide)]

/-- A part in its usual form is read if its number is within the limits. -/
theorem read_of_form (hform : part.Form w) (hshows : part.Shows m w) (n : LayoutNumbers) :
    part.read n (w ++ rest) =
      if part.admits m then .ok (part.copy m n, rest) else .error .outOfRange := by
  cases part with
  | year =>
    rw [read, readYear_of_form hform, copy, ← show (digitsValue 0 w : Int) = m.year from hshows]
    rfl
  | mark c =>
    cases hform
    exact if_pos rfl
  | month | day | hour | minute | second =>
    simp only [Shows] at hshows
    rw [read, readWithin_of_form hform, admits, copy, ← hshows]
    simp only [Nat.zero_le, decide_true, Bool.true_and]
    split <;> rfl

end LayoutPart

namespace Layout

/-- Whether a text has the numbers of the parts at their places in the usual form. -/
def Shows : Layout → LayoutNumbers → List Char → Prop
  | [], _, _ => True
  | part :: rest, m, w => part.Shows m (w.take part.width) ∧ Shows rest m (w.drop part.width)

variable {l : Layout} {m : LayoutNumbers} {s : String}

/-- A text in the usual form begins with that of the first part and goes on with the others. -/
theorem form_cons {part : LayoutPart} {w : List Char} (hform : Form (part :: l) w)
    (hshows : Shows (part :: l) m w) :
    ∃ u v, w = u ++ v ∧ (part.Form u ∧ part.Shows m u) ∧ l.Form v ∧ l.Shows m v := by
  obtain ⟨u, v, rfl, hu, hv⟩ := hform
  obtain ⟨hpart, hrest⟩ := hshows
  have hlength := LayoutPart.length_of_form hu
  rw [List.take_left' hlength] at hpart
  rw [List.drop_left' hlength] at hrest
  exact ⟨u, v, rfl, ⟨hu, hpart⟩, hv, hrest⟩

/-- A text in the usual form is what the layout writes for the numbers in it. -/
theorem write_of_form (hform : l.Form s.toList) (hshows : l.Shows m s.toList) :
    l.write m = s := by
  have hparts {l : Layout} {w : List Char} (hform : l.Form w) (hshows : l.Shows m w) :
      l.flatMap (LayoutPart.write m) = w := by
    induction l generalizing w with
    | nil => exact hform.symm
    | cons part rest ih =>
      obtain ⟨u, v, rfl, ⟨hu, hshowsu⟩, hv, hshowsv⟩ := form_cons hform hshows
      rw [List.flatMap_cons, LayoutPart.write_of_form hu hshowsu, ih hv hshowsv]
  rw [write, hparts hform hshows, String.ofList_toList]

theorem readParts_of_form {w : List Char} (hform : l.Form w) (hshows : l.Shows m w)
    (n : LayoutNumbers) :
    l.readParts n w =
      if l.all (LayoutPart.admits m) then .ok (l.foldl (LayoutPart.copy m) n, [])
      else .error .outOfRange := by
  induction l generalizing w n with
  | nil =>
    cases hform
    rfl
  | cons part rest ih =>
    obtain ⟨u, v, rfl, ⟨hu, hshowsu⟩, hv, hshowsv⟩ := form_cons hform hshows
    rw [readParts, LayoutPart.read_of_form hu hshowsu, List.all_cons]
    cases part.admits m with
    | false => rfl
    | true => exact ih hv hshowsv _

/-- In the usual form, a text is read as what its numbers stand for, provided that nothing stands
for numbers outside the limits of their parts. -/
theorem read_bind_of_form {α : Type} {make? : LayoutNumbers → Option α}
    (hform : l.Form s.toList) (hshows : l.Shows m s.toList)
    (hcopy : l.foldl (LayoutPart.copy m) {} = m)
    (hadmits : ∀ a, make? m = some a → l.all (LayoutPart.admits m) = true) :
    (l.read s >>= fun n => orOutOfRange (make? n)) = orOutOfRange (make? m) := by
  have hread : l.read s =
      if l.all (LayoutPart.admits m) then .ok m else .error .outOfRange := by
    rw [read, readParts_of_form hform hshows, hcopy]
    split <;> rfl
  rw [hread]
  split
  · exact ok_bind _ _
  · next hrefused =>
    cases hmake : make? m with
    | none => rfl
    | some a => exact absurd (hadmits a hmake) hrefused

end Layout

/-! ## Days and times -/

/-- The number that some characters of a text are the digits of. -/
def numberAt (s : String) (start width : Nat) : Nat :=
  digitsValue 0 ((s.toList.drop start).take width)

namespace LayoutNumbers

/-- The numbers of a day in its usual form. -/
def inDate (s : String) : LayoutNumbers where
  year := numberAt s 0 4
  month := numberAt s 5 2
  day := numberAt s 8 2

/-- The numbers of a time in its usual form. -/
def inTime (s : String) : LayoutNumbers where
  hour := numberAt s 0 2
  minute := numberAt s 3 2
  second := numberAt s 6 2

/-- The numbers of a day with its time in their usual form. -/
def inDateTime (s : String) : LayoutNumbers :=
  { inDate s with
    hour := numberAt s 11 2
    minute := numberAt s 14 2
    second := numberAt s 17 2 }

theorem shows_inDate (s : String) : Layout.date.Shows (inDate s) s.toList := by
  simp [Layout.date, Layout.Shows, LayoutPart.Shows, LayoutPart.width, inDate, numberAt]

theorem shows_inTime (s : String) : Layout.time.Shows (inTime s) s.toList := by
  simp [Layout.time, Layout.Shows, LayoutPart.Shows, LayoutPart.width, inTime, numberAt]

theorem shows_inDateTime (s : String) : Layout.dateTime.Shows (inDateTime s) s.toList := by
  simp [Layout.dateTime, Layout.date, Layout.time, Layout.Shows, LayoutPart.Shows,
    LayoutPart.width, inDateTime, inDate, numberAt]

end LayoutNumbers

theorem Date.of?_eq_some_iff {year : Int} {month day : Nat} {d : Date} :
    of? year month day = some d ↔ d.year = year ∧ d.month = month ∧ d.day = day := by
  obtain ⟨year', month', day', hday⟩ := d
  rw [of?]
  constructor
  · intro h
    split at h
    · cases h
      exact ⟨rfl, rfl, rfl⟩
    · cases h
  · rintro ⟨rfl, rfl, rfl⟩
    exact dif_pos hday

theorem Date.exists_of?_iff {year : Int} {month day : Nat} :
    (∃ d, of? year month day = some d) ↔ IsDay year month day := by
  constructor
  · rintro ⟨d, h⟩
    obtain ⟨rfl, rfl, rfl⟩ := of?_eq_some_iff.mp h
    exact d.exists_day
  · exact fun h => ⟨⟨year, month, day, h⟩, dif_pos h⟩

namespace Time

variable {hour minute second : Nat}

/-- A clock shows the times of a day and, in every minute, a leap second. -/
theorem exists_ofShown?_iff :
    (∃ t, ofShown? hour minute second = some t) ↔ hour ≤ 23 ∧ minute ≤ 59 ∧ second ≤ 60 := by
  constructor
  · rintro ⟨t, h⟩
    obtain ⟨rfl, rfl, rfl⟩ := shown_of_ofShown? h
    exact ⟨Nat.le_of_lt_succ t.exists_time.1, Nat.le_of_lt_succ t.exists_time.2.1,
      t.shownSecond_le⟩
  · rintro ⟨hhour, hminute, hsecond⟩
    have hfits : second = 60 ∨ second < 60 := by omega
    rw [ofShown?]
    rcases hfits with rfl | hlt
    · have htime : IsTime hour minute 59 1000000000 := ⟨by omega, by omega, by decide, by decide⟩
      exact ⟨⟨hour, minute, 59, 1000000000, htime⟩,
        of?_eq_some_iff.mpr ⟨⟨rfl, rfl, rfl, rfl⟩, .inr rfl⟩⟩
    · have htime : IsTime hour minute second 0 := ⟨by omega, by omega, hlt, by decide⟩
      rw [if_neg (Nat.ne_of_lt hlt)]
      exact ⟨⟨hour, minute, second, 0, htime⟩,
        of?_eq_some_iff.mpr ⟨⟨rfl, rfl, rfl, rfl⟩, .inl (by decide)⟩⟩

theorem shownSecond_of_lt (t : Time) (h : t.nanosecond < 1000000000) :
    t.shownSecond = t.second := by
  rw [shownSecond, Nat.div_eq_of_lt h, Nat.add_zero]

theorem shownSecond_of_le (t : Time) (h : 1000000000 ≤ t.nanosecond) :
    t.shownSecond = t.second + 1 := by
  have hlimit := t.exists_time.2.2.2
  rw [shownSecond]
  omega

/-- A leap second behind second 59 loses its fraction and stays a leap second. -/
theorem wholeSeconds_of_leap (t : Time) (hnano : 1000000000 ≤ t.nanosecond)
    (hsecond : t.second = 59) :
    t.wholeSeconds.second = 59 ∧ t.wholeSeconds.nanosecond = 1000000000 := by
  have hshown : t.shownSecond = 60 := by rw [t.shownSecond_of_le hnano, hsecond]
  rw [wholeSeconds, dif_pos hshown]
  exact ⟨rfl, rfl⟩

/-- Any other time becomes the start of the second that a clock shows. -/
theorem wholeSeconds_of_shown (t : Time) (h : t.nanosecond < 1000000000 ∨ t.second ≠ 59) :
    t.wholeSeconds.second = t.shownSecond ∧ t.wholeSeconds.nanosecond = 0 := by
  obtain ⟨_, _, hsecond, hnano⟩ := t.exists_time
  have hshown : t.shownSecond ≠ 60 := by
    rw [shownSecond]
    omega
  rw [wholeSeconds, dif_neg hshown]
  exact ⟨rfl, rfl⟩

end Time

/-! ## Reading the usual form -/

section UsualForm

open LayoutNumbers

variable {s : String}

/-- The numbers of a day and of a time are within the limits of all parts. -/
theorem LayoutNumbers.admits_of_exists {n : LayoutNumbers} (hday : IsDay n.year n.month n.day)
    (htime : n.hour ≤ 23 ∧ n.minute ≤ 59 ∧ n.second ≤ 60) (l : Layout) :
    l.all (LayoutPart.admits n) = true := by
  obtain ⟨hhour, hminute, hsecond⟩ := htime
  have hmonth := hday.month_range
  have hone := hday.2.2.1
  have hlast := hday.day_le
  refine List.all_eq_true.mpr fun part _ => ?_
  cases part <;> simp [LayoutPart.admits, *]

/-- A text in the usual form of a day is read as the day that its numbers stand for. -/
theorem Date.read_of_form (hform : Layout.date.Form s.toList) :
    read s = orOutOfRange (inDate s).date? := by
  have htime : 0 ≤ 23 ∧ 0 ≤ 59 ∧ 0 ≤ 60 := by decide
  refine Layout.read_bind_of_form hform (shows_inDate s) rfl fun d hd => ?_
  exact admits_of_exists (exists_of?_iff.mp ⟨d, hd⟩) htime _

theorem Time.read_of_form (hform : Layout.time.Form s.toList) :
    read s = orOutOfRange (inTime s).time? := by
  have hday : IsDay 0 1 1 := by decide
  refine Layout.read_bind_of_form hform (shows_inTime s) rfl fun t ht => ?_
  exact admits_of_exists hday (exists_ofShown?_iff.mp ⟨t, ht⟩) _

@[simp] theorem LayoutNumbers.dateTime?_eq_some_iff {n : LayoutNumbers} {t : DateTime} :
    n.dateTime? = some t ↔ n.date? = some t.date ∧ n.time? = some t.time := by
  obtain ⟨d, time⟩ := t
  cases hd : n.date? <;> cases ht : n.time? <;> simp [dateTime?, hd, ht]

theorem DateTime.read_of_form (hform : Layout.dateTime.Form s.toList) :
    read s = orOutOfRange (inDateTime s).dateTime? := by
  refine Layout.read_bind_of_form hform (shows_inDateTime s) rfl fun t ht => ?_
  obtain ⟨hd, htime⟩ := dateTime?_eq_some_iff.mp ht
  exact admits_of_exists (Date.exists_of?_iff.mp ⟨_, hd⟩) (Time.exists_ofShown?_iff.mp ⟨_, htime⟩) _

/-- A day that is read from the usual form is written in it again. -/
theorem Date.text_of_read {d : Date} (hform : Layout.date.Form s.toList) (h : read s = .ok d) :
    d.text = s := by
  rw [read_of_form hform] at h
  obtain ⟨hyear, hmonth, hday⟩ := of?_eq_some_iff.mp (orOutOfRange_eq_ok_iff.mp h)
  have hnumbers : ofDate d = inDate s := by rw [ofDate, hyear, hmonth, hday]; rfl
  rw [text, hnumbers, Layout.write_of_form hform (shows_inDate s)]

theorem Time.text_of_read {t : Time} (hform : Layout.time.Form s.toList) (h : read s = .ok t) :
    t.text = s := by
  rw [read_of_form hform] at h
  obtain ⟨hhour, hminute, hsecond⟩ := shown_of_ofShown? (orOutOfRange_eq_ok_iff.mp h)
  have hnumbers : ofTime t = inTime s := by rw [ofTime, hhour, hminute, hsecond]; rfl
  rw [text, hnumbers, Layout.write_of_form hform (shows_inTime s)]

theorem DateTime.text_of_read {t : DateTime} (hform : Layout.dateTime.Form s.toList)
    (h : read s = .ok t) : t.text = s := by
  rw [read_of_form hform] at h
  obtain ⟨hd, ht⟩ := dateTime?_eq_some_iff.mp (orOutOfRange_eq_ok_iff.mp h)
  obtain ⟨hyear, hmonth, hday⟩ := Date.of?_eq_some_iff.mp hd
  obtain ⟨hhour, hminute, hsecond⟩ := Time.shown_of_ofShown? ht
  have hnumbers : ofDateTime t = inDateTime s := by
    rw [ofDateTime, ofDate, hyear, hmonth, hday, hhour, hminute, hsecond]
  rw [text, hnumbers, Layout.write_of_form hform (shows_inDateTime s)]

end UsualForm

/-! ## Fields for days and times -/

/-- Whether a text matches a pattern of an exported schema. -/
def JsonSchema.MatchesPattern (pattern s : String) : Prop :=
  ∃ r, patternRegex? pattern = some r ∧ r.matchesWithin s = true

/-- A text that matches the pattern for a layout is in its usual form. -/
theorem JsonSchema.form_of_matchesPattern {pattern s : String} {l : Layout}
    (hpattern : patternRegex? pattern = some l.regex) (h : MatchesPattern pattern s) :
    l.Form s.toList := by
  obtain ⟨r, hr, hs⟩ := h
  cases hpattern.symm.trans hr
  exact Layout.matchesWithin_regex_iff.mp hs

namespace Field

/-- Under the field, a text is decoded on a condition, and then encoding gives it back. -/
def Restores (f : Field) (s : String) (condition : Prop) : Prop :=
  ((∃ v, f.decode (.text s) = .ok v) ↔ condition) ∧
    ∀ v, f.decode (.text s) = .ok v → f.encode v = .ok (.text s)

/-- A text is restored where it is read as a day or a time whose text is the same. -/
theorem restores_of {α : Type} {f : Field} {s : String} {condition : Prop} {layout : Layout}
    {make : α → Value} {x : Except LayoutFault α} {text : α → String}
    (hdecode : f.decode (.text s) = FieldKind.readText s layout make x)
    (hencode : ∀ a, f.encode (make a) = .ok (.text (text a)))
    (hread : (∃ a, x = .ok a) ↔ condition) (htext : ∀ a, x = .ok a → text a = s) :
    f.Restores s condition := by
  rw [Restores, hdecode, ← hread]
  constructor
  · cases x <;> simp [FieldKind.readText]
  · intro v hv
    obtain ⟨a, ha, rfl⟩ := Value.readText_eq_ok_iff.mp hv
    rw [hencode, htext a ha]

variable {f : Field} {s : String}

theorem decode_text_of_date (hk : f.kind = .date) :
    f.decode (.text s) = FieldKind.readText s .date .date (Date.read s) := by
  rw [decode, Value.decodeWith_leaf rfl, hk, FieldKind.decodeScalar]

theorem decode_text_of_time (hk : f.kind = .time) :
    f.decode (.text s) = FieldKind.readText s .time .time (Time.read s) := by
  rw [decode, Value.decodeWith_leaf rfl, hk, FieldKind.decodeScalar]

theorem decode_text_of_dateTime (hk : f.kind = .dateTime) :
    f.decode (.text s) = FieldKind.readText s .dateTime .dateTime (DateTime.read s) := by
  rw [decode, Value.decodeWith_leaf rfl, hk, FieldKind.decodeScalar]

theorem encode_date (hk : f.kind = .date) (d : Date) : f.encode (.date d) = .ok (.text d.text) := by
  rw [encode, Value.encode_leaf rfl (by simp [hk]), hk, FieldKind.encodeScalar]

theorem encode_time (hk : f.kind = .time) (t : Time) : f.encode (.time t) = .ok (.text t.text) := by
  rw [encode, Value.encode_leaf rfl (by simp [hk]), hk, FieldKind.encodeScalar]

theorem encode_dateTime (hk : f.kind = .dateTime) (t : DateTime) :
    f.encode (.dateTime t) = .ok (.text t.text) := by
  rw [encode, Value.encode_leaf rfl (by simp [hk]), hk, FieldKind.encodeScalar]

theorem restores_date (hk : f.kind = .date) (hform : Layout.date.Form s.toList) :
    f.Restores s (IsDay (numberAt s 0 4) (numberAt s 5 2) (numberAt s 8 2)) := by
  have hread : (∃ d, Date.read s = .ok d) ↔
      IsDay (numberAt s 0 4) (numberAt s 5 2) (numberAt s 8 2) := by
    simp only [Date.read_of_form hform, orOutOfRange_eq_ok_iff]
    exact Date.exists_of?_iff
  exact restores_of (decode_text_of_date hk) (encode_date hk) hread
    fun _ => Date.text_of_read hform

theorem restores_time (hk : f.kind = .time) (hform : Layout.time.Form s.toList) :
    f.Restores s (numberAt s 0 2 ≤ 23 ∧ numberAt s 3 2 ≤ 59 ∧ numberAt s 6 2 ≤ 60) := by
  have hread : (∃ t, Time.read s = .ok t) ↔
      numberAt s 0 2 ≤ 23 ∧ numberAt s 3 2 ≤ 59 ∧ numberAt s 6 2 ≤ 60 := by
    simp only [Time.read_of_form hform, orOutOfRange_eq_ok_iff]
    exact Time.exists_ofShown?_iff
  exact restores_of (decode_text_of_time hk) (encode_time hk) hread
    fun _ => Time.text_of_read hform

theorem restores_dateTime (hk : f.kind = .dateTime) (hform : Layout.dateTime.Form s.toList) :
    f.Restores s (IsDay (numberAt s 0 4) (numberAt s 5 2) (numberAt s 8 2) ∧
      numberAt s 11 2 ≤ 23 ∧ numberAt s 14 2 ≤ 59 ∧ numberAt s 17 2 ≤ 60) := by
  have hread : (∃ t, DateTime.read s = .ok t) ↔
      IsDay (numberAt s 0 4) (numberAt s 5 2) (numberAt s 8 2) ∧
        numberAt s 11 2 ≤ 23 ∧ numberAt s 14 2 ≤ 59 ∧ numberAt s 17 2 ≤ 60 := by
    simp only [DateTime.read_of_form hform, orOutOfRange_eq_ok_iff,
      LayoutNumbers.dateTime?_eq_some_iff]
    rw [← Date.exists_of?_iff, ← Time.exists_ofShown?_iff]
    constructor
    · rintro ⟨t, hd, ht⟩
      exact ⟨⟨t.date, hd⟩, t.time, ht⟩
    · rintro ⟨⟨d, hd⟩, t, ht⟩
      exact ⟨⟨d, t⟩, hd, ht⟩
  exact restores_of (decode_text_of_dateTime hk) (encode_dateTime hk) hread
    fun _ => DateTime.text_of_read hform

end Field

end TypedDocument
