import TypedDocument.Declaration.Options
import TypedDocument.Proofs.Entries
import TypedDocument.Proofs.Outcome

/-!
# Options of a declaration, all at once

Options are set one after the other, each by its own member. No two of them touch the same part of a
field, and none changes its type, so the outcome is what lookups in the members give: each part of
the field is what the member of its name says, or stays as it is.
-/

namespace TypedDocument

namespace Declaration

/-! ## What a member says -/

/-- What the member under a name says, if it is there and has the right form. -/
def said {α : Type} (read : Json → Option α) (key : String) (members : List (String × Json)) :
    Option α :=
  (Entries.get? key members).bind read

def flag? : Json → Option Bool
  | .bool b => some b
  | _ => none

def length? : Json → Option Nat
  | .integer (.ofNat n) => some n
  | _ => none

def bound? : Json → Option Number
  | .integer i => some (if fitsInt64 i then .int (Int64.ofInt i) else .float (Float.ofInt i))
  | .float x => some (.float x)
  | _ => none

def pattern? (j : Json) : Option Pattern := j.string?.bind Pattern.compile?

/-- Whether an option suits the type of a field and has the right form. -/
def Admits (typeName : String) (kind : FieldKind) (option : String) (j : Json) : Bool :=
  option = "type" || option = "default" || holdsFields typeName option ||
    match option with
    | "optional" | "can_be_none" => (flag? j).isSome
    | "title" | "description" => j.string?.isSome
    | "min" | "max" => hasBounds kind && (bound? j).isSome
    | "length" => hasRules kind && (length? j).isSome
    | "match" => hasRules kind && (pattern? j).isSome
    | "min_len" | "max_len" => (hasRules kind || isList kind) && (length? j).isSome
    | _ => false

end Declaration

/-! ## Fields with declared options -/

section WithMembers

open Declaration

def FieldOptions.withMembers (ms : List (String × Json)) (o : FieldOptions) : FieldOptions where
  optional := (said flag? "optional" ms).getD o.optional
  nullable := (said flag? "can_be_none" ms).getD o.nullable
  title := (said Json.string? "title" ms).or o.title
  description := (said Json.string? "description" ms).or o.description

def Bounds.withMembers (ms : List (String × Json)) (b : Bounds) : Bounds where
  min := (said bound? "min" ms).or b.min
  max := (said bound? "max" ms).or b.max

def TextRules.withMembers (ms : List (String × Json)) (r : TextRules) : TextRules where
  length := (said length? "length" ms).or r.length
  minLen := (said length? "min_len" ms).or r.minLen
  maxLen := (said length? "max_len" ms).or r.maxLen
  pattern := (said pattern? "match" ms).or r.pattern

def FieldKind.withMembers (ms : List (String × Json)) : FieldKind → FieldKind
  | .int b => .int (b.withMembers ms)
  | .long b => .long (b.withMembers ms)
  | .float b => .float (b.withMembers ms)
  | .text r => .text (r.withMembers ms)
  | .list candidates least most =>
    .list candidates ((said length? "min_len" ms).getD least) ((said length? "max_len" ms).or most)
  | kind => kind

/-- A field with every option that is declared. -/
def Field.withMembers (ms : List (String × Json)) (f : Field) : Field :=
  .mk (f.kind.withMembers ms) (f.options.withMembers ms) f.default

end WithMembers

namespace Declaration

variable {node : Pointer} {typeName option key : String} {j : Json} {f g : Field}
  {kind : FieldKind} {ms : List (String × Json)}

/-! ## Readers of options -/

@[simp] theorem readFlag_eq_ok_iff {b : Bool} :
    readFlag node option j = .ok b ↔ flag? j = some b := by
  cases j <;> simp [readFlag, flag?, expected, invalid]

@[simp] theorem readText_eq_ok_iff {s : String} :
    readText node option j = .ok s ↔ j.string? = some s := by
  cases j <;> simp [readText, Json.string?, expected, invalid]

@[simp] theorem readLength_eq_ok_iff {n : Nat} :
    readLength node option j = .ok n ↔ length? j = some n := by
  cases j with
  | integer i => cases i <;> simp [readLength, length?, invalid]
  | _ => simp [readLength, length?, invalid]

@[simp] theorem readBound_eq_ok_iff {n : Number} :
    readBound node option j = .ok n ↔ bound? j = some n := by
  cases j <;> simp [readBound, bound?, expected, invalid]

@[simp] theorem readPattern_eq_ok_iff {p : Pattern} :
    readPattern node option j = .ok p ↔ pattern? j = some p := by
  cases j with
  | string s =>
    cases h : Pattern.compile? s <;> simp [readPattern, readText, pattern?, Json.string?, h]
  | _ => simp [readPattern, readText, pattern?, Json.string?, expected, invalid]

/-! ## One option -/

section Said

variable {α : Type} {read : Json → Option α}

@[simp] theorem said_nil : said read key [] = none := rfl

@[simp] theorem said_cons :
    said read key ((option, j) :: ms) = if option = key then read j else said read key ms := by
  simp only [said, Entries.get?, beq_iff_eq]
  split <;> rfl

theorem said_of_not_mem (h : key ∉ Entries.keys ms) : said read key ms = none := by
  rw [said, Entries.get?_eq_none_iff.mpr h]
  rfl

/-- A member says what it says before the others do, if its name is its own. -/
theorem said_or_said (h : option ∉ Entries.keys ms) :
    (said read key ms).or (said read key [(option, j)]) = said read key ((option, j) :: ms) := by
  by_cases hkey : option = key
  · subst hkey
    simp [said_of_not_mem h]
  · simp [hkey]

end Said

/-- An option that is read and set. -/
theorem set_eq_ok_iff {α : Type} {read : Except DeclarationError α} {said : Option α}
    {set : α → Field} (hread : ∀ {a}, read = .ok a ↔ said = some a)
    (hset : ∀ a, said = some a → set a = f) :
    (do return set (← read)) = .ok g ↔ said.isSome = true ∧ g = f := by
  simp only [bind_eq_ok_iff, hread, Option.isSome_iff_exists, pure_eq_ok, Except.ok.injEq]
  constructor
  · rintro ⟨a, ha, rfl⟩
    exact ⟨⟨a, ha⟩, hset a ha⟩
  · rintro ⟨⟨a, ha⟩, rfl⟩
    exact ⟨a, ha, hset a ha⟩

/-- An option that not every type has. -/
theorem guarded_eq_ok_iff {suits formed : Bool} {x : Except DeclarationError Field}
    (h : x = .ok g ↔ formed = true ∧ g = f) :
    (if suits then x else setOption.unsupported node typeName option) = .ok g ↔
      (suits && formed) = true ∧ g = f := by
  cases suits with
  | true => exact h
  | false => simp [setOption.unsupported, invalid]

/-- Members that name no option leave a field as it is. -/
theorem withMembers_skipped
    (h : (option = "type" || option = "default" || holdsFields typeName option) = true)
    (f : Field) :
    f.withMembers [(option, j)] = f := by
  have hname : option = "type" ∨ option = "default" ∨ option = "fields" ∨ option = "schema" := by
    simp only [holdsFields, Bool.or_eq_true, decide_eq_true_eq, Bool.and_eq_true, beq_iff_eq] at h
    rcases h with (h | h) | ⟨h, -⟩ | ⟨h, -⟩ <;> simp [h]
  obtain ⟨kind, options, default⟩ := f
  rcases hname with rfl | rfl | rfl | rfl <;> cases kind <;>
    simp [Field.withMembers, FieldKind.withMembers, FieldOptions.withMembers, Bounds.withMembers,
      TextRules.withMembers, Field.kind, Field.options, Field.default]

/-- One option is set if it is admitted, and then it is what lookups in its member give. -/
theorem setOption_eq_ok_iff :
    setOption node typeName option j f = .ok g ↔
      Admits typeName f.kind option j = true ∧ g = f.withMembers [(option, j)] := by
  unfold setOption Admits
  split
  · next hskip => simp only [hskip, withMembers_skipped hskip, Bool.true_or, true_and,
      Except.ok.injEq, eq_comm]
  · next hskip =>
    rw [eq_false_of_ne_true hskip, Bool.false_or]
    -- Each option is read in its own way; what it then sets is found out kind by kind.
    split <;> first
      | refine set_eq_ok_iff readFlag_eq_ok_iff ?_
      | refine set_eq_ok_iff readText_eq_ok_iff ?_
      | refine guarded_eq_ok_iff (set_eq_ok_iff readBound_eq_ok_iff ?_)
      | refine guarded_eq_ok_iff (set_eq_ok_iff readLength_eq_ok_iff ?_)
      | refine guarded_eq_ok_iff (set_eq_ok_iff readPattern_eq_ok_iff ?_)
      | simp [setOption.unsupported, invalid]
    all_goals
      intro a ha
      obtain ⟨kind, options, default⟩ := f
      cases kind <;>
        simp [Field.withOptional, Field.withNullable, Field.withTitle, Field.withDescription,
          Field.withMin, Field.withMax, Field.withLength, Field.withPattern, Field.withMinLen,
          Field.withMaxLen, Field.mapBounds, Field.mapRules, Field.withKind, Field.withMembers,
          FieldKind.withMembers, FieldOptions.withMembers, Bounds.withMembers,
          TextRules.withMembers, Field.kind, Field.options, Field.default, ha]

/-! ## All options -/

theorem admits_withMembers (kind : FieldKind) :
    Admits typeName (kind.withMembers ms) option j = Admits typeName kind option j := by
  cases kind <;> rfl

/-- What every member keeps of a field, all options together keep. -/
theorem of_setOptions_eq_ok {p : Field → Prop}
    (hp : ∀ option j, (option, j) ∈ ms → ∀ f, p f → p (f.withMembers [(option, j)]))
    (h : setOptions node typeName ms f = .ok g) (hf : p f) : p g := by
  induction ms generalizing f with
  | nil =>
    cases h
    exact hf
  | cons m rest ih =>
    obtain ⟨option, j⟩ := m
    rw [setOptions, bind_eq_ok_iff] at h
    obtain ⟨_, hset, hsets⟩ := h
    obtain ⟨-, rfl⟩ := setOption_eq_ok_iff.mp hset
    exact ih (fun o i hi => hp o i (List.mem_cons_of_mem _ hi)) hsets
      (hp option j List.mem_cons_self f hf)

/-- Members may be taken one after the other, if the first does not come again. -/
theorem withMembers_withMembers (h : option ∉ Entries.keys ms) (f : Field) :
    (f.withMembers [(option, j)]).withMembers ms = f.withMembers ((option, j) :: ms) := by
  have hor : ∀ {α : Type} (read : Json → Option α) (key : String) (o : Option α),
      (said read key ms).or ((said read key [(option, j)]).or o) =
        (said read key ((option, j) :: ms)).or o := by
    intro α read key o
    rw [← Option.or_assoc, said_or_said h]
  have hgetD : ∀ {α : Type} (read : Json → Option α) (key : String) (a : α),
      (said read key ms).getD ((said read key [(option, j)]).getD a) =
        (said read key ((option, j) :: ms)).getD a := by
    intro α read key a
    rw [← said_or_said h, Option.getD_or]
  obtain ⟨kind, options, default⟩ := f
  cases kind <;>
    simp only [Field.withMembers, FieldKind.withMembers, FieldOptions.withMembers,
      Bounds.withMembers, TextRules.withMembers, Field.kind, Field.options, Field.default, hor,
      hgetD]

/-- The members of a declaration set their options if each of them is admitted, and then each part
of the field is what the member of its name says. -/
theorem setOptions_eq_ok_iff (h : Entries.Distinct ms) :
    setOptions node typeName ms f = .ok g ↔
      (∀ option j, (option, j) ∈ ms → Admits typeName f.kind option j = true) ∧
        g = f.withMembers ms := by
  induction ms generalizing f with
  | nil =>
    have hnil : f.withMembers [] = f := by
      obtain ⟨kind, options, default⟩ := f
      cases kind <;> rfl
    rw [setOptions, hnil, Except.ok.injEq, eq_comm]
    exact (and_iff_right fun _ _ h => by cases h).symm
  | cons m rest ih =>
    obtain ⟨option, j⟩ := m
    obtain ⟨hoption, hrest⟩ := Entries.distinct_cons_iff.mp h
    rw [setOptions, bind_eq_ok_iff]
    constructor
    · rintro ⟨_, hset, hsets⟩
      obtain ⟨hadmits, rfl⟩ := setOption_eq_ok_iff.mp hset
      obtain ⟨hadmitted, rfl⟩ := (ih hrest).mp hsets
      refine ⟨?_, withMembers_withMembers hoption f⟩
      intro o i hi
      rcases List.mem_cons.mp hi with hi | hi
      · cases hi
        exact hadmits
      · exact admits_withMembers f.kind ▸ hadmitted o i hi
    · rintro ⟨hadmitted, rfl⟩
      refine ⟨_, setOption_eq_ok_iff.mpr ⟨hadmitted option j List.mem_cons_self, rfl⟩, ?_⟩
      refine (ih hrest).mpr ⟨?_, (withMembers_withMembers hoption f).symm⟩
      intro o i hi
      rw [Field.withMembers, Field.kind, admits_withMembers]
      exact hadmitted o i (List.mem_cons_of_mem _ hi)

end Declaration

end TypedDocument
