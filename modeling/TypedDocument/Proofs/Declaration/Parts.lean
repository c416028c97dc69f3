import TypedDocument.Declaration.Schema
import TypedDocument.Proofs.Declaration.Options
import TypedDocument.Proofs.Traversal

/-!
# Members of a schema declaration, all at once

The members of a schema declaration are read one after the other. Two of them hold the title and the
description, and every other one declares an entry of its own, so the outcome is what lookups and a
traversal give.
-/

namespace TypedDocument.Schema

open Declaration

/-- The members of a schema declaration that are set apart from its entries. -/
def isHeading (key : String) : Bool := key = "$title" || key = "$description"

/-- The members of a schema declaration that declare its entries. -/
def entryMembers (ms : List (String × Json)) : List (String × Json) :=
  ms.filter fun m => !isHeading m.1

/-- Sets the title or the description. -/
def Parts.withHeading (key text : String) (parts : Parts) : Parts :=
  if key = "$title" then { parts with title := some text }
  else { parts with description := some text }

/-- What the members of a schema declaration add to the parts read before them. -/
def Parts.withMembers (ms : List (String × Json)) (es : Entries String SchemaEntry)
    (parts : Parts) : Parts where
  entries := parts.entries ++ es.map fun e => (SchemaKey.ofText e.1, e.2)
  title := (said Json.string? "$title" ms).or parts.title
  description := (said Json.string? "$description" ms).or parts.description

variable {ms : List (String × Json)} {es : Entries String SchemaEntry} {parts parts' : Parts}
  {key text : String} {j : Json}

theorem isHeading_iff : isHeading key = true ↔ key = "$title" ∨ key = "$description" := by
  simp [isHeading]

theorem isHeading_eq_false_iff :
    isHeading key = false ↔ key ≠ "$title" ∧ key ≠ "$description" := by
  simp [isHeading]

@[simp] theorem mem_entryMembers_iff :
    (key, j) ∈ entryMembers ms ↔ (key, j) ∈ ms ∧ isHeading key = false := by
  simp [entryMembers]

@[simp] theorem entryMembers_cons :
    entryMembers ((key, j) :: ms) =
      if isHeading key then entryMembers ms else (key, j) :: entryMembers ms := by
  cases h : isHeading key <;> simp [entryMembers, h]

/-! ## One member -/

theorem readParts_cons_heading (h : isHeading key = true) :
    readParts ((key, j) :: ms) parts = (do
      let text ← readText [] key j
      readParts ms (parts.withHeading key text)) := by
  rcases isHeading_iff.mp h with rfl | rfl <;> rfl

theorem readParts_cons_entry (h : isHeading key = false) :
    readParts ((key, j) :: ms) parts = (do
      let entry ← readEntry [key] j
      readParts ms { parts with entries := parts.entries ++ [(SchemaKey.ofText key, entry)] }) := by
  obtain ⟨htitle, hdescription⟩ := isHeading_eq_false_iff.mp h
  rw [readParts, if_neg htitle, if_neg hdescription]

theorem Parts.withMembers_heading (h : isHeading key = true) (hkey : key ∉ Entries.keys ms)
    (hj : j.string? = some text) :
    (parts.withHeading key text).withMembers ms es = parts.withMembers ((key, j) :: ms) es := by
  rcases isHeading_iff.mp h with rfl | rfl <;>
    simp [withMembers, withHeading, said_of_not_mem hkey, hj]

theorem Parts.withMembers_entry (h : isHeading key = false) (entry : SchemaEntry) :
    { parts with entries := parts.entries ++ [(SchemaKey.ofText key, entry)] }.withMembers ms es =
      parts.withMembers ((key, j) :: ms) ((key, entry) :: es) := by
  obtain ⟨htitle, hdescription⟩ := isHeading_eq_false_iff.mp h
  simp [withMembers, htitle, hdescription]

/-! ## All members -/

/-- The members of a schema declaration can be read if its headings are texts and each other member
declares an entry, and then they add what they say. -/
theorem readParts_eq_ok_iff (h : Entries.Distinct ms) :
    readParts ms parts = .ok parts' ↔
      (∀ key j, (key, j) ∈ ms → isHeading key = true → j.string?.isSome = true) ∧
        ∃ es, Entries.traverse (fun key j => readEntry [key] j) (entryMembers ms) = .ok es ∧
          parts' = parts.withMembers ms es := by
  induction ms generalizing parts with
  | nil =>
    rw [readParts, Except.ok.injEq]
    constructor
    · rintro rfl
      exact ⟨nofun, [], rfl, by simp [Parts.withMembers]⟩
    · rintro ⟨-, es, hes, rfl⟩
      cases hes
      simp [Parts.withMembers]
  | cons m rest ih =>
    obtain ⟨key, j⟩ := m
    obtain ⟨hkey, hrest⟩ := Entries.distinct_cons_iff.mp h
    have hforall : (∀ k i, (k, i) ∈ (key, j) :: rest →
        isHeading k = true → i.string?.isSome = true) ↔
        (isHeading key = true → j.string?.isSome = true) ∧
          ∀ k i, (k, i) ∈ rest → isHeading k = true → i.string?.isSome = true := by
      simp only [List.mem_cons, Prod.mk.injEq, or_imp, and_imp, forall_and, forall_eq_apply_imp_iff,
        forall_eq]
    rw [hforall, entryMembers_cons]
    cases hheading : isHeading key with
    | true =>
      rw [readParts_cons_heading hheading, bind_eq_ok_iff]
      simp only [readText_eq_ok_iff, ih hrest, if_pos, forall_const, Option.isSome_iff_exists]
      constructor
      · rintro ⟨text, hj, hformed, es, hes, rfl⟩
        exact ⟨⟨⟨text, hj⟩, hformed⟩, es, hes, Parts.withMembers_heading hheading hkey hj⟩
      · rintro ⟨⟨⟨text, hj⟩, hformed⟩, es, hes, rfl⟩
        exact ⟨text, hj, hformed, es, hes, (Parts.withMembers_heading hheading hkey hj).symm⟩
    | false =>
      rw [readParts_cons_entry hheading, bind_eq_ok_iff]
      simp only [ih hrest, Bool.false_eq_true, false_implies, true_and, if_false,
        Entries.traverse_cons_eq_ok_iff]
      constructor
      · rintro ⟨entry, hentry, hformed, es, hes, rfl⟩
        exact ⟨hformed, _, ⟨entry, hentry, es, hes, rfl⟩, Parts.withMembers_entry hheading entry⟩
      · rintro ⟨hformed, _, ⟨entry, hentry, es, hes, rfl⟩, rfl⟩
        refine ⟨entry, hentry, hformed, es, hes, ?_⟩
        exact (Parts.withMembers_entry hheading entry).symm

/-- The schema that the members of a declaration declare. -/
def declared (ms : List (String × Json)) (es : Entries String SchemaEntry) : Schema where
  root := Dict.ofEntries (es.map fun e => (SchemaKey.ofText e.1, e.2))
  title := said Json.string? "$title" ms
  description := said Json.string? "$description" ms

theorem ofDeclaration_object_eq_ok_iff (h : Entries.Distinct ms) {s : Schema} :
    ofDeclaration (.object ms) = .ok s ↔
      (∀ key j, (key, j) ∈ ms → isHeading key = true → j.string?.isSome = true) ∧
        ∃ es, Entries.traverse (fun key j => readEntry [key] j) (entryMembers ms) = .ok es ∧
          s = declared ms es := by
  have hdeclared : ∀ es, (⟨Dict.ofEntries (Parts.withMembers ms es {}).entries,
      (Parts.withMembers ms es {}).title, (Parts.withMembers ms es {}).description⟩ : Schema) =
      declared ms es := by
    intro es
    simp [Parts.withMembers, declared]
  simp only [ofDeclaration, bind_eq_ok_iff, readParts_eq_ok_iff h, pure_eq_ok, Except.ok.injEq]
  constructor
  · rintro ⟨_, ⟨hformed, es, hes, rfl⟩, rfl⟩
    exact ⟨hformed, es, hes, hdeclared es⟩
  · rintro ⟨hformed, es, hes, rfl⟩
    exact ⟨_, ⟨hformed, es, hes, rfl⟩, hdeclared es⟩

/-- An object declares a schema if its headings are texts and each other member declares an
entry. -/
theorem ofDeclaration_object_ok_iff (h : Entries.Distinct ms) :
    (∃ s, ofDeclaration (.object ms) = .ok s) ↔
      (∀ key j, (key, j) ∈ ms → isHeading key = true → j.string?.isSome = true) ∧
        ∃ es, Entries.traverse (fun key j => readEntry [key] j) (entryMembers ms) = .ok es := by
  constructor
  · rintro ⟨s, hs⟩
    obtain ⟨hformed, es, hes, -⟩ := (ofDeclaration_object_eq_ok_iff h).mp hs
    exact ⟨hformed, es, hes⟩
  · rintro ⟨hformed, es, hes⟩
    exact ⟨_, (ofDeclaration_object_eq_ok_iff h).mpr ⟨hformed, es, hes, rfl⟩⟩

end TypedDocument.Schema
