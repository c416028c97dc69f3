import TypedDocument.Proofs.Conversion.Coverage
import TypedDocument.Proofs.Schema.Document

/-!
# Candidates of validation and of encoding

Validation tries the candidates of a list until one accepts an element in depth, but encoding
takes the first one whose type the element has. Where the two differ, encoding can fail on a
valid document or give a result without a JSON form. A valid document is written out exactly if
each element of its lists is covered by the first candidate of its type, and this always holds
if lists tell their candidates apart by type.
-/

namespace TypedDocument

/-- Kinds that say what their values are: they are not for any value, and their lists have
candidates. -/
def FieldKind.Explicit : FieldKind → Prop
  | any => False
  | list candidates _ _ => candidates ≠ []
  | _ => True

instance : DecidablePred FieldKind.Explicit
  | .any => inferInstanceAs (Decidable False)
  | .list candidates _ _ => inferInstanceAs (Decidable (candidates ≠ []))
  | .null | .bool | .int _ | .long _ | .float _ | .text _ | .dateTime | .date | .time | .field |
    .dict _ => inferInstanceAs (Decidable True)

/-- Lists whose candidates are told apart by type: no two of them are for lists, and no two for
mappings. -/
def FieldKind.Distinguishing : FieldKind → Prop
  | list candidates _ _ => ∀ c ∈ candidates, ∀ c' ∈ candidates, ∀ v : Value, v.isContainer = true →
      c.kind.accepts v = true → c'.kind.accepts v = true → c = c'
  | _ => True

namespace Value

/-- A float that is no NaN and no infinity. -/
def FloatFinite : Value → Prop
  | float x => x.isFinite = true
  | _ => True

/-- An element of a list within a value and the first candidate of its type, where the list is
reached through the entries of mappings. -/
inductive Picks : Value → Field → Value → Field → Prop where
  | element {items : List Value} {f : Field} {candidates : List Field} {least : Nat}
    {most : Option Nat} {x : Value}
    {c : Field} (kind : f.kind = .list candidates least most) (mem : x ∈ items)
    (first : x.firstCandidate? candidates = some c) : Picks (.list items) f x c
  | entry {es : Mapping} {f : Field} {d : Dict} {key : String} {v : Value} {g : Field} {x : Value}
    {c : Field} (kind : f.kind = .dict d) (mem : (key, v) ∈ es) (governed : d.field? key = some g)
    (picks : Picks v g x c) :
    Picks (.map es) f x c

variable {partially : Bool} {f c : Field} {v x : Value}

theorem mem_of_firstCandidate? {candidates : List Field}
    (h : x.firstCandidate? candidates = some c) : c ∈ candidates :=
  List.mem_of_find?_eq_some h

theorem accepts_of_firstCandidate? {candidates : List Field}
    (h : x.firstCandidate? candidates = some c) : c.kind.accepts x = true :=
  List.find?_some (p := fun c : Field => c.kind.accepts x) h

/-- What conforms to a candidate has the type of a candidate, unless it is null. -/
theorem eq_null_of_firstCandidate?_eq_none {candidates : List Field}
    (h : x.firstCandidate? candidates = none) (hc : c ∈ candidates)
    (hconforms : Conforms partially x c) : x = .null := by
  by_cases hx : x = .null
  · exact hx
  · have hnot := List.find?_eq_none.mp h c hc
    exact absurd (accepts_of_conforms hx hconforms) hnot

theorem covered_null : null.Covered f := covered_of_hasJsonType rfl trivial

/-- A scalar is covered by any field that has its type and is not for any value. -/
theorem covered_of_accepts (hv : v.isContainer = false) (hf : f.kind.Explicit)
    (hfinite : v.FloatFinite) (haccepts : f.kind.accepts v = true) : v.Covered f := by
  rw [covered_leaf_iff hv]
  cases v with
  | list => cases hv
  | map => cases hv
  | float => exact .inl hfinite
  | dateTime | date | time | field =>
    right
    cases hk : f.kind <;> simp_all [FieldKind.accepts, FieldKind.Explicit]
  | _ => exact .inl trivial

/-- A conforming value is covered as soon as the elements of its lists are. -/
theorem covered_of_picks {v : Value} :
    ∀ f : Field, Conforms partially v f → f.Everywhere FieldKind.Explicit →
      v.Everywhere FloatFinite → (∀ x c, Picks v f x c → x.Covered c) → v.Covered f := by
  induction v using containerInduction with
  | leaf v hv =>
    intro f hconforms hf hfinite _
    by_cases hnull : v = .null
    · subst hnull
      exact covered_null
    · have haccepts := accepts_of_conforms hnull hconforms
      exact covered_of_accepts hv hf.kind ((everywhere_leaf_iff hv).mp hfinite) haccepts
  | list items ih =>
    intro f hconforms hf hfinite hpicks
    have haccepts := accepts_of_conforms (by simp) hconforms
    have hexplicit := hf.kind
    cases hk : f.kind with
    | list candidates least most =>
      apply (covered_list_iff hk).mpr
      intro v hv
      cases hfirst : v.firstCandidate? candidates with
      | some c => exact .first hfirst (hpicks v c (.element hk hv hfirst))
      | none =>
        rw [hk] at hexplicit
        obtain ⟨c, hc, hvc⟩ := ((conforms_list_iff hk).mp hconforms).2 hexplicit v hv
        refine .passed hfirst ?_
        rw [eq_null_of_firstCandidate?_eq_none hfirst hc hvc]
        exact (everywhere_leaf_iff rfl).mpr trivial
    | any => simp [hk, FieldKind.Explicit] at hexplicit
    | _ => simp [hk, FieldKind.accepts] at haccepts
  | map es ih =>
    intro f hconforms hf hfinite hpicks
    have haccepts := accepts_of_conforms (by simp) hconforms
    have hexplicit := hf.kind
    cases hk : f.kind with
    | dict d =>
      apply (covered_map_iff hk).mpr
      intro key v hv
      obtain ⟨g, hg, hvg⟩ := ((conforms_map_iff hk).mp hconforms).1 key v hv
      refine ⟨g, hg, ?_⟩
      apply ih key v hv g hvg ((hf.dict hk).field hg) ((everywhere_map_iff.mp hfinite).2 key v hv)
      intro x c hx
      exact hpicks x c (.entry hk hv hg hx)
    | any => simp [hk, FieldKind.Explicit] at hexplicit
    | _ => simp [hk, FieldKind.accepts] at haccepts

/-- Covering a value takes covering the elements of its lists. -/
theorem Picks.covered (h : Picks v f x c) (hcovered : v.Covered f) : x.Covered c := by
  induction h with
  | element kind mem first =>
    cases (covered_list_iff kind).mp hcovered _ mem with
    | first first' covered =>
      rw [first] at first'
      cases first'
      exact covered
    | passed none => simp [first] at none
  | entry kind mem governed _ ih =>
    obtain ⟨g, hg, hvg⟩ := (covered_map_iff kind).mp hcovered _ _ mem
    rw [governed] at hg
    cases hg
    exact ih hvg

theorem Picks.first (h : Picks v f x c) : ∃ candidates, x.firstCandidate? candidates = some c := by
  induction h with
  | element _ _ first => exact ⟨_, first⟩
  | entry _ _ _ _ ih => exact ih

theorem Picks.within (h : Picks v f x c) : v.Within x := by
  induction h with
  | element _ mem => exact .item mem (.self _)
  | entry _ mem _ _ ih => exact .entry mem ih

theorem Picks.sizeOf_lt (h : Picks v f x c) : sizeOf x < sizeOf v := by
  induction h with
  | element _ mem => exact sizeOf_lt_list mem
  | entry _ mem _ _ ih => exact Nat.lt_trans ih (sizeOf_lt_map mem)

/-- The candidate that encodes an element is a part of the field. -/
theorem Picks.everywhere {p : FieldKind → Prop} (h : Picks v f x c) (hf : f.Everywhere p) :
    c.Everywhere p := by
  induction h with
  | element kind _ first => exact hf.candidate kind (mem_of_firstCandidate? first)
  | entry kind _ governed _ ih => exact ih ((hf.dict kind).field governed)

/-- Where lists tell their candidates apart by type, a list or a mapping is encoded by a
candidate it conforms to. -/
theorem Picks.conforms (h : Picks v f x c) (hx : x.isContainer = true)
    (hconforms : Conforms partially v f) (hf : f.Everywhere FieldKind.Distinguishing) :
    Conforms partially x c := by
  induction h with
  | @element _ _ candidates _ _ x c kind mem first =>
    have hmem := mem_of_firstCandidate? first
    have helements := ((conforms_list_iff kind).mp hconforms).2 (List.ne_nil_of_mem hmem)
    obtain ⟨c', hc', hxc'⟩ := helements x mem
    have hne : x ≠ .null := by
      rintro rfl
      cases hx
    -- Both the candidate that encodes the element and one it conforms to have its type.
    have hfirst := accepts_of_firstCandidate? first
    have hother := accepts_of_conforms hne hxc'
    have hsame : c = c' := by
      have hdistinguishing := hf.kind
      rw [kind] at hdistinguishing
      exact hdistinguishing c hmem c' hc' x hx hfirst hother
    exact hsame ▸ hxc'
  | entry kind mem governed _ ih =>
    obtain ⟨g, hg, hvg⟩ := ((conforms_map_iff kind).mp hconforms).1 _ _ mem
    rw [governed] at hg
    cases hg
    exact ih hx hvg ((hf.dict kind).field governed)

/-- Where lists tell their candidates apart by type, whatever conforms is covered. -/
theorem covered_of_distinguishing (v : Value) (f : Field) (hconforms : Conforms partially v f)
    (hf : f.Everywhere FieldKind.Explicit) (hd : f.Everywhere FieldKind.Distinguishing)
    (hfinite : v.Everywhere FloatFinite) : v.Covered f := by
  apply covered_of_picks f hconforms hf hfinite
  intro x c h
  have hxfinite : x.Everywhere FloatFinite := fun w hw => hfinite w (h.within.trans hw)
  cases hx : x.isContainer with
  | true =>
    have := h.sizeOf_lt
    exact covered_of_distinguishing x c (h.conforms hx hconforms hd) (h.everywhere hf)
      (h.everywhere hd) hxfinite
  | false =>
    obtain ⟨_, hfirst⟩ := h.first
    exact covered_of_accepts hx (h.everywhere hf).kind ((everywhere_leaf_iff hx).mp hxfinite)
      (accepts_of_firstCandidate? hfirst)
termination_by sizeOf v

end Value

namespace Schema

variable {s : Schema} {partially : Bool} {doc : Value}

theorem written_iff_covered (hwords : doc.Everywhere Value.FieldHasWordLengths) {es : Mapping}
    (hdoc : doc = .map es) :
    (∃ w j, s.encode doc = .ok w ∧ w.toJson = .ok j) ↔ doc.Covered (Field.dict s.root) := by
  rw [← Value.writtenOut_iff_covered hwords, hdoc, encode_map]
  simp only [Value.WrittenOut, ← Value.toJson_ok_iff, exists_and_left]

/-- A valid document is written out exactly if each element of its lists is covered by the first
candidate of its type. Where lists tell their candidates apart by type, every valid document is
written out. -/
theorem written_iff_picks_covered (hs : s.root.Everywhere FieldKind.Explicit)
    (hdoc : s.validate doc partially = .ok ()) (hfinite : doc.Everywhere Value.FloatFinite)
    (hwords : doc.Everywhere Value.FieldHasWordLengths) :
    ((∃ w j, s.encode doc = .ok w ∧ w.toJson = .ok j) ↔
      ∀ x c, doc.Picks (Field.dict s.root) x c → x.Covered c) ∧
    (s.root.Everywhere FieldKind.Distinguishing →
      ∃ w j, s.encode doc = .ok w ∧ w.toJson = .ok j) := by
  obtain ⟨es, rfl, hconforms⟩ := validate_eq_ok_iff.mp hdoc
  have hroot : (Field.dict s.root).Everywhere FieldKind.Explicit :=
    Field.everywhere_dict_iff.mpr ⟨trivial, hs⟩
  rw [written_iff_covered hwords rfl]
  constructor
  · constructor
    · intro hcovered x c h
      exact h.covered hcovered
    · exact Value.covered_of_picks _ hconforms hroot hfinite
  · intro hd
    have hdistinguishing : (Field.dict s.root).Everywhere FieldKind.Distinguishing :=
      Field.everywhere_dict_iff.mpr ⟨trivial, hd⟩
    exact Value.covered_of_distinguishing _ _ hconforms hroot hdistinguishing hfinite

/-- Holidays are days or named feasts. -/
def holidayField : Field := .list [.date, .dict [(.name "feast", .text)]]

/-- The first of May and a feast. -/
def holidays : Value := .list [.date ⟨2024, 5, 1, by decide⟩, .map [("feast", .text "Easter")]]

/-- The holidays are written out: no day is a mapping. -/
theorem written_holidays :
    ∃ w j, (ofDict [(.name "holidays", holidayField)]).encode (.map [("holidays", holidays)]) =
      .ok w ∧ w.toJson = .ok j := by
  have hvalid : (ofDict [(.name "holidays", holidayField)]).validate
      (.map [("holidays", holidays)]) false = .ok () := toBool_eq_true_iff.mp (by decide +kernel)
  have hvalues : ∀ p : Value → Prop, (∀ es, p (.map es)) → (∀ items, p (.list items)) →
      (∀ d, p (.date d)) → (∀ t, p (.text t)) →
      (Value.map [("holidays", holidays)]).Everywhere p := by
    intro p hmap hlist hdate htext
    have hday := (Value.everywhere_leaf_iff (v := .date ⟨2024, 5, 1, by decide⟩) rfl).mpr (hdate _)
    have hfeast := (Value.everywhere_leaf_iff (v := .text "Easter") rfl).mpr (htext _)
    simp [holidays, hmap, hlist, hday, hfeast]
  have hfinite := hvalues Value.FloatFinite (fun _ => trivial) (fun _ => trivial) (fun _ => trivial)
    fun _ => trivial
  have hwords := hvalues Value.FieldHasWordLengths (fun _ => trivial) (fun _ => trivial)
    (fun _ => trivial) fun _ => trivial
  have hlist : holidayField.kind.Distinguishing := by
    intro c hc c' hc' v hv h h'
    -- A list or a mapping is no day, so both are the candidate for mappings.
    have honly : ∀ c ∈ [Field.date, .dict [(.name "feast", .text)]], c.kind.accepts v = true →
        c = .dict [(.name "feast", .text)] := by
      intro c hc h
      cases hc with
      | head => cases v <;> cases hv <;> cases h
      | tail _ hc => exact List.mem_singleton.mp hc
    rw [honly c hc h, honly c' hc' h']
  have hfeast : (Field.dict [(.name "feast", .text)]).Everywhere FieldKind.Distinguishing :=
    Field.everywhere_dict_iff.mpr ⟨trivial, Dict.everywhere_cons.mpr
      ⟨Field.everywhere_of_plain rfl trivial, Dict.everywhere_nil⟩⟩
  apply (written_iff_picks_covered (s := ofDict _) (by decide) hvalid hfinite hwords).2
  refine Dict.everywhere_cons.mpr ⟨Field.everywhere_list_iff.mpr ⟨hlist, ?_⟩, Dict.everywhere_nil⟩
  exact List.forall_mem_cons.mpr ⟨Field.everywhere_of_plain rfl trivial,
    List.forall_mem_singleton.mpr hfeast⟩

/-- Of two candidates for mappings the first encodes an element that only the second accepts,
and fails. -/
theorem unwritten_second_candidate :
    Dict.Everywhere FieldKind.Explicit
        [(.name "xs", .list [.dict [(.name "a", .int)], .dict [(.name "b", .int)]])] ∧
      (ofDict [(.name "xs", .list [.dict [(.name "a", .int)], .dict [(.name "b", .int)]])]).validate
        (.map [("xs", .list [.map [("b", .int 1)]])]) false = .ok () ∧
      (Value.map [("xs", .list [.map [("b", .int 1)]])]).Everywhere Value.FloatFinite ∧
      ¬ ∃ w,
        (ofDict [(.name "xs", .list [.dict [(.name "a", .int)], .dict [(.name "b", .int)]])]).encode
          (.map [("xs", .list [.map [("b", .int 1)]])]) = .ok w := by
  refine ⟨by decide, toBool_eq_true_iff.mp (by decide +kernel), ?_, ?_⟩
  · have hone : (Value.int 1).Everywhere Value.FloatFinite :=
      (Value.everywhere_leaf_iff rfl).mpr trivial
    simp [hone, Value.FloatFinite]
  · rintro ⟨w, hw⟩
    cases hw

end Schema

end TypedDocument
