import TypedDocument.Proofs.Converter.SchemaConversion
import TypedDocument.Proofs.Path.Moves
import TypedDocument.Proofs.Reordering.Reading

/-!
# Renames are undone by their inverse

A rename moves a value from one path to another. It can be undone if its target leads nowhere yet
and everything on the way to the target is a mapping already. A sequence of such renames is undone
by the opposite renames in the opposite order. What comes back may list its entries in another
order, because a restored key stands at the end of its mapping, so each step has to work on
documents that are the same only up to order.
-/

namespace TypedDocument

namespace Path

variable {path : String} {doc v rest : Value}

/-- All segments of a path are keys; none is an index. -/
def KeysOnly (path : String) : Prop := ∀ s ∈ segments path, ∃ key, s = .key key

theorem KeysOnly.segments_eq (h : KeysOnly path) : segments path = (keys path).map .key := by
  rw [keys, segments, List.map_map]
  refine List.map_congr_left fun cs hcs => ?_
  obtain ⟨key, hkey⟩ := h _ (List.mem_map_of_mem hcs)
  rw [Segment.ofChars] at hkey ⊢
  split at hkey
  · cases hkey
  · next hdigits => exact if_neg hdigits

theorem keysOnly_iff : KeysOnly path ↔ segments path = (keys path).map .key := by
  refine ⟨KeysOnly.segments_eq, fun h s hs => ?_⟩
  rw [h] at hs
  obtain ⟨key, -, rfl⟩ := List.mem_map.mp hs
  exact ⟨key, rfl⟩

instance : Decidable (KeysOnly path) := decidable_of_iff _ keysOnly_iff.symm

theorem KeysOnly.delete_eq_ok_iff (h : KeysOnly path) :
    delete doc path = .ok (v, rest) ↔ doc.Removes (keys path) v rest := by
  rw [delete, h.segments_eq, ← Value.remove?_eq_some_iff]
  cases doc.remove? ((keys path).map .key) <;> simp

theorem KeysOnly.contains_eq_false_iff (h : KeysOnly path) :
    contains doc path = false ↔ doc.at? ((keys path).map .key) = none := by
  rw [contains, h.segments_eq, Option.isSome_eq_false_iff, Option.isNone_iff_eq_none]

end Path

namespace Converter

/-- A rename that can be undone: nothing stands at its target, and once its source is taken out,
everything on the way to the target is a mapping. -/
structure Undoable (doc : Value) (source target : String) : Prop where
  free : Path.contains doc target = false
  parents : ∀ v rest, Path.delete doc source = .ok (v, rest) →
    ∀ parent, parent ≠ [] → parent <+: Path.segments target → parent ≠ Path.segments target →
      ∃ es, rest.at? parent = some (.map es)

variable {doc v rest : Value} {source target : String} {renames : List (String × String)}

/-- A rename that moves something can be undone if every proper part of the way to its target, which
does not exist yet, leads to a mapping. -/
theorem undoable_of_delete (hfree : Path.contains doc target = false)
    (hdelete : Path.delete doc source = .ok (v, rest))
    (hparents : ∀ n < (Path.segments target).length, 0 < n →
      ((rest.at? ((Path.segments target).take n)).bind Value.map?).isSome = true) :
    Undoable doc source target where
  free := hfree
  parents v' rest' hdelete' parent hne hbegin hproper := by
    cases hdelete.symm.trans hdelete'
    have hlength : parent.length < (Path.segments target).length :=
      Nat.lt_of_le_of_ne hbegin.length_le fun heq => hproper (hbegin.eq_of_length heq)
    have hmapping := hparents parent.length hlength (List.length_pos_iff.mpr hne)
    rw [← List.prefix_iff_eq_take.mp hbegin] at hmapping
    obtain ⟨es, hes⟩ := Option.isSome_iff_exists.mp hmapping
    obtain ⟨w, hw, hmap⟩ := Option.bind_eq_some_iff.mp hes
    cases Value.map?_eq_some_iff.mp hmap
    exact ⟨es, hw⟩

/-! ## One rename -/

theorem applyRenames_of_delete_eq_error {e : PathError} (h : Path.delete doc source = .error e) :
    applyRenames doc ((source, target) :: renames) = applyRenames doc renames := by
  rw [applyRenames, h]

theorem applyRenames_of_set_eq {doc' : Value} (h : Path.delete doc source = .ok (v, rest))
    (hset : Path.set rest target v = (doc', none)) :
    applyRenames doc ((source, target) :: renames) = applyRenames doc' renames := by
  rw [applyRenames, h]
  simp only [hset]

theorem applyRenames_append (doc : Value) (first second : List (String × String)) :
    applyRenames doc (first ++ second) =
      applyRenames doc first >>= fun doc' => applyRenames doc' second := by
  induction first generalizing doc with
  | nil => rw [List.nil_append, applyRenames, ok_bind]
  | cons r more ih =>
    obtain ⟨source, target⟩ := r
    rw [List.cons_append, applyRenames, applyRenames]
    cases Path.delete doc source with
    | error => exact ih doc
    | ok removed =>
      obtain ⟨v, rest⟩ := removed
      dsimp only
      split
      · exact ih _
      · rfl

theorem set_eq_of_write_eq {doc' : Value} (h : Path.KeysOnly target)
    (hwrite : Value.write Path.maxLength v ((Path.keys target).map .key) doc = (doc', none)) :
    Path.set doc target v = (doc', none) := by
  rw [Path.set, Path.setWithin, h.segments_eq, hwrite]
  rfl

/-- One rename can be undone on every document that is the same as the result up to order. -/
theorem applyRenames_cons_undone (hdoc : doc.Reordered doc) (hsource : Path.KeysOnly source)
    (htarget : Path.KeysOnly target) (h : Undoable doc source target) :
    ∃ doc', (∀ more, applyRenames doc ((source, target) :: more) = applyRenames doc' more) ∧
      doc'.Reordered doc' ∧
      ∀ other, other.Reordered doc' →
        ∃ back, applyRenames other [(target, source)] = .ok back ∧ back.Reordered doc := by
  have hfree := htarget.contains_eq_false_iff.mp h.free
  cases hdelete : Path.delete doc source with
  | error e =>
    -- Nothing moves, and nothing stands at the target to be moved back.
    refine ⟨doc, fun _ => applyRenames_of_delete_eq_error hdelete, hdoc, ?_⟩
    intro other hother
    refine ⟨other, ?_, hother⟩
    cases hback : Path.delete other target with
    | error e => exact applyRenames_of_delete_eq_error hback
    | ok removed =>
      have hfound := (htarget.delete_eq_ok_iff.mp hback).at?
      have hrel := Value.at?_reordered (Path.keys target) hother
      rw [hfound, hfree] at hrel
      cases hrel
  | ok removed =>
    obtain ⟨v, rest⟩ := removed
    have hremoves := hsource.delete_eq_ok_iff.mp hdelete
    obtain ⟨hv, hrest⟩ := hremoves.proper hdoc
    have hvacant : Value.Vacant (Path.keys target) rest := by
      apply Value.vacant_of_at? (hremoves.at?_eq_none hdoc hfree)
      intro parent hprefix hne
      by_cases hroot : parent = []
      · subst hroot
        obtain ⟨es, rfl⟩ := hremoves.exists_map
        exact ⟨es, rfl⟩
      · refine h.parents v rest hdelete (parent.map .key) (by simpa using hroot) ?_ ?_
        · rw [htarget.segments_eq]
          exact hprefix.map _
        · rw [htarget.segments_eq]
          exact fun heq => hne ((List.map_inj_right fun _ _ => Segment.key.inj).mp heq)
    obtain ⟨doc', hwrite, hdoc', htaken⟩ := hvacant.write Path.maxLength hv hrest
    have hset := set_eq_of_write_eq htarget hwrite
    refine ⟨doc', fun _ => applyRenames_of_set_eq hdelete hset, hdoc', ?_⟩
    intro other hother
    obtain ⟨v', rest', htaken', hv', hrest'⟩ := htaken.reordered hother
    obtain ⟨back, hback, hsame⟩ :=
      hremoves.write_back Path.maxLength hdoc hv' hrest'
    refine ⟨back, ?_, hsame⟩
    exact applyRenames_of_set_eq (htarget.delete_eq_ok_iff.mpr htaken')
      (set_eq_of_write_eq hsource hback)

/-! ## All renames -/

/-- Every rename can be undone, at the time it is applied. -/
def UndoableAll (doc : Value) (renames : List (String × String)) : Prop :=
  ∀ i source target doc', renames[i]? = some (source, target) →
    applyRenames doc (renames.take i) = .ok doc' → Undoable doc' source target

def KeysOnly (renames : List (String × String)) : Prop :=
  ∀ source target, (source, target) ∈ renames → Path.KeysOnly source ∧ Path.KeysOnly target

instance : Decidable (KeysOnly renames) :=
  decidable_of_iff (∀ r ∈ renames, Path.KeysOnly r.1 ∧ Path.KeysOnly r.2)
    ⟨fun h source target hr => h (source, target) hr, fun h r hr => h r.1 r.2 hr⟩

/-- The renames that undo a sequence of renames. -/
def opposites (renames : List (String × String)) : List (String × String) :=
  renames.reverse.map fun (a, b) => (b, a)

theorem UndoableAll.nil : UndoableAll doc [] := by
  intro i source target doc' hi
  cases hi

theorem UndoableAll.cons {doc' : Value} (hfirst : Undoable doc source target)
    (hstep : ∀ more, applyRenames doc ((source, target) :: more) = applyRenames doc' more)
    (h : UndoableAll doc' renames) : UndoableAll doc ((source, target) :: renames) := by
  intro i s t d hi hd
  cases i with
  | zero =>
    cases hi
    cases hd
    exact hfirst
  | succ i =>
    rw [List.take_succ_cons, hstep] at hd
    exact h i s t d hi hd

theorem UndoableAll.tail {doc' : Value}
    (hstep : ∀ more, applyRenames doc ((source, target) :: more) = applyRenames doc' more)
    (h : UndoableAll doc ((source, target) :: renames)) : UndoableAll doc' renames := by
  intro i s t d hi hd
  refine h (i + 1) s t d hi ?_
  rw [List.take_succ_cons, hstep]
  exact hd

/-- Renames that can be undone succeed, and the opposite renames in the opposite order undo them on
every document that is the same as the result up to order. -/
theorem applyRenames_undone (hdoc : doc.Reordered doc) (hkeys : KeysOnly renames)
    (h : UndoableAll doc renames) :
    ∃ renamed, applyRenames doc renames = .ok renamed ∧ renamed.Reordered renamed ∧
      ∀ other, other.Reordered renamed →
        ∃ back, applyRenames other (opposites renames) = .ok back ∧ back.Reordered doc := by
  induction renames generalizing doc with
  | nil => exact ⟨doc, rfl, hdoc, fun other hother => ⟨other, rfl, hother⟩⟩
  | cons r rest ih =>
    obtain ⟨source, target⟩ := r
    obtain ⟨hsource, htarget⟩ := hkeys source target List.mem_cons_self
    have hfirst : Undoable doc source target := h 0 source target doc rfl rfl
    obtain ⟨doc', hstep, hdoc', hundo⟩ := applyRenames_cons_undone hdoc hsource htarget hfirst
    obtain ⟨renamed, hrenamed, hproper, hundoes⟩ :=
      ih hdoc' (fun s t hst => hkeys s t (List.mem_cons_of_mem _ hst)) (h.tail hstep)
    refine ⟨renamed, (hstep rest).trans hrenamed, hproper, ?_⟩
    intro other hother
    obtain ⟨between, hbetween, hsame⟩ := hundoes other hother
    obtain ⟨back, hback, hsame⟩ := hundo between hsame
    refine ⟨back, ?_, hsame⟩
    have hopposites :
        opposites ((source, target) :: rest) = opposites rest ++ [(target, source)] := by
      simp [opposites]
    rw [hopposites, applyRenames_append, hbetween, ok_bind]
    exact hback

end Converter

/-! ## Walks do not depend on the order -/

theorem Value.Reaches.reordered {v : Value} {sub : Mapping} (h : v.Reaches sub) :
    ∀ {w : Value}, v.Reordered w →
      ∃ sub', w.Reaches sub' ∧ Entries.Reordered Value.Reordered sub sub' := by
  induction h with
  | self es =>
    intro w hw
    cases hw with
    | leaf plain => cases plain
    | map distinct distinct' keys values => exact ⟨_, .self _, distinct, distinct', keys, values⟩
  | @entry es sub key v mem reaches ih =>
    intro w hw
    cases hw with
    | leaf plain => cases plain
    | @map _ es' distinct distinct' keys values =>
      have hes : Entries.Reordered Value.Reordered es es' := ⟨distinct, distinct', keys, values⟩
      obtain ⟨c, hc, hvc⟩ := hes.exists_mem mem
      obtain ⟨sub', hreaches, hsub⟩ := ih hvc
      exact ⟨sub', .entry hc hreaches, hsub⟩

theorem Value.Walkable.of_reordered {v w : Value} (hw : w.Walkable) (h : v.Reordered w) :
    v.Walkable := by
  constructor
  · intro es hes
    obtain ⟨es', -, hsame⟩ := hes.reordered h
    exact hsame.distinct
  · intro es hes key hkey
    obtain ⟨es', hreaches, hsame⟩ := hes.reordered h
    exact hw.undotted es' hreaches key ((hsame.keys key).mp hkey)

/-! ## There and back -/

namespace Converter

theorem toWire_of_convertDocument {c : Converter} {doc converted : Value}
    (h : convertDocument c.rule c.rule.outbound c.excluded doc = .ok converted) :
    c.toWire doc = applyRenames converted c.renames := by
  rw [toWire, h, ok_bind]

theorem fromWire_of_applyRenames {c : Converter} {wire back : Value}
    (h : applyRenames wire (opposites c.renames) = .ok back) :
    c.fromWire wire = convertDocument c.rule c.rule.inbound c.excludedInbound back := by
  rw [fromWire, inverseRenames, ← opposites, h, ok_bind]

variable {renames : List (String × String)} {es ws : Mapping} {s : Schema}

/-- Under renames that can be undone, the converter that copies values gives back the document. -/
theorem fromWire_toWire_identity (hes : (Value.map es).Proper) (hkeys : KeysOnly renames)
    (hundoable : UndoableAll (.map es) renames) (hwalk : (Value.map es).Walkable)
    (htop : "" ∉ Entries.keys es) :
    ∃ wire, ({ rule := .identity, renames } : Converter).toWire (.map es) = .ok wire ∧
      ∃ back, ({ rule := .identity, renames } : Converter).fromWire wire = .ok back ∧
        back.Reordered (.map es) := by
  obtain ⟨wire, hwire, hproper, hundo⟩ := applyRenames_undone hes.reordered hkeys hundoable
  obtain ⟨back, hback, hsame⟩ := hundo wire hproper
  obtain ⟨bs, rfl, hbs⟩ := Value.reordered_map_right hsame
  have htop' : "" ∉ Entries.keys bs := fun h => htop ((hbs.keys "").mp h)
  refine ⟨wire, ?_, .map bs, ?_, hsame⟩
  · rw [toWire_of_convertDocument (convertDocument_identity hwalk htop)]
    exact hwire
  · rw [fromWire_of_applyRenames hback]
    exact convertDocument_identity (hwalk.of_reordered hsame) htop'

/-- Under renames that can be undone, the converter of a schema gives back what the schema decodes
from its own encoding. -/
theorem fromWire_toWire_ofSchema (hkeys : KeysOnly renames) (hwalk : (Value.map es).Walkable)
    (htop : "" ∉ Entries.keys es) (hencode : s.encode (.map es) = .ok (.map ws))
    (hws : (Value.map ws).Proper) (hundoable : UndoableAll (.map ws) renames)
    (hwalk' : (Value.map ws).Walkable) (htop' : "" ∉ Entries.keys ws) :
    ∃ wire, ({ rule := .ofSchema s, renames } : Converter).toWire (.map es) = .ok wire ∧
      Agree Value.Reordered (({ rule := .ofSchema s, renames } : Converter).fromWire wire)
        (s.decode (.map ws)) := by
  obtain ⟨wire, hwire, hproper, hundo⟩ := applyRenames_undone hws.reordered hkeys hundoable
  obtain ⟨back, hback, hsame⟩ := hundo wire hproper
  obtain ⟨bs, rfl, hbs⟩ := Value.reordered_map_right hsame
  have htop'' : "" ∉ Entries.keys bs := fun h => htop' ((hbs.keys "").mp h)
  refine ⟨wire, ?_, ?_⟩
  · have hout := (convertDocument_ofSchema_eq_ok_iff .encode hwalk htop).mpr hencode
    rw [toWire_of_convertDocument hout]
    exact hwire
  · have hin := fun x => convertDocument_ofSchema_eq_ok_iff (s := s) (x := x)
      (.decode Declaration.readField) (hwalk'.of_reordered hsame) htop''
    rw [fromWire_of_applyRenames hback]
    have hdecode := Schema.decode_reordered (.refl (Field.dict s.root)) hsame
    apply Agree.of_iff
    · exact (exists_congr hin).trans hdecode.ok_iff
    · intro x y hx hy
      exact hdecode.rel ((hin x).mp hx) hy

/-- Renames along keys are undone by their inverse, up to the order of entries, if each of them can
be undone at its time. So converters with such renames give a document back, unchanged if they copy
values, and as its schema decodes it if they convert by a schema. -/
theorem renames_undone (renames : List (String × String)) (es : Mapping) (hkeys : KeysOnly renames)
    (hes : (Value.map es).Proper) :
    (UndoableAll (.map es) renames →
      ∃ renamed, applyRenames (.map es) renames = .ok renamed ∧
        ∃ back, applyRenames renamed
            ({ rule := .identity, renames } : Converter).inverseRenames = .ok back ∧
          back.Reordered (.map es)) ∧
    (UndoableAll (.map es) renames → (Value.map es).Walkable → "" ∉ Entries.keys es →
      ∃ wire, ({ rule := .identity, renames } : Converter).toWire (.map es) = .ok wire ∧
        ∃ back, ({ rule := .identity, renames } : Converter).fromWire wire = .ok back ∧
          back.Reordered (.map es)) ∧
    ∀ (s : Schema) (ws : Mapping), (Value.map es).Walkable → "" ∉ Entries.keys es →
      s.encode (.map es) = .ok (.map ws) → (Value.map ws).Proper → UndoableAll (.map ws) renames →
      (Value.map ws).Walkable → "" ∉ Entries.keys ws →
      ∃ wire, ({ rule := .ofSchema s, renames } : Converter).toWire (.map es) = .ok wire ∧
        Agree Value.Reordered (({ rule := .ofSchema s, renames } : Converter).fromWire wire)
          (s.decode (.map ws)) := by
  refine ⟨?_, ?_, ?_⟩
  · intro hundoable
    obtain ⟨renamed, hrenamed, hproper, hundo⟩ := applyRenames_undone hes.reordered hkeys hundoable
    obtain ⟨back, hback, hsame⟩ := hundo renamed hproper
    exact ⟨renamed, hrenamed, back, hback, hsame⟩
  · intro hundoable hwalk htop
    exact fromWire_toWire_identity hes hkeys hundoable hwalk htop
  · intro s ws hwalk htop hencode hws hundoable hwalk' htop'
    exact fromWire_toWire_ofSchema hkeys hwalk htop hencode hws hundoable hwalk' htop'

/-- A value that moves twice, the second time into a mapping, and finds its way back. -/
theorem renames_undone_chain :
    (∃ wire, ({ rule := .identity, renames := [("a", "b"), ("b", "c.x")] } : Converter).toWire
        (.map [("a", .int 1), ("c", .map [])]) = .ok wire ∧
      ∃ back, ({ rule := .identity, renames := [("a", "b"), ("b", "c.x")] } : Converter).fromWire
          wire = .ok back ∧
        back.Reordered (.map [("a", .int 1), ("c", .map [])])) ∧
    ∃ wire, ({ rule := .ofSchema .any, renames := [("a", "b"), ("b", "c.x")] } : Converter).toWire
        (.map [("a", .int 1), ("c", .map [])]) = .ok wire ∧
      Agree Value.Reordered
        (({ rule := .ofSchema .any,
            renames := [("a", "b"), ("b", "c.x")] } : Converter).fromWire wire)
        (Schema.any.decode (.map [("a", .int 1), ("c", .map [])])) := by
  have hkeys : KeysOnly [("a", "b"), ("b", "c.x")] := by decide
  have hproper : (Value.map [("a", .int 1), ("c", .map [])]).Proper := by decide
  have hwalk : (Value.map [("a", .int 1), ("c", .map [])]).Walkable := by decide
  have hundoable :
      UndoableAll (.map [("a", .int 1), ("c", .map [])]) [("a", "b"), ("b", "c.x")] := by
    have hfirst : Undoable (.map [("a", .int 1), ("c", .map [])]) "a" "b" :=
      undoable_of_delete rfl rfl (by decide)
    have hsecond : Undoable (.map [("c", .map []), ("b", .int 1)]) "b" "c.x" :=
      undoable_of_delete rfl rfl (by decide)
    exact .cons hfirst (fun _ => rfl) (.cons hsecond (fun _ => rfl) .nil)
  obtain ⟨-, hidentity, hschema⟩ := renames_undone _ _ hkeys hproper
  exact ⟨hidentity hundoable hwalk (by decide),
    hschema .any _ hwalk (by decide) rfl hproper hundoable hwalk (by decide)⟩

end Converter

end TypedDocument
