import TypedDocument.Proofs.Path.Reading
import TypedDocument.Proofs.Path.Writing
import TypedDocument.Proofs.Reordering.Basic
import TypedDocument.Proofs.View

/-!
# Deleting at a path

Deleting exchanges the container before the last segment for one without the child, and leaves
everything on the way to it as it is. So whatever does not lie on the way or behind it is read as
before. In a mapping the other keys keep their places, and in a list the elements behind the deleted
one move down by one index.
-/

namespace TypedDocument

namespace Value

variable {new old v w u c rem : Value} {s t : Segment} {chain parent rest other more : List Segment}
  {key : String} {es : Mapping} {items : List Value} {i j : Nat}

/-! ## Exchanging a value that is there -/

theorem child?_setChild_self (h : v.child? s = some c) : (setChild w v s).child? s = some w := by
  have hset := child?_setChild_padded (c := w) (takes_of_child? h)
  rwa [padded_of_child? h] at hset

theorem replace?_cons_eq_some_iff :
    replace? new (s :: rest) v = some (old, w) ↔
      ∃ c c', v.child? s = some c ∧ replace? new rest c = some (old, c') ∧ setChild c' v s = w := by
  simp only [replace?, Option.bind_eq_bind, Option.bind_eq_some_iff]
  constructor
  · rintro ⟨c, hc, ⟨o, c'⟩, hreplace, h⟩
    cases h
    exact ⟨c, c', hc, hreplace, rfl⟩
  · rintro ⟨c, c', hc, hreplace, rfl⟩
    exact ⟨c, hc, (old, c'), hreplace, rfl⟩

/-- Below the place of the exchange the new value is read. -/
theorem at?_append_of_replace? (h : replace? new chain v = some (old, w)) (more : List Segment) :
    w.at? (chain ++ more) = new.at? more := by
  induction chain generalizing v w with
  | nil =>
    cases h
    rfl
  | cons s rest ih =>
    obtain ⟨c, c', hc, hreplace, rfl⟩ := replace?_cons_eq_some_iff.mp h
    rw [List.cons_append, at?, child?_setChild_self hc, Option.bind_some, ih hreplace]

/-- Beside the place of the exchange everything is read as before. -/
theorem at?_of_replace?_of_apart (h : replace? new chain v = some (old, w))
    (hapart : Path.Apart chain other) : w.at? other = v.at? other := by
  induction chain generalizing v w other with
  | nil => exact absurd List.nil_prefix hapart.1
  | cons s rest ih =>
    obtain ⟨c, c', hc, hreplace, rfl⟩ := replace?_cons_eq_some_iff.mp h
    match other with
    | [] => exact absurd List.nil_prefix hapart.2
    | t :: more =>
      rw [at?, at?]
      by_cases hst : t = s
      · subst hst
        rw [child?_setChild_self hc, hc, Option.bind_some, Option.bind_some]
        exact ih hreplace (Path.apart_cons_cons_iff.mp hapart rfl)
      · rw [child?_setChild_of_ne hst]

/-- The mappings on the way to the place of the exchange keep their keys. -/
theorem keys_of_replace? (h : replace? new (chain ++ s :: rest) v = some (old, w))
    (hes : v.at? chain = some (map es)) :
    ∃ es', w.at? chain = some (map es') ∧ Entries.keys es' = Entries.keys es := by
  induction chain generalizing v w with
  | nil =>
    cases hes
    obtain ⟨c, c', hc, -, rfl⟩ := replace?_cons_eq_some_iff.mp h
    match s with
    | .index i => cases hc
    | .key key =>
      have hmem : Entries.contains key es = true := Option.isSome_of_eq_some hc
      exact ⟨Entries.put key c' es, rfl, by rw [Entries.keys_put, if_pos hmem]⟩
  | cons t chain ih =>
    obtain ⟨c, c', hc, hreplace, rfl⟩ := replace?_cons_eq_some_iff.mp h
    rw [at?, hc, Option.bind_some] at hes
    rw [at?, child?_setChild_self hc, Option.bind_some]
    exact ih hreplace hes

/-! ## Taking a value out -/

theorem remove?_cons_eq_some_iff (hrest : rest ≠ []) :
    remove? (s :: rest) v = some (old, w) ↔
      ∃ c c', v.child? s = some c ∧ remove? rest c = some (old, c') ∧ setChild c' v s = w := by
  match rest with
  | [] => exact absurd rfl hrest
  | t :: more =>
    simp only [remove?, Option.bind_eq_bind, Option.bind_eq_some_iff]
    constructor
    · rintro ⟨c, hc, ⟨o, c'⟩, hremove, h⟩
      cases h
      exact ⟨c, c', hc, hremove, rfl⟩
    · rintro ⟨c, c', hc, hremove, rfl⟩
      exact ⟨c, hc, (old, c'), hremove, rfl⟩

/-- What is taken out is a child of the container before the last segment, and that container is
exchanged for one without the child. -/
theorem remove?_concat_eq_some_iff :
    remove? (parent ++ [s]) v = some (old, rem) ↔
      ∃ u, v.at? parent = some u ∧ u.child? s = some old ∧
        replace? (u.eraseChild s) parent v = some (u, rem) := by
  induction parent generalizing v rem with
  | nil =>
    rw [List.nil_append, remove?, Option.map_eq_some_iff]
    constructor
    · rintro ⟨c, hc, h⟩
      cases h
      exact ⟨v, rfl, hc, rfl⟩
    · rintro ⟨u, hu, hold, hreplace⟩
      cases hu
      cases hreplace
      exact ⟨old, hold, rfl⟩
  | cons p parent ih =>
    have hne : parent ++ [s] ≠ [] := by simp
    rw [List.cons_append, remove?_cons_eq_some_iff hne]
    simp only [ih, replace?_cons_eq_some_iff, at?, Option.bind_eq_some_iff]
    constructor
    · rintro ⟨c, c', hc, ⟨u, hu, hold, hreplace⟩, hrem⟩
      exact ⟨u, ⟨c, hc, hu⟩, hold, c, c', hc, hreplace, hrem⟩
    · rintro ⟨u, ⟨c, hc, hu⟩, hold, d, c', hd, hreplace, hrem⟩
      cases hc.symm.trans hd
      exact ⟨c, c', hc, ⟨u, hu, hold, hreplace⟩, hrem⟩

/-- A value is taken out exactly where it can be read. -/
theorem exists_remove?_iff (hchain : chain ≠ []) :
    (∃ rem, remove? chain v = some (old, rem)) ↔ v.at? chain = some old := by
  obtain ⟨parent, s, rfl⟩ : ∃ parent s, chain = parent ++ [s] :=
    ⟨_, _, (List.dropLast_concat_getLast hchain).symm⟩
  simp only [remove?_concat_eq_some_iff, at?_append, at?_singleton, Option.bind_eq_some_iff]
  constructor
  · rintro ⟨rem, u, hu, hold, -⟩
    exact ⟨u, hu, hold⟩
  · rintro ⟨u, hu, hold⟩
    obtain ⟨rem, -, hreplace⟩ := exists_write_of_at? 0 (u.eraseChild s) hu
    exact ⟨rem, u, hu, hold, hreplace⟩

/-! ## The container without the child -/

theorem child?_eraseChild_key (hes : Entries.Distinct es) (t : Segment) :
    (eraseChild (map es) (.key key)).child? t =
      if t = .key key then none else (map es).child? t := by
  match t with
  | .index i => rfl
  | .key k =>
    rw [eraseChild, child?, child?, Entries.get?_erase hes]
    by_cases hk : key = k
    · rw [if_pos (beq_iff_eq.mpr hk), if_pos (by rw [hk])]
    · rw [if_neg (by simpa using hk), if_neg (by simpa using Ne.symm hk)]

theorem child?_eraseChild_of_lt (h : j < i) :
    (eraseChild (list items) (.index i)).child? (.index j) = (list items).child? (.index j) :=
  List.getElem?_eraseIdx_of_lt h

theorem child?_eraseChild_of_gt (h : i < j) :
    (eraseChild (list items) (.index i)).child? (.index (j - 1)) =
      (list items).child? (.index j) := by
  obtain ⟨k, rfl⟩ : ∃ k, j = k + 1 := ⟨j - 1, by omega⟩
  exact List.getElem?_eraseIdx_of_ge (by omega)

/-! ## What is left -/

/-- Taking a value out from under a key changes nothing but the way to the value and what lies
behind it. -/
theorem at?_of_remove?_key (hv : v.Proper)
    (h : remove? (parent ++ [.key key]) v = some (old, rem))
    (hapart : Path.Apart (parent ++ [.key key]) other) : rem.at? other = v.at? other := by
  obtain ⟨u, hu, hold, hreplace⟩ := remove?_concat_eq_some_iff.mp h
  by_cases hbegins : parent <+: other
  · obtain ⟨more, rfl⟩ := hbegins
    rw [at?_append_of_replace? hreplace, at?_append, hu, Option.bind_some]
    match more with
    | [] => exact absurd (by simp) hapart.2
    | t :: more =>
      have ht : t ≠ .key key := by
        rintro rfl
        exact hapart.1 ⟨more, by simp⟩
      obtain ⟨es, rfl, -⟩ := exists_map_of_child? hold
      rw [at?, at?, child?_eraseChild_key (hv _ (within_of_at? hu) es rfl), if_neg ht]
  · have hother : ¬ other <+: parent := fun h => hapart.2 (h.trans (List.prefix_append _ _))
    exact at?_of_replace?_of_apart hreplace ⟨hbegins, hother⟩

theorem at?_self_of_remove?_key (hv : v.Proper)
    (h : remove? (parent ++ [.key key]) v = some (old, rem)) :
    rem.at? (parent ++ [.key key]) = none := by
  obtain ⟨u, hu, hold, hreplace⟩ := remove?_concat_eq_some_iff.mp h
  obtain ⟨es, rfl, -⟩ := exists_map_of_child? hold
  rw [at?_append_of_replace? hreplace, at?, child?_eraseChild_key (hv _ (within_of_at? hu) es rfl),
    if_pos rfl, Option.bind_none]

/-- Of the mappings on the way, only the last one loses a key, and none changes the order. -/
theorem keys_of_remove?_key (h : remove? (parent ++ [.key key]) v = some (old, rem))
    (hbegins : chain <+: parent) (hes : v.at? chain = some (map es)) :
    ∃ es', rem.at? chain = some (map es') ∧
      Entries.keys es' =
        if chain = parent then (Entries.keys es).erase key else Entries.keys es := by
  obtain ⟨u, hu, hold, hreplace⟩ := remove?_concat_eq_some_iff.mp h
  obtain ⟨more, rfl⟩ := hbegins
  match more with
  | [] =>
    rw [List.append_nil] at hreplace hu ⊢
    cases hes.symm.trans hu
    have hchain := at?_append_of_replace? hreplace []
    rw [List.append_nil] at hchain
    exact ⟨Entries.erase key es, hchain, by rw [if_pos rfl, Entries.keys_erase]⟩
  | s :: more =>
    obtain ⟨es', hes', hkeys⟩ := keys_of_replace? hreplace hes
    exact ⟨es', hes', by rw [if_neg (by simp), hkeys]⟩

/-- Taking an element out of a list shortens that list, and moves down what is behind it. -/
theorem at?_of_remove?_index (h : remove? (parent ++ [.index i]) v = some (old, rem)) :
    ∃ items, v.at? parent = some (list items) ∧ i < items.length ∧
      rem.at? parent = some (list (items.eraseIdx i)) ∧
      (∀ j more, j < i →
        rem.at? (parent ++ .index j :: more) = v.at? (parent ++ .index j :: more)) ∧
      (∀ j more, i < j →
        rem.at? (parent ++ .index (j - 1) :: more) = v.at? (parent ++ .index j :: more)) ∧
      ∀ other, Path.Apart parent other → rem.at? other = v.at? other := by
  obtain ⟨u, hu, hold, hreplace⟩ := remove?_concat_eq_some_iff.mp h
  obtain ⟨items, rfl, hold⟩ := exists_list_of_child? hold
  obtain ⟨hi, -⟩ := List.getElem?_eq_some_iff.mp hold
  have hparent := at?_append_of_replace? hreplace []
  rw [List.append_nil] at hparent
  refine ⟨items, hu, hi, hparent, fun j more hj => ?_, fun j more hj => ?_, fun other hapart => ?_⟩
  · rw [at?_append_of_replace? hreplace, at?_append, hu, Option.bind_some, at?, at?,
      child?_eraseChild_of_lt hj]
  · rw [at?_append_of_replace? hreplace, at?_append, hu, Option.bind_some, at?, at?,
      child?_eraseChild_of_gt hj]
  · exact at?_of_replace?_of_apart hreplace hapart

end Value

/-! ## Deleting at a path -/

namespace Path

variable {doc rest v : Value} {path : String} {parent more : List Segment} {i j : Nat}

theorem segments_ne_nil (path : String) : segments path ≠ [] := by
  rw [segments_eq_map_keys]
  exact fun h => keys_ne_nil path (List.map_eq_nil_iff.mp h)

theorem delete_eq_ok_iff :
    delete doc path = .ok (v, rest) ↔ doc.remove? (segments path) = some (v, rest) := by
  rw [delete]
  cases doc.remove? (segments path) <;> simp

@[simp] theorem ofChars_toDigits (i : Nat) : Segment.ofChars (Nat.toDigits 10 i) = .index i := by
  have hdigits : (Nat.toDigits 10 i).all Char.isDigit = true :=
    List.all_eq_true.mpr fun c hc => Nat.isDigit_of_mem_toDigits (by decide) (by decide) hc
  have hvalue : digitsValue 0 (Nat.toDigits 10 i) = i := by
    change Nat.ofDigitChars 10 (Nat.toDigits 10 i) 0 = i
    exact Nat.ofDigitChars_toDigits (by decide) (by decide)
  have hne : (Nat.toDigits 10 i).isEmpty = false := by
    simp
  rw [Segment.ofChars, hdigits, hne, hvalue]
  rfl

@[simp] theorem isDotted_toDigits (i : Nat) :
    isDotted (String.ofList (Nat.toDigits 10 i)) = false := by
  have hmem : '.' ∉ Nat.toDigits 10 i := by
    intro h
    have hdigit := Nat.isDigit_of_mem_toDigits (by decide) (by decide) h
    exact absurd hdigit (by decide)
  simpa [isDotted] using hmem

/-- Where a path goes through a list, another path goes through any other index. -/
theorem exists_segments_index (h : segments path = parent ++ .index j :: more) (i : Nat) :
    ∃ shifted, segments shifted = parent ++ .index i :: more := by
  rw [segments_eq_map_keys] at h
  obtain ⟨before, behind, hkeys, rfl, htail⟩ := List.map_eq_append_iff.mp h
  obtain ⟨key, after, rfl, -, rfl⟩ := List.map_eq_cons_iff.mp htail
  have hundotted : ∀ key ∈ before ++ String.ofList (Nat.toDigits 10 i) :: after,
      isDotted key = false := by
    intro k hk
    rcases List.mem_append.mp hk with hk | hk
    · exact isDotted_of_mem_keys (hkeys ▸ List.mem_append_left _ hk)
    · rcases List.mem_cons.mp hk with rfl | hk
      · exact isDotted_toDigits i
      · exact isDotted_of_mem_keys (hkeys ▸ List.mem_append_right _ (List.mem_cons_of_mem _ hk))
  refine ⟨ofKeys (before ++ String.ofList (Nat.toDigits 10 i) :: after), ?_⟩
  rw [segments_eq_map_keys, keys_ofKeys (by simp) hundotted, List.map_append, List.map_cons,
    String.toList_ofList, ofChars_toDigits]

/-- Deleting succeeds exactly where a value can be read, and gives that value. -/
theorem exists_delete_iff :
    (∃ rest, delete doc path = .ok (v, rest)) ↔ get doc path = .ok v := by
  simp only [delete_eq_ok_iff, get_eq_ok_iff]
  exact Value.exists_remove?_iff (segments_ne_nil path)

theorem delete_eq_error {error : PathError} (h : get doc path = .error error) :
    delete doc path = .error (.notFound path) := by
  cases hremove : doc.remove? (segments path) with
  | none => rw [delete, hremove]
  | some removed =>
    have hfound := exists_delete_iff.mp ⟨removed.2, delete_eq_ok_iff.mpr hremove⟩
    cases h.symm.trans hfound

/-- Deleting takes out exactly one value. It succeeds exactly where a value can be read, and gives
that value; otherwise the document stays as it is. Under a key, everything but what the path leads
through or to is read as before, and the other keys keep their order. In a list, the elements in
front are read as before and those behind at the index before their own, and what lies beside the
list is read as before. -/
theorem delete_removes_one (doc : Value) (path : String) (hdoc : doc.Proper) :
    (∀ v, (∃ rest, delete doc path = .ok (v, rest)) ↔ get doc path = .ok v) ∧
    (∀ error, get doc path = .error error →
      delete doc path = .error (.notFound path) ∧
      (View.pathAnswer doc (.delete path)).2 = doc) ∧
    ∀ v rest, delete doc path = .ok (v, rest) →
      (∀ parent key, segments path = parent ++ [.key key] →
        get rest path = .error (.notFound path) ∧
        (∀ other, ¬ segments path <+: segments other → ¬ segments other <+: segments path →
          get rest other = get doc other) ∧
        ∀ chain es, chain <+: parent → doc.at? chain = some (.map es) →
          ∃ es', rest.at? chain = some (.map es') ∧
            Entries.keys es' =
              if chain = parent then (Entries.keys es).erase key else Entries.keys es) ∧
      ∀ parent i, segments path = parent ++ [.index i] →
        ∃ items items', doc.at? parent = some (.list items) ∧
          rest.at? parent = some (.list items') ∧
          i < items.length ∧ items'.length + 1 = items.length ∧
          (∀ other j more, segments other = parent ++ .index j :: more → j < i →
            get rest other = get doc other) ∧
          (∀ other j more, segments other = parent ++ .index j :: more → i < j →
            (∃ shifted, segments shifted = parent ++ .index (j - 1) :: more) ∧
            ∀ shifted, segments shifted = parent ++ .index (j - 1) :: more →
              ∀ u, get rest shifted = .ok u ↔ get doc other = .ok u) ∧
          ∀ other, ¬ parent <+: segments other → ¬ segments other <+: parent →
            get rest other = get doc other := by
  have hget : ∀ {rest : Value} {other : String},
      rest.at? (segments other) = doc.at? (segments other) → get rest other = get doc other := by
    intro rest other h
    rw [get, h, get]
  refine ⟨fun v => exists_delete_iff, fun error hnone => ?_, fun v rest hdelete => ⟨?_, ?_⟩⟩
  · refine ⟨delete_eq_error hnone, ?_⟩
    rw [View.pathAnswer, delete_eq_error hnone]
    rfl
  · intro parent key hpath
    have hremove := delete_eq_ok_iff.mp hdelete
    rw [hpath] at hremove ⊢
    refine ⟨?_, fun other hbehind hbefore => ?_, fun chain es hbegins hes => ?_⟩
    · rw [get, hpath, Value.at?_self_of_remove?_key hdoc hremove]
    · exact hget (Value.at?_of_remove?_key hdoc hremove ⟨hbehind, hbefore⟩)
    · exact Value.keys_of_remove?_key hremove hbegins hes
  · intro parent i hpath
    have hremove := delete_eq_ok_iff.mp hdelete
    rw [hpath] at hremove
    obtain ⟨items, hitems, hi, hitems', hfront, hback, hbeside⟩ :=
      Value.at?_of_remove?_index hremove
    refine ⟨items, items.eraseIdx i, hitems, hitems', hi, ?_, ?_, ?_, ?_⟩
    · rw [List.length_eraseIdx_of_lt hi]
      omega
    · intro other j more hother hj
      exact hget (hother ▸ hfront j more hj)
    · intro other j more hother hj
      refine ⟨exists_segments_index hother (j - 1), fun shifted hshifted u => ?_⟩
      rw [get_eq_ok_iff, get_eq_ok_iff, hshifted, hother, hback j more hj]
    · exact fun other hbehind hbefore => hget (hbeside _ ⟨hbehind, hbefore⟩)

/-- The second element of a list goes, by an index that starts with a zero, and the third one is
read at its index. Without its first key, the mapping before it keeps the other one. -/
theorem delete_removes_one_board :
    let board : Value :=
      .map [("a", .map [("x", .int 0), ("b", .list [.int 1, .map [("c", .int 2)], .int 3])])]
    board.Proper ∧
    (∃ rest, delete board "a.b.01" = .ok (.map [("c", .int 2)], rest) ∧
      get rest "a.b.0" = .ok (.int 1) ∧ get rest "a.b.1" = .ok (.int 3) ∧
      get rest "a.x" = .ok (.int 0)) ∧
    (∃ rest es, delete board "a.x" = .ok (.int 0, rest) ∧
      rest.at? [.key "a"] = some (.map es) ∧ Entries.keys es = ["b"]) ∧
    View.pathAnswer board (.delete "a.3") = (.delete (.error (.notFound "a.3")), board) := by
  intro board
  have hboard : board.Proper := by decide
  have hpath : segments "a.b.01" = [.key "a", .key "b"] ++ [.index 1] := by decide
  have hsecond : segments "a.b.2" = [.key "a", .key "b"] ++ .index 2 :: [] := by decide
  have hfirst : segments "a.b.0" = [.key "a", .key "b"] ++ .index 0 :: [] := by decide
  obtain ⟨helement, -, hlist⟩ := delete_removes_one board "a.b.01" hboard
  obtain ⟨hentry, -, hmapping⟩ := delete_removes_one board "a.x" hboard
  obtain ⟨-, hmissing, -⟩ := delete_removes_one board "a.3" hboard
  refine ⟨hboard, ?_, ?_, ?_⟩
  · obtain ⟨rest, hrest⟩ := (helement (.map [("c", .int 2)])).mpr rfl
    obtain ⟨items, items', -, -, -, -, hfront, hback, hbeside⟩ :=
      (hlist _ rest hrest).2 _ 1 hpath
    refine ⟨rest, hrest, hfront "a.b.0" 0 [] hfirst (by decide), ?_, ?_⟩
    · exact ((hback "a.b.2" 2 [] hsecond (by decide)).2 "a.b.1" (by decide) (.int 3)).mpr rfl
    · exact hbeside "a.x" (by decide) (by decide)
  · obtain ⟨rest, hrest⟩ := (hentry (.int 0)).mpr rfl
    obtain ⟨es, hes, hkeys⟩ :=
      ((hmapping _ rest hrest).1 [.key "a"] "x" (by decide)).2.2 [.key "a"] _ (by simp) rfl
    exact ⟨rest, es, hrest, hes, hkeys⟩
  · obtain ⟨herror, hdoc⟩ := hmissing _ rfl
    exact Prod.ext (by rw [View.pathAnswer, herror]; rfl) hdoc

end Path

end TypedDocument
