import TypedDocument.Converter.Rule
import TypedDocument.Path.Walk

/-!
# Paths as chains of keys

The pieces of a path between its dots are the keys it goes along. Splitting undoes the joining
of keys without dots, and a path lies within another exactly if its chain of keys starts with
that of the other.
-/

namespace TypedDocument.Path

/-- The keys a path goes along. -/
def keys (path : String) : List String := (pieces path).map String.ofList

/-! ## Splitting -/

theorem splitDots_cons (c : Char) (cs : List Char) :
    splitDots (c :: cs) =
      if c = '.' then ([], (splitDots cs).1 :: (splitDots cs).2)
      else (c :: (splitDots cs).1, (splitDots cs).2) := rfl

theorem splitDots_of_undotted {cs : List Char} (h : '.' ∉ cs) : splitDots cs = (cs, []) := by
  induction cs with
  | nil => rfl
  | cons c rest ih =>
    have hc : c ≠ '.' := fun hc => h (by simp [hc])
    have hrest : '.' ∉ rest := fun hmem => h (List.mem_cons_of_mem c hmem)
    rw [splitDots_cons, if_neg hc, ih hrest]

@[simp] theorem splitDots_append_dot (cs ds : List Char) :
    splitDots (cs ++ '.' :: ds) =
      ((splitDots cs).1, (splitDots cs).2 ++ (splitDots ds).1 :: (splitDots ds).2) := by
  induction cs with
  | nil => rfl
  | cons c rest ih =>
    rw [List.cons_append, splitDots_cons, ih, splitDots_cons]
    split <;> rfl

/-- No piece has a dot. -/
theorem not_mem_of_splitDots (cs : List Char) :
    '.' ∉ (splitDots cs).1 ∧ ∀ piece ∈ (splitDots cs).2, '.' ∉ piece := by
  induction cs with
  | nil => exact ⟨List.not_mem_nil, fun piece h => by cases h⟩
  | cons c rest ih =>
    obtain ⟨hfirst, hothers⟩ := ih
    rw [splitDots_cons]
    split
    · exact ⟨List.not_mem_nil, List.forall_mem_cons.mpr ⟨hfirst, hothers⟩⟩
    · next hc =>
      refine ⟨?_, hothers⟩
      rw [List.mem_cons, not_or]
      exact ⟨Ne.symm hc, hfirst⟩

/-- The text with the given pieces. -/
def joinPieces (first : List Char) (others : List (List Char)) : List Char :=
  first ++ others.flatMap ('.' :: ·)

@[simp] theorem joinPieces_splitDots (cs : List Char) :
    joinPieces (splitDots cs).1 (splitDots cs).2 = cs := by
  induction cs with
  | nil => rfl
  | cons c rest ih =>
    simp only [joinPieces] at ih
    rw [splitDots_cons]
    split
    · next h => simp [joinPieces, h, ih]
    · simp [joinPieces, ih]

theorem keys_eq (path : String) :
    keys path =
      String.ofList (splitDots path.toList).1 :: (splitDots path.toList).2.map String.ofList := rfl

theorem keys_ne_nil (path : String) : keys path ≠ [] := by
  rw [keys_eq]
  exact List.cons_ne_nil _ _

theorem keys_of_undotted {key : String} (h : isDotted key = false) : keys key = [key] := by
  have hmem : '.' ∉ key.toList := by simpa [isDotted] using h
  simp [keys_eq, splitDots_of_undotted hmem]

/-- The keys of a path have no dots. -/
theorem isDotted_of_mem_keys {path key : String} (h : key ∈ keys path) : isDotted key = false := by
  obtain ⟨hfirst, hothers⟩ := not_mem_of_splitDots path.toList
  rw [keys_eq, List.mem_cons, List.mem_map] at h
  have hmem : '.' ∉ key.toList := by
    rcases h with rfl | ⟨piece, hpiece, rfl⟩
    · rwa [String.toList_ofList]
    · rw [String.toList_ofList]
      exact hothers piece hpiece
  simpa [isDotted] using hmem

@[simp] theorem keys_append_dot (parent key : String) :
    keys (parent ++ "." ++ key) = keys parent ++ keys key := by
  have hlist : (parent ++ "." ++ key).toList = parent.toList ++ '.' :: key.toList := by simp
  rw [keys_eq, hlist, splitDots_append_dot, keys_eq, keys_eq]
  simp

theorem keys_join {parent key : String} (hparent : parent ≠ "") (hkey : isDotted key = false) :
    keys (join parent key) = keys parent ++ [key] := by
  have hempty : parent.isEmpty = false := by simpa using hparent
  rw [join, hempty, if_neg Bool.false_ne_true, keys_append_dot, keys_of_undotted hkey]

theorem join_ne_empty {parent key : String} (hparent : parent ≠ "") : join parent key ≠ "" := by
  have hempty : parent.isEmpty = false := by simpa using hparent
  rw [join, hempty, if_neg Bool.false_ne_true]
  simp [hparent]

/-! ## Paths within paths -/

theorem isWithin_iff {path ancestor : String} :
    isWithin path ancestor = true ↔
      path.toList = ancestor.toList ∨ ∃ ds, path.toList = ancestor.toList ++ '.' :: ds := by
  rw [isWithin]
  cases hprefix : ancestor.toList.isPrefixOf path.toList with
  | false =>
    have hnot : ¬ ancestor.toList <+: path.toList := by
      intro h
      rw [List.isPrefixOf_iff_prefix.mpr h] at hprefix
      cases hprefix
    simp only [Bool.false_eq_true, false_iff]
    rintro (h | ⟨ds, h⟩)
    · exact hnot (h ▸ List.prefix_rfl)
    · exact hnot ⟨_, h.symm⟩
  | true =>
    obtain ⟨rest, hrest⟩ := List.isPrefixOf_iff_prefix.mp hprefix
    rw [← hrest, List.drop_left]
    cases rest with
    | nil => simp
    | cons c ds => simp

/-- A path lies within another exactly if it goes along the keys of the other first. -/
theorem isWithin_iff_prefix {path ancestor : String} :
    isWithin path ancestor = true ↔ keys ancestor <+: keys path := by
  rw [isWithin_iff]
  constructor
  · rintro (h | ⟨ds, h⟩)
    · exact String.toList_inj.mp h ▸ List.prefix_rfl
    · rw [keys_eq path, h, splitDots_append_dot, keys_eq ancestor, List.map_append]
      exact List.prefix_append _ _
  · rintro ⟨more, hmore⟩
    obtain ⟨first, others, hpieces, hfirst, -⟩ := List.map_eq_append_iff.mp hmore.symm
    have hancestor : first = pieces ancestor :=
      List.map_inj_right (fun _ _ => String.ofList_injective) |>.mp hfirst
    rw [hancestor] at hpieces
    obtain ⟨hhead, htail⟩ := List.cons.inj hpieces
    have htext : path.toList = ancestor.toList ++ others.flatMap ('.' :: ·) := by
      rw [← joinPieces_splitDots path.toList, ← joinPieces_splitDots ancestor.toList, hhead, htail]
      simp [joinPieces]
    cases others with
    | nil => exact .inl (by simpa using htext)
    | cons o os => exact .inr ⟨_, htext⟩

end TypedDocument.Path
