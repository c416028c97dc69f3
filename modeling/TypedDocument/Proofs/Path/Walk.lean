import TypedDocument.Path.Walk
import TypedDocument.Proofs.Document.Containers

/-!
# The lazy walk is the recursive one

The steps of a walk give the items of `Mapping.preorder` in order: what a frame contributes is
the recursive walk of its entries, and after it come the frames below it on the stack, unless a
key with a dot has ended the walk.
-/

namespace TypedDocument

namespace Walk

theorem toList_of_next_eq_none {w : Walk} (h : w.next = none) : w.toList = [] := by
  rw [toList]
  split
  · rfl
  · next h' => simp [h] at h'

theorem toList_of_next_eq_some {w w' : Walk} {item : WalkItem} (h : w.next = some (item, w')) :
    w.toList = item :: w'.toList := by
  rw [toList]
  split
  · next h' => simp [h] at h'
  · next h' =>
    rw [h] at h'
    cases h'
    rfl

theorem toList_of_next_eq {w w' : Walk} (h : w.next = w'.next) : w.toList = w'.toList := by
  cases hw : w'.next with
  | none => rw [toList_of_next_eq_none (h.trans hw), toList_of_next_eq_none hw]
  | some step => rw [toList_of_next_eq_some (h.trans hw), toList_of_next_eq_some hw]

/-- The frame for the entries below a value. -/
def below (path : String) : Value → Walk
  | .map es => [⟨some path, es⟩]
  | _ => []

/-- The items of a recursive walk, and then those of the walk that is left when it has come to
its end. -/
def after (items : List WalkItem × Bool) (stack : Walk) : List WalkItem :=
  items.1 ++ if items.2 then stack.toList else []

@[simp] theorem toList_cons_nil (parent : Option String) (stack : Walk) :
    toList (⟨parent, []⟩ :: stack) = stack.toList :=
  toList_of_next_eq rfl

@[simp] theorem toList_cons_dotted {parent : Option String} {key : String} {v : Value}
    {rest : Mapping}
    {stack : Walk} (h : Path.isDotted key = true) :
    toList (⟨parent, (key, v) :: rest⟩ :: stack) = [.error (.dottedKey key)] := by
  have hnext : next (⟨parent, (key, v) :: rest⟩ :: stack) = some (.error (.dottedKey key), []) := by
    rw [next, if_pos h]
  rw [toList_of_next_eq_some hnext, toList_of_next_eq_none rfl]

theorem toList_cons_undotted {parent : Option String} {key : String} {v : Value} {rest : Mapping}
    {stack : Walk} (h : Path.isDotted key = false) :
    toList (⟨parent, (key, v) :: rest⟩ :: stack) =
      .ok (WalkFrame.path parent key, v) ::
        toList (below (WalkFrame.path parent key) v ++ ⟨parent, rest⟩ :: stack) := by
  apply toList_of_next_eq_some
  rw [next, if_neg (by simp [h])]
  cases v <;> rfl

/-- The frame of a mapping contributes the recursive walk of its entries, if the frames of the
values in it do. -/
theorem toList_cons_of_values {es : Mapping}
    (ih : ∀ key v, (key, v) ∈ es →
      ∀ path stack, toList (below path v ++ stack) = after (v.preorder path) stack)
    (parent : Option String) (stack : Walk) :
    toList (⟨parent, es⟩ :: stack) = after (Mapping.preorder parent es) stack := by
  induction es with
  | nil => simp [Mapping.preorder, after]
  | cons e rest ihrest =>
    obtain ⟨key, v⟩ := e
    have hrest := ihrest fun k w hw => ih k w (List.mem_cons_of_mem _ hw)
    cases hkey : Path.isDotted key with
    | true =>
      rw [toList_cons_dotted hkey, Mapping.preorder, if_pos hkey]
      rfl
    | false =>
      rw [toList_cons_undotted hkey, ih key v List.mem_cons_self, Mapping.preorder,
        if_neg (by simp [hkey]), after, hrest]
      cases hv : (v.preorder (WalkFrame.path parent key)).2 <;> simp [hv, after]

/-- A frame contributes the recursive walk below its value. -/
theorem toList_below (v : Value) :
    ∀ path stack, toList (below path v ++ stack) = after (v.preorder path) stack := by
  induction v using Value.mappingInduction with
  | plain v hv =>
    intro path stack
    cases v with
    | map => cases hv
    | _ => rfl
  | map es ih =>
    intro path stack
    rw [Value.preorder]
    exact toList_cons_of_values ih (some path) stack

end Walk

/-- The walk of a mapping is the recursive walk of its entries. -/
theorem Path.walk_map (es : Mapping) : Path.walk (.map es) = (Mapping.preorder none es).1 := by
  have hframe : Walk.toList [⟨none, es⟩] = Walk.after (Mapping.preorder none es) [] :=
    Walk.toList_cons_of_values (fun _ v _ => Walk.toList_below v) none []
  rw [Path.walk, Walk.start, hframe, Walk.after, Walk.toList_of_next_eq_none rfl]
  split <;> exact List.append_nil _

end TypedDocument
