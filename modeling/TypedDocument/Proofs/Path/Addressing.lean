import TypedDocument.Proofs.Converter.Renames
import TypedDocument.Proofs.Path.Preorder
import TypedDocument.Proofs.View

/-!
# The paths of a walk

The path of an entry shows the keys that lead to it, if the first one is not empty: the path of an
empty key at the root is empty, and what is joined to it is left alone as if it stood at the root
itself. Apart from what lies below such a key, a path is never that of two entries, and it leads
back to its entry if none of its keys is read as an index.
-/

namespace TypedDocument

namespace Path

/-- The keys of a chain that its path shows. An empty key at the start is not shown if another key
follows. -/
def shown : List String → List String
  | [] => []
  | key :: rest => if key = "" ∧ rest ≠ [] then shown rest else key :: rest

/-- The paths of the entries a walk has come by. -/
def walkedPaths (doc : Value) : List String :=
  (walk doc).filterMap fun item => item.toOption.map (·.1)

variable {doc v w : Value} {es : Mapping} {key path : String} {chain rest : List String}
  {d e : Visit}

/-! ## The keys of a joined path -/

theorem keys_foldl_join (hpath : path ≠ "") (hrest : ∀ key ∈ rest, isDotted key = false) :
    keys (rest.foldl join path) = keys path ++ rest := by
  induction rest generalizing path with
  | nil => exact (List.append_nil _).symm
  | cons key more ih =>
    obtain ⟨hkey, hmore⟩ := List.forall_mem_cons.mp hrest
    rw [List.foldl_cons, ih (join_ne_empty hpath) hmore, keys_join hpath hkey, List.append_assoc,
      List.singleton_append]

/-- A path goes along the keys that it shows. -/
theorem keys_joined (hchain : chain ≠ []) (hundotted : ∀ key ∈ chain, isDotted key = false) :
    keys (joined chain) = shown chain := by
  induction chain with
  | nil => exact absurd rfl hchain
  | cons key rest ih =>
    obtain ⟨hkey, hrest⟩ := List.forall_mem_cons.mp hundotted
    rw [shown]
    split
    · next hskip =>
      obtain ⟨rfl, hrest'⟩ := hskip
      obtain ⟨k, more, rfl⟩ := List.exists_cons_of_ne_nil hrest'
      exact ih hrest' hrest
    · next hskip =>
      by_cases hempty : key = ""
      · have hnil : rest = [] := Decidable.byContradiction fun h => hskip ⟨hempty, h⟩
        rw [hnil]
        exact keys_of_undotted hkey
      · rw [joined, keys_foldl_join hempty hrest, keys_of_undotted hkey, List.singleton_append]

/-! ## Walks that come to their end -/

theorem walk_eq_map (hend : ∀ error, .error error ∉ walk doc) :
    walk doc = (doc.visits []).map fun e => .ok (e.path, e.value) := by
  rw [walk_eq_report] at hend ⊢
  exact Walk.report_of_namable (Walk.namable_of_report hend)

theorem walkedPaths_eq_map (hend : ∀ error, .error error ∉ walk doc) :
    walkedPaths doc = (doc.visits []).map Visit.path := by
  rw [walkedPaths, walk_eq_map hend, List.filterMap_map, ← List.filterMap_eq_map]
  rfl

/-- All keys on the way to an entry have been visited, so none of them has a dot. -/
theorem isDotted_of_mem_chain (hdoc : doc.Proper) (hend : ∀ error, .error error ∉ walk doc)
    (he : e ∈ doc.visits []) : ∀ key ∈ e.chain, isDotted key = false := by
  intro key hkey
  obtain ⟨before, after, hchain⟩ := List.append_of_mem hkey
  have hat := (Value.mem_visits_nil_iff hdoc).mp he
  rw [hchain, ← List.singleton_append, ← List.append_assoc, List.map_append, Value.at?_append,
    Option.bind_eq_some_iff] at hat
  obtain ⟨v, hv, -⟩ := hat
  have hvisit : ⟨before, key, v⟩ ∈ doc.visits [] := (Value.mem_visits_nil_iff hdoc).mpr hv
  rw [walk_eq_report] at hend
  exact (Bool.not_eq_true' _).mp (Walk.namable_of_report hend _ hvisit)

theorem keys_path_of_mem_visits (hdoc : doc.Proper) (hend : ∀ error, .error error ∉ walk doc)
    (he : e ∈ doc.visits []) : keys e.path = shown e.chain :=
  keys_joined (by simp [Visit.chain]) (isDotted_of_mem_chain hdoc hend he)

theorem ok_mem_walk_iff (hend : ∀ error, .error error ∉ walk doc) :
    .ok (path, v) ∈ walk doc ↔ ∃ e ∈ doc.visits [], e.path = path ∧ e.value = v := by
  simp [walk_eq_map hend]

/-- No two entries have one path exactly if a path determines the keys that lead to the entry. -/
theorem nodup_walkedPaths_iff (hdoc : doc.Proper) (hend : ∀ error, .error error ∉ walk doc) :
    (walkedPaths doc).Nodup ↔
      ∀ d ∈ doc.visits [], ∀ e ∈ doc.visits [], d.path = e.path → d.chain = e.chain := by
  rw [walkedPaths_eq_map hend, List.nodup_iff_pairwise_ne, List.pairwise_map]
  constructor
  · intro h
    refine List.Pairwise.forall_of_forall_of_flip (fun _ _ _ => rfl) ?_ ?_
    · exact h.imp fun hne hpath => absurd hpath hne
    · exact h.imp fun hne hpath => absurd hpath.symm hne
  · intro h
    have hchains := Value.nodup_visits hdoc []
    rw [List.nodup_iff_pairwise_ne, List.pairwise_map] at hchains
    exact hchains.imp_of_mem fun hd he hne hpath => hne (h _ hd _ he hpath)

/-! ## Entries below an empty key at the root -/

/-- The keys below an empty key at the root are read as indices, and none of them is a key at the
root, too. -/
def KeepsApart (doc : Value) : Prop :=
  ∀ es key, doc.at? [.key ""] = some (.map es) → key ∈ Entries.keys es →
    (∃ i, Segment.ofChars key.toList = .index i) ∧ doc.at? [.key key] = none

/-- A path shows all keys that lead to an entry, or the entry lies below an empty key at the
root. -/
theorem KeepsApart.shown_eq (h : KeepsApart doc)
    (hat : doc.at? (chain.map .key) = some v) :
    shown chain = chain ∨
      ∃ key rest i, chain = "" :: key :: rest ∧ shown chain = key :: rest ∧
        Segment.ofChars key.toList = .index i ∧ doc.at? [.key key] = none := by
  match chain with
  | [] => exact .inl rfl
  | first :: rest =>
    by_cases hskip : first = "" ∧ rest ≠ []
    · obtain ⟨rfl, hrest⟩ := hskip
      obtain ⟨key, more, rfl⟩ := List.exists_cons_of_ne_nil hrest
      obtain ⟨u, hu, hmore⟩ := Option.bind_eq_some_iff.mp hat
      obtain ⟨w, hw, -⟩ := Option.bind_eq_some_iff.mp hmore
      obtain ⟨es, rfl, hget⟩ := Value.exists_map_of_child? hw
      have hkey : key ∈ Entries.keys es :=
        Entries.contains_iff_mem_keys.mp (Option.isSome_of_eq_some hget)
      obtain ⟨⟨i, hi⟩, hnone⟩ := h es key (by rw [Value.at?_singleton, hu]) hkey
      have hne : key ≠ "" := by
        rintro rfl
        cases hi
      refine .inr ⟨key, more, i, rfl, ?_, hi, hnone⟩
      rw [shown, if_pos ⟨rfl, hrest⟩, shown, if_neg fun h => hne h.1]
    · exact .inl (by rw [shown, if_neg hskip])

/-- Two entries whose paths show the same keys are one: what is shown starts with a key at the root
exactly if the whole chain is shown. -/
theorem KeepsApart.chain_eq {other : List String} (h : KeepsApart doc)
    (hat : doc.at? (chain.map .key) = some v) (hother : doc.at? (other.map .key) = some w)
    (hsame : shown chain = shown other) : chain = other := by
  have hstart : ∀ {key : String} {rest : List String} {u : Value},
      doc.at? ((key :: rest).map .key) = some u → doc.at? [.key key] ≠ none := by
    intro key rest u hu
    rw [List.map_cons, ← List.singleton_append, Value.at?_append, Option.bind_eq_some_iff] at hu
    obtain ⟨c, hc, -⟩ := hu
    exact Option.ne_none_iff_exists'.mpr ⟨c, hc⟩
  rcases h.shown_eq hat with hplain | ⟨key, rest, i, hchain, hastray, -, hnone⟩
  · rcases h.shown_eq hother with hplain' | ⟨key, rest, i, -, hastray, -, hnone⟩
    · rw [← hplain, hsame, hplain']
    · rw [← hplain, hsame, hastray] at hat
      exact absurd hnone (hstart hat)
  · rcases h.shown_eq hother with hplain' | ⟨key', rest', i', hchain', hastray', -, -⟩
    · rw [← hplain', ← hsame, hastray] at hother
      exact absurd hnone (hstart hother)
    · rw [hchain, hchain', ← hastray, ← hastray', hsame]

/-- A path of keys shows the whole chain, and so it leads back to its entry. -/
theorem KeepsApart.get_path (h : KeepsApart doc) (hdoc : doc.Proper)
    (hend : ∀ error, .error error ∉ walk doc) (he : e ∈ doc.visits []) (honly : KeysOnly e.path) :
    get doc e.path = .ok e.value := by
  have hkeys := keys_path_of_mem_visits hdoc hend he
  have hat := (Value.mem_visits_nil_iff hdoc).mp he
  rcases h.shown_eq hat with hplain | ⟨key, rest, i, -, hastray, hi, -⟩
  · rw [get_eq_ok_iff, honly.segments_eq, hkeys, hplain, hat]
  · have hfirst : Segment.ofChars key.toList ∈ segments e.path := by
      rw [segments_eq_map_keys, hkeys, hastray]
      exact List.mem_cons_self
    obtain ⟨name, hname⟩ := honly _ hfirst
    cases hi.symm.trans hname

/-- A walk that comes to its end gives each path once, and each path of keys leads back to the value
it was given with, exactly if the keys below an empty key at the root are read as indices and are
not at the root, too. In particular, this is so in a document without an empty key at the root. -/
theorem walk_addresses_iff (hdoc : doc.Proper) (hend : ∀ error, .error error ∉ walk doc) :
    ((walkedPaths doc).Nodup ∧
      ∀ path v, .ok (path, v) ∈ walk doc → KeysOnly path → get doc path = .ok v) ↔
      KeepsApart doc := by
  have hvisit : ∀ {e}, e ∈ doc.visits [] ↔ doc.at? (e.chain.map .key) = some e.value :=
    Value.mem_visits_nil_iff hdoc
  simp only [nodup_walkedPaths_iff hdoc hend, ok_mem_walk_iff hend]
  constructor
  · rintro ⟨hinj, hget⟩ es key hes hkey
    obtain ⟨w, hw⟩ := Option.isSome_iff_exists.mp (Entries.contains_iff_mem_keys.mpr hkey)
    -- The entry below the empty key and one at the root would share their path.
    have hbelow : ⟨[""], key, w⟩ ∈ doc.visits [] := by
      have hat : doc.at? ([.key ""] ++ [.key key]) = some w := by
        rw [Value.at?_append, hes, Option.bind_some, Value.at?_singleton, Value.child?, hw]
      exact hvisit.mpr hat
    have hnone : doc.at? [.key key] = none := by
      refine Option.eq_none_iff_forall_ne_some.mpr fun u hu => ?_
      have hroot : ⟨[], key, u⟩ ∈ doc.visits [] := hvisit.mpr hu
      cases hinj _ hbelow _ hroot rfl
    refine ⟨?_, hnone⟩
    cases hsegment : Segment.ofChars key.toList with
    | index i => exact ⟨i, rfl⟩
    | key name =>
      have hundotted := isDotted_of_mem_chain hdoc hend hbelow key (by simp [Visit.chain])
      have honly : KeysOnly key := by
        rw [KeysOnly, segments_eq_map_keys, keys_of_undotted hundotted]
        simp [hsegment]
      have hread := get_eq_ok_iff.mp (hget key w ⟨_, hbelow, rfl, rfl⟩ honly)
      rw [honly.segments_eq, keys_of_undotted hundotted] at hread
      cases hnone.symm.trans hread
  · intro hapart
    refine ⟨fun d hd e he hpath => ?_, ?_⟩
    · refine hapart.chain_eq (hvisit.mp hd) (hvisit.mp he) ?_
      rw [← keys_path_of_mem_visits hdoc hend hd, ← keys_path_of_mem_visits hdoc hend he, hpath]
    · rintro path v ⟨e, he, rfl, rfl⟩ honly
      exact hapart.get_path hdoc hend he honly

/-- The key below the empty one is read as an index, and no entry at the root has that key. -/
theorem walk_addresses_iff_drawer :
    let drawer : Value := .map [("", .map [("7", .map [("x", .int 1)])]),
      ("b", .map [("", .int 2), ("c", .list [.int 3])])]
    drawer.Proper ∧ (∀ error, .error error ∉ walk drawer) ∧ KeepsApart drawer ∧
    (walkedPaths drawer).Nodup ∧ .ok ("7.x", .int 1) ∈ walk drawer ∧
    get drawer "b." = .ok (.int 2) ∧ get drawer "b.c" = .ok (.list [.int 3]) := by
  intro drawer
  have hdrawer : drawer.Proper := by decide
  have hwalk : walk drawer =
      [.ok ("", .map [("7", .map [("x", .int 1)])]), .ok ("7", .map [("x", .int 1)]),
        .ok ("7.x", .int 1), .ok ("b", .map [("", .int 2), ("c", .list [.int 3])]),
        .ok ("b.", .int 2), .ok ("b.c", .list [.int 3])] := (walk_map _).trans rfl
  have hend : ∀ error, .error error ∉ walk drawer := by simp [hwalk]
  have hapart : KeepsApart drawer := by
    intro es key hes hkey
    cases hes
    cases List.mem_singleton.mp hkey
    exact ⟨⟨7, rfl⟩, rfl⟩
  obtain ⟨hnodup, hget⟩ := (walk_addresses_iff hdrawer hend).mpr hapart
  have hempty : segments "b." = [.key "b", .key ""] := by decide
  have hlist : segments "b.c" = [.key "b", .key "c"] := by decide
  refine ⟨hdrawer, hend, hapart, hnodup, by simp [hwalk], ?_, ?_⟩
  · exact hget "b." _ (by simp [hwalk]) (by simp [KeysOnly, hempty])
  · exact hget "b.c" _ (by simp [hwalk]) (by simp [KeysOnly, hlist])

/-- The entry below an empty key at the root is given a path that leads nowhere. It is read at
another one. -/
theorem walk_astray :
    let doc : Value := .map [("", .map [("a", .int 1)])]
    doc.Proper ∧ (∀ error, .error error ∉ walk doc) ∧ .ok ("a", .int 1) ∈ walk doc ∧
    KeysOnly "a" ∧ get doc "a" = .error (.notFound "a") ∧ get doc ".a" = .ok (.int 1) := by
  intro doc
  have hwalk : walk doc = [.ok ("", .map [("a", .int 1)]), .ok ("a", .int 1)] :=
    (walk_map _).trans rfl
  refine ⟨by decide, by simp [hwalk], by simp [hwalk], ?_, rfl, rfl⟩
  have hsegments : segments "a" = [.key "a"] := by decide
  simp [KeysOnly, hsegments]

end Path

end TypedDocument
