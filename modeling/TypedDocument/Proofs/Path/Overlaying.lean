import TypedDocument.Path.Overlay
import TypedDocument.Proofs.Path.Reading
import TypedDocument.Proofs.Reordering.Basic

/-!
# Overlays, place by place

An overlay is known as soon as it is known what a chain of keys leads to. At one key it puts the
overlay of two mappings, or a value that replaces the old one, or leaves the old one alone, and at
every other key nothing changes. Following a chain of keys repeats this step inside of the mappings.
Hence the result holds what the overlay holds, except that a place about which the overlay says
nothing holds what it held before.
-/

namespace TypedDocument

variable {skipNull : Bool} {es target sub : Mapping} {key k : String} {v w : Value}
  {chain rest : List String} {found : Option Value}

/-! ## Values and what they do to the ones they meet -/

namespace Value

/-- A value that takes the place of the one an overlay meets: no mapping, and no null that is left
out. -/
def Replaces (skipNull : Bool) (v : Value) : Prop :=
  v.map? = none ∧ (skipNull = true → v ≠ .null)

/-- Every value of an overlay is a mapping, a null that is left out, or replaces what it meets. -/
theorem replaces_cases (skipNull : Bool) (v : Value) :
    (∃ sub, v = map sub) ∨ (skipNull = true ∧ v = null) ∨ v.Replaces skipNull := by
  match hmap : v.map? with
  | some sub => exact .inl ⟨sub, map?_eq_some_iff.mp hmap⟩
  | none =>
    by_cases hnull : skipNull = true ∧ v = null
    · exact .inr (.inl hnull)
    · exact .inr (.inr ⟨hmap, fun hskip hv => hnull ⟨hskip, hv⟩⟩)

theorem Replaces.overlayAt_eq (h : v.Replaces skipNull) :
    v.overlayAt skipNull key target = Entries.put key v target := by
  cases v with
  | map => cases h.1
  | null =>
    rw [overlayAt, if_neg]
    exact fun hskip => h.2 hskip rfl
  | _ => rfl

end Value

namespace Mapping

/-- The value that keys lead to from a mapping, through mappings only. -/
def along (es : Mapping) (chain : List String) : Option Value :=
  (Value.map es).at? (chain.map .key)

/-- The mapping that was found; anything else counts as empty. -/
def ofFound (found : Option Value) : Mapping := (found.bind Value.map?).getD []

/-- A beginning of the chain leads to a value of the overlay that replaces what it meets, so the
rest of the chain leads nowhere. -/
def Displaces (skipNull : Bool) (es : Mapping) (chain : List String) : Prop :=
  ∃ before after v, chain = before ++ after ∧ after ≠ [] ∧ es.along before = some v ∧
    v.Replaces skipNull

theorem along_cons (es : Mapping) (key : String) (rest : List String) :
    es.along (key :: rest) = (Entries.get? key es).bind (·.at? (rest.map .key)) := rfl

theorem below_eq_ofFound : below key target = ofFound (Entries.get? key target) := by
  rw [below, ofFound]
  split
  · next hsub => rw [hsub, Option.bind_some, Value.map?, Option.getD_some]
  · next hsub =>
    have hnone : (Entries.get? key target).bind Value.map? = none := by
      rw [Option.bind_eq_none_iff]
      exact fun v hv => Option.eq_none_iff_forall_ne_some.mpr fun sub hmap =>
        hsub sub (Value.map?_eq_some_iff.mp hmap ▸ hv)
    rw [hnone, Option.getD_none]

theorem along_ofFound (hchain : chain ≠ []) :
    (ofFound found).along chain = found.bind (·.at? (chain.map .key)) := by
  obtain ⟨key, rest, rfl⟩ := List.exists_cons_of_ne_nil hchain
  match found with
  | none => rfl
  | some v =>
    rw [Option.bind_some, ofFound, Option.bind_some]
    match hmap : v.map? with
    | none =>
      rw [Value.at?_of_map?_eq_none hmap hchain]
      rfl
    | some sub =>
      rw [Value.map?_eq_some_iff.mp hmap]
      rfl

theorem ofFound_along_ofFound (found : Option Value) (chain : List String) :
    ofFound ((ofFound found).along chain) = ofFound (found.bind (·.at? (chain.map .key))) := by
  match chain with
  | [] =>
    have hfound : (found.bind fun v => v.at? []) = found := Option.bind_fun_some found
    rw [List.map_nil, hfound]
    rfl
  | key :: rest => rw [along_ofFound (List.cons_ne_nil key rest)]

theorem not_displaces_nil : ¬ Displaces skipNull es [] := by
  rintro ⟨before, after, v, hchain, hafter, -⟩
  exact hafter (List.append_eq_nil_iff.mp hchain.symm).2

theorem displaces_cons_iff :
    Displaces skipNull es (key :: rest) ↔
      ∃ v, Entries.get? key es = some v ∧
        ((v.Replaces skipNull ∧ rest ≠ []) ∨
          ∃ sub, v = .map sub ∧ Displaces skipNull sub rest) := by
  constructor
  · rintro ⟨before, after, v, hchain, hafter, hv, hreplaces⟩
    match before with
    | [] =>
      cases hv
      cases hreplaces.1
    | k :: before =>
      obtain ⟨rfl, rfl⟩ := List.cons.inj hchain
      rw [along_cons, Option.bind_eq_some_iff] at hv
      obtain ⟨w, hw, hv⟩ := hv
      refine ⟨w, hw, ?_⟩
      match hmap : w.map? with
      | some sub =>
        have hsub := Value.map?_eq_some_iff.mp hmap
        rw [hsub] at hv
        exact .inr ⟨sub, hsub, before, after, v, rfl, hafter, hv, hreplaces⟩
      | none =>
        match before with
        | [] =>
          cases hv
          exact .inl ⟨hreplaces, hafter⟩
        | k :: before =>
          rw [Value.at?_of_map?_eq_none hmap (List.cons_ne_nil k before)] at hv
          cases hv
  · rintro ⟨v, hv, ⟨hreplaces, hrest⟩ | ⟨sub, rfl, before, after, w, rfl, hafter, hw, hreplaces⟩⟩
    · exact ⟨[key], rest, v, rfl, hrest, by rw [along_cons, hv]; rfl, hreplaces⟩
    · exact ⟨key :: before, after, w, rfl, hafter, by rw [along_cons, hv]; exact hw, hreplaces⟩

end Mapping

/-! ## One key -/

/-- What becomes of the value found at a key when a value is brought in there. -/
def Value.overlaid (skipNull : Bool) (found : Option Value) : Value → Option Value
  | .map sub => some (.map (Mapping.overlay skipNull sub (Mapping.ofFound found)))
  | .null => if skipNull then found else some .null
  | v => some v

theorem Value.Replaces.overlaid_eq (h : v.Replaces skipNull) :
    v.overlaid skipNull found = some v := by
  cases v with
  | map => cases h.1
  | null =>
    rw [Value.overlaid, if_neg]
    exact fun hskip => h.2 hskip rfl
  | _ => rfl

/-- Bringing in a value changes its own key only. -/
theorem Value.get?_overlayAt (v : Value) :
    Entries.get? k (v.overlayAt skipNull key target) =
      if key == k then v.overlaid skipNull (Entries.get? key target)
      else Entries.get? k target := by
  rcases v.replaces_cases skipNull with ⟨sub, rfl⟩ | ⟨rfl, rfl⟩ | hreplaces
  · rw [overlayAt, Entries.get?_put, Mapping.below_eq_ofFound]
    rfl
  · rw [overlayAt, if_pos rfl, overlaid, if_pos rfl]
    split
    · next hk => rw [eq_of_beq hk]
    · rfl
  · rw [hreplaces.overlayAt_eq, Entries.get?_put, hreplaces.overlaid_eq]

namespace Mapping

/-- At each key an overlay does what its own value there does, if it has one. -/
theorem get?_overlay (hes : Entries.Distinct es) :
    Entries.get? k (overlay skipNull es target) =
      (Entries.get? k es).elim (Entries.get? k target)
        (Value.overlaid skipNull (Entries.get? k target)) := by
  induction es generalizing target with
  | nil => rfl
  | cons e rest ih =>
    obtain ⟨key, v⟩ := e
    obtain ⟨hkey, hrest⟩ := Entries.distinct_cons_iff.mp hes
    rw [overlay, ih hrest, Value.get?_overlayAt, Entries.get?]
    by_cases hk : key = k
    · subst hk
      rw [Entries.get?_eq_none_iff.mpr hkey, if_pos (beq_self_eq_true key),
        if_pos (beq_self_eq_true key), Option.elim_none, Option.elim_some]
    · rw [if_neg (by simpa using hk), if_neg (by simpa using hk)]

/-! ## Along a chain of keys -/

theorem along_overlay_of_none (hes : Entries.Distinct es) (h : Entries.get? key es = none) :
    (overlay skipNull es target).along (key :: rest) = target.along (key :: rest) := by
  rw [along_cons, get?_overlay hes, h]
  rfl

theorem along_overlay_of_null (hes : Entries.Distinct es)
    (h : Entries.get? key es = some .null) :
    (overlay true es target).along (key :: rest) = target.along (key :: rest) := by
  rw [along_cons, get?_overlay hes, h]
  rfl

theorem along_overlay_of_replaces (hes : Entries.Distinct es) (h : Entries.get? key es = some v)
    (hv : v.Replaces skipNull) :
    (overlay skipNull es target).along (key :: rest) = v.at? (rest.map .key) := by
  rw [along_cons, get?_overlay hes, h, Option.elim_some, hv.overlaid_eq, Option.bind_some]

theorem along_overlay_of_map (hes : Entries.Distinct es)
    (h : Entries.get? key es = some (.map sub)) :
    (overlay skipNull es target).along (key :: rest) =
      (overlay skipNull sub (ofFound (Entries.get? key target))).along rest := by
  rw [along_cons, get?_overlay hes, h]
  rfl

theorem proper_of_get? (hes : (Value.map es).Proper) (h : Entries.get? key es = some v) :
    v.Proper :=
  (Value.proper_map_iff.mp hes).2 key v (Entries.mem_of_get?_eq_some h)

theorem along_overlay_replaces (hes : (Value.map es).Proper) (h : es.along chain = some v)
    (hv : v.Replaces skipNull) : (overlay skipNull es target).along chain = some v := by
  induction chain generalizing es target with
  | nil =>
    cases h
    cases hv.1
  | cons key rest ih =>
    have hdistinct := (Value.proper_map_iff.mp hes).1
    rw [along_cons] at h
    obtain ⟨w, hw, h⟩ := Option.bind_eq_some_iff.mp h
    rcases w.replaces_cases skipNull with ⟨sub, rfl⟩ | ⟨rfl, rfl⟩ | hreplaces
    · rw [along_overlay_of_map hdistinct hw]
      exact ih (proper_of_get? hes hw) h
    · match rest with
      | [] => exact absurd (Option.some.inj h).symm (hv.2 rfl)
      | _ :: _ => cases h
    · rw [along_overlay_of_replaces hdistinct hw hreplaces, h]

/-- Two mappings at a place are overlaid, and one that meets anything else starts from the empty
one. -/
theorem along_overlay_map (hes : (Value.map es).Proper) (h : es.along chain = some (.map sub)) :
    (overlay skipNull es target).along chain =
      some (.map (overlay skipNull sub (ofFound (target.along chain)))) := by
  induction chain generalizing es target with
  | nil =>
    cases h
    rfl
  | cons key rest ih =>
    rw [along_cons] at h
    obtain ⟨w, hw, h⟩ := Option.bind_eq_some_iff.mp h
    obtain ⟨sub', rfl⟩ := Value.exists_map_of_at? h
    rw [along_overlay_of_map (Value.proper_map_iff.mp hes).1 hw, ih (proper_of_get? hes hw) h,
      ofFound_along_ofFound, along_cons]

theorem along_overlay_displaced (hes : (Value.map es).Proper) (h : Displaces skipNull es chain) :
    (overlay skipNull es target).along chain = none := by
  induction chain generalizing es target with
  | nil => exact absurd h not_displaces_nil
  | cons key rest ih =>
    have hdistinct := (Value.proper_map_iff.mp hes).1
    obtain ⟨v, hv, ⟨hreplaces, hrest⟩ | ⟨sub, rfl, hsub⟩⟩ := displaces_cons_iff.mp h
    · rw [along_overlay_of_replaces hdistinct hv hreplaces]
      exact Value.at?_of_map?_eq_none hreplaces.1 hrest
    · rw [along_overlay_of_map hdistinct hv]
      exact ih (proper_of_get? hes hv) hsub

/-- Where the overlay has nothing, or a null that is left out, the target stays as it is, unless a
value has come in on the way. -/
theorem along_overlay_kept (hes : (Value.map es).Proper)
    (h : ∀ v, es.along chain = some v → skipNull = true ∧ v = .null)
    (hdisplaces : ¬ Displaces skipNull es chain) :
    (overlay skipNull es target).along chain = target.along chain := by
  induction chain generalizing es target with
  | nil => cases (h _ rfl).2
  | cons key rest ih =>
    have hdistinct := (Value.proper_map_iff.mp hes).1
    match hw : Entries.get? key es with
    | none => exact along_overlay_of_none hdistinct hw
    | some w =>
      rw [along_cons, hw, Option.bind_some] at h
      rcases w.replaces_cases skipNull with ⟨sub, rfl⟩ | ⟨rfl, rfl⟩ | hreplaces
      · have hrest : rest ≠ [] := by
          rintro rfl
          cases (h _ rfl).2
        have hsub : ¬ Displaces skipNull sub rest := fun hsub =>
          hdisplaces (displaces_cons_iff.mpr ⟨_, hw, .inr ⟨sub, rfl, hsub⟩⟩)
        rw [along_overlay_of_map hdistinct hw, ih (proper_of_get? hes hw) h hsub,
          along_ofFound hrest, along_cons]
      · exact along_overlay_of_null hdistinct hw
      · match rest with
        | [] =>
          obtain ⟨hskip, hnull⟩ := h w rfl
          exact absurd hnull (hreplaces.2 hskip)
        | k :: rest =>
          have hbefore : Displaces skipNull es (key :: k :: rest) :=
            displaces_cons_iff.mpr ⟨w, hw, .inl ⟨hreplaces, List.cons_ne_nil k rest⟩⟩
          exact absurd hbefore hdisplaces

/-! ## The order of keys -/

/-- Whether an entry of an overlay brings in a key that the target does not have. -/
def addsKey (skipNull : Bool) (target : Mapping) (e : String × Value) : Bool :=
  !Entries.contains e.1 target && !(skipNull && e.2.isNull)

theorem keys_overlayAt :
    Entries.keys (v.overlayAt skipNull key target) =
      if addsKey skipNull target (key, v) then Entries.keys target ++ [key]
      else Entries.keys target := by
  have hput : ∀ w, Entries.keys (Entries.put key w target) =
      if !Entries.contains key target then Entries.keys target ++ [key]
      else Entries.keys target := by
    intro w
    rw [Entries.keys_put]
    cases Entries.contains key target <;> rfl
  rcases v.replaces_cases skipNull with ⟨sub, rfl⟩ | ⟨rfl, rfl⟩ | hreplaces
  · rw [Value.overlayAt, hput, addsKey]
    simp [Value.isNull]
  · simp [Value.overlayAt, addsKey, Value.isNull]
  · have hnull : (skipNull && v.isNull) = false := by
      rw [Bool.and_eq_false_imp]
      intro hskip
      have hne := hreplaces.2 hskip
      cases v with
      | null => exact absurd rfl hne
      | _ => rfl
    rw [hreplaces.overlayAt_eq, hput, addsKey, hnull, Bool.not_false, Bool.and_true]

/-- The keys of the target keep their places, and behind them come the new ones, in the order of the
overlay. -/
theorem keys_overlay (hes : Entries.Distinct es) :
    Entries.keys (overlay skipNull es target) =
      Entries.keys target ++ Entries.keys (es.filter (addsKey skipNull target)) := by
  induction es generalizing target with
  | nil => exact (List.append_nil _).symm
  | cons e rest ih =>
    obtain ⟨key, v⟩ := e
    obtain ⟨hkey, hrest⟩ := Entries.distinct_cons_iff.mp hes
    have hsame : rest.filter (addsKey skipNull (v.overlayAt skipNull key target)) =
        rest.filter (addsKey skipNull target) := by
      refine List.filter_congr fun e he => ?_
      have hne : key ≠ e.1 := by
        rintro rfl
        exact hkey (List.mem_map_of_mem (f := (·.1)) he)
      have hget : Entries.get? e.1 (v.overlayAt skipNull key target) = Entries.get? e.1 target := by
        rw [Value.get?_overlayAt, if_neg (by simpa using hne)]
      rw [addsKey, addsKey, Entries.contains, hget, Entries.contains]
    rw [overlay, ih hrest, hsame, keys_overlayAt, List.filter_cons]
    split
    · rw [List.append_assoc]
      rfl
    · rfl

/-! ## The same overlay again -/

theorem overlay_eq_self (h : ∀ key v, (key, v) ∈ es → v.overlayAt skipNull key target = target) :
    overlay skipNull es target = target := by
  induction es with
  | nil => rfl
  | cons e rest ih =>
    rw [overlay, h e.1 e.2 List.mem_cons_self]
    exact ih fun k w hw => h k w (List.mem_cons_of_mem e hw)

/-- A second overlay with the same mapping finds everything in its place. -/
theorem overlay_overlay (es : Mapping) :
    (Value.map es).Proper → ∀ target : Mapping,
      overlay skipNull es (overlay skipNull es target) = overlay skipNull es target := by
  induction es using Value.nestedInduction with
  | step es ih =>
    intro hes target
    obtain ⟨hdistinct, hvalues⟩ := Value.proper_map_iff.mp hes
    refine overlay_eq_self fun key v hv => ?_
    have hget : Entries.get? key (overlay skipNull es target) =
        v.overlaid skipNull (Entries.get? key target) := by
      rw [get?_overlay hdistinct, (Entries.mem_iff_get? hdistinct).mp hv, Option.elim_some]
    rcases v.replaces_cases skipNull with ⟨sub, rfl⟩ | ⟨rfl, rfl⟩ | hreplaces
    · have hbelow : below key (overlay skipNull es target) =
          overlay skipNull sub (ofFound (Entries.get? key target)) := by
        rw [below_eq_ofFound, hget]
        rfl
      rw [Value.overlayAt, hbelow, ih key sub hv (hvalues key _ hv)]
      exact Entries.put_of_get? hget
    · rfl
    · rw [hreplaces.overlaid_eq] at hget
      rw [hreplaces.overlayAt_eq]
      exact Entries.put_of_get? hget

/-- An overlay, place by place. Where it has a value that replaces what it meets, the result has
that value, and nothing behind it. Where it has a mapping, the result has one, with the keys the
target has there in their order and behind them the new keys of the overlay, without nulls that are
left out. In every other place the result has what the target has. The same overlay once more
changes nothing. -/
theorem overlay_pointwise (skipNull : Bool) (es target : Mapping) (hes : (Value.map es).Proper) :
    (∀ chain v, es.along chain = some v → v.Replaces skipNull →
      (overlay skipNull es target).along chain = some v) ∧
    (∀ chain sub, es.along chain = some (.map sub) →
      ∃ sub', (overlay skipNull es target).along chain = some (.map sub') ∧
        Entries.keys sub' = Entries.keys (ofFound (target.along chain)) ++
          Entries.keys (sub.filter (addsKey skipNull (ofFound (target.along chain))))) ∧
    (∀ chain, Displaces skipNull es chain → (overlay skipNull es target).along chain = none) ∧
    (∀ chain, (∀ v, es.along chain = some v → skipNull = true ∧ v = .null) →
      ¬ Displaces skipNull es chain →
      (overlay skipNull es target).along chain = target.along chain) ∧
    overlay skipNull es (overlay skipNull es target) = overlay skipNull es target := by
  refine ⟨?_, ?_, ?_, ?_, overlay_overlay es hes target⟩
  · exact fun chain v => along_overlay_replaces hes
  · intro chain sub hsub
    have hdistinct : Entries.Distinct sub := hes _ (Value.within_of_at? hsub) sub rfl
    exact ⟨_, along_overlay_map hes hsub, keys_overlay hdistinct⟩
  · exact fun chain => along_overlay_displaced hes
  · exact fun chain => along_overlay_kept hes

/-- A mapping meets a number, a mapping and nothing, a number meets a mapping, and the nulls are
left out. -/
theorem overlay_pointwise_settings :
    let target : Mapping := [("a", .int 0), ("b", .map [("c", .int 3), ("d", .int 4)]),
      ("e", .map [("f", .int 5)])]
    let es : Mapping := [("b", .map [("x", .int 7), ("c", .null), ("d", .int 8)]), ("g", .map []),
      ("a", .map [("", .text "")]), ("e", .int 6), ("h", .null)]
    (Value.map es).Proper ∧
    (overlay true es target).along ["b", "d"] = some (.int 8) ∧
    (overlay true es target).along ["a", ""] = some (.text "") ∧
    (∃ sub, (overlay true es target).along ["b"] = some (.map sub) ∧
      Entries.keys sub = ["c", "d", "x"]) ∧
    Entries.keys (overlay true es target) = ["a", "b", "e", "g"] ∧
    (overlay true es target).along ["e", "f"] = none ∧
    (overlay true es target).along ["b", "c"] = some (.int 3) ∧
    overlay true es (overlay true es target) = overlay true es target := by
  intro target es
  have hes : (Value.map es).Proper := by decide
  obtain ⟨hreplaces, hmap, hdisplaced, hkept, hagain⟩ := overlay_pointwise true es target hes
  have hint : ∀ i, (Value.int i).Replaces true := fun i => ⟨rfl, fun _ => by simp⟩
  obtain ⟨root, hroot, hkeys⟩ := hmap [] es rfl
  cases hroot
  refine ⟨hes, hreplaces ["b", "d"] _ rfl (hint 8), ?_, hmap ["b"] _ rfl, hkeys, ?_, ?_, hagain⟩
  · exact hreplaces ["a", ""] (.text "") rfl ⟨rfl, fun _ => by simp⟩
  · exact hdisplaced ["e", "f"] ⟨["e"], ["f"], .int 6, rfl, by simp, rfl, hint 6⟩
  · refine hkept ["b", "c"] (fun v hv => ⟨rfl, (Option.some.inj hv).symm⟩) ?_
    simp only [displaces_cons_iff, not_displaces_nil]
    rintro ⟨v, hv, ⟨hv', -⟩ | ⟨sub, rfl, w, hw, ⟨-, hne⟩ | ⟨-, -, hnil⟩⟩⟩
    · cases hv
      cases hv'.1
    · exact hne rfl
    · exact hnil

end Mapping

end TypedDocument
