import TypedDocument.Converter.Basic
import TypedDocument.Proofs.Entries
import TypedDocument.Proofs.Outcome
import TypedDocument.Proofs.Path.Walkable

/-!
# Rebuilding a document is a recursion

A converter goes along a walk, skips what lies below settled paths and inserts each converted
value into the result by its path. On a document whose walk comes to its end this amounts to a
recursion over the mappings of the document. The induction carries three things: where the walk
stands, the result so far as a mapping with a hole for the entries of the current mapping, and
settled paths that keep clear of everything that is still to be visited.
-/

namespace TypedDocument

namespace Converter

/-- What stays the same during one pass over a document. -/
structure Pass where
  rule : ConversionRule
  convert : (path : String) → Value → Except ConvertError Value
  doc : Value
  excluded : List String

namespace Pass

/-- The rest of a pass. -/
def run (p : Pass) : List WalkItem → (settled : List String) → (out : Mapping) →
    Except ConvertError Mapping :=
  convertItems p.rule p.convert p.doc p.excluded

def leavesOut (p : Pass) (path : String) : Bool := p.rule.excludes p.doc path p.excluded

mutual

/-- The entries of a mapping, each left out, converted as one value or taken apart. -/
def convertEntries (p : Pass) (parent : Option String) :
    List (String × Value) → Except ConvertError Mapping
  | [] => .ok []
  | (key, v) :: rest =>
    let path := WalkFrame.path parent key
    if p.leavesOut path then convertEntries p parent rest
    else do
      let w ← if p.rule.descends path v then (convertBelow p path v).map .map else p.convert path v
      let ws ← convertEntries p parent rest
      return (key, w) :: ws
termination_by structural es => es

/-- What becomes of the entries below a value that is taken apart. -/
def convertBelow (p : Pass) (path : String) : Value → Except ConvertError Mapping
  | .map es => convertEntries p (some path) es
  | _ => .ok []
termination_by structural v => v

end

/-- What becomes of one entry that is not left out. -/
def convertEntry (p : Pass) (path : String) (v : Value) : Except ConvertError Value :=
  if p.rule.descends path v then (p.convertBelow path v).map .map else p.convert path v

variable {p : Pass} {path key : String} {v : Value} {items rest : List WalkItem}
  {settled : List String} {out : Mapping}

/-! ## The recursion -/

theorem convertEntries_of_leavesOut {parent : Option String} {es : Mapping}
    (h : p.leavesOut (WalkFrame.path parent key) = true) :
    p.convertEntries parent ((key, v) :: es) = p.convertEntries parent es := by
  rw [convertEntries, if_pos h]

theorem convertEntries_bind {α : Type} {parent : Option String} {es : Mapping}
    (h : p.leavesOut (WalkFrame.path parent key) = false) (f : Mapping → Except ConvertError α) :
    (p.convertEntries parent ((key, v) :: es) >>= f) =
      p.convertEntry (WalkFrame.path parent key) v >>= fun w =>
        p.convertEntries parent es >>= fun ws => f ((key, w) :: ws) := by
  rw [convertEntries, if_neg (by simp [h]), convertEntry]
  split <;> simp only [bind_assoc, pure_bind]

theorem convertEntries_cons_eq_ok_iff {parent : Option String} {es ws : Mapping}
    (h : p.leavesOut (WalkFrame.path parent key) = false) :
    p.convertEntries parent ((key, v) :: es) = .ok ws ↔
      ∃ w, p.convertEntry (WalkFrame.path parent key) v = .ok w ∧
        ∃ ws', p.convertEntries parent es = .ok ws' ∧ (key, w) :: ws' = ws := by
  rw [convertEntries, if_neg (by simp [h]), convertEntry]
  split <;> simp [bind_eq_ok_iff]

theorem convertEntry_of_descends (h : p.rule.descends path v = true) :
    p.convertEntry path v = (p.convertBelow path v).map .map := by
  rw [convertEntry, if_pos h]

theorem convertEntry_of_convert (h : p.rule.descends path v = false) :
    p.convertEntry path v = p.convert path v := by
  rw [convertEntry, if_neg (by simp [h])]

/-! ## Steps of a pass -/

theorem run_of_settled (h : settled.any (Path.isWithin path) = true) :
    p.run (.ok (path, v) :: rest) settled out = p.run rest settled out := by
  rw [run, convertItems, if_pos h]

theorem run_of_leavesOut (h : settled.any (Path.isWithin path) = false)
    (hout : p.leavesOut path = true) :
    p.run (.ok (path, v) :: rest) settled out = p.run rest (path :: settled) out := by
  rw [run, convertItems, if_neg (by simp [h])]
  exact if_pos hout

/-- What leaving out means to a step that tests for it. -/
theorem not_excludes (hout : p.leavesOut path = false) :
    ¬ p.rule.excludes p.doc path p.excluded = true := by
  rw [leavesOut] at hout
  simp [hout]

theorem run_of_descends (h : settled.any (Path.isWithin path) = false)
    (hout : p.leavesOut path = false) (hdescends : p.rule.descends path v = true) :
    p.run (.ok (path, v) :: rest) settled out =
      p.run rest settled (insertAt path (.map []) out) := by
  have hkept := not_excludes hout
  rw [run, convertItems, if_neg (by simp [h]), if_neg hkept, if_pos hdescends]

theorem run_of_convert (h : settled.any (Path.isWithin path) = false)
    (hout : p.leavesOut path = false) (hdescends : p.rule.descends path v = false) :
    p.run (.ok (path, v) :: rest) settled out =
      p.convert path v >>= fun w =>
        p.run rest (if v.map?.isSome then path :: settled else settled) (insertAt path w out) := by
  have hkept := not_excludes hout
  rw [run, convertItems, if_neg (by simp [h]), if_neg hkept, if_neg (by simp [hdescends])]
  cases p.convert path v <;> rfl

/-- Entries below a settled path are passed over. -/
theorem run_append_of_settled
    (h : ∀ item ∈ items, ∃ q w, item = .ok (q, w) ∧ settled.any (Path.isWithin q) = true) :
    p.run (items ++ rest) settled out = p.run rest settled out := by
  induction items with
  | nil => rfl
  | cons item items ih =>
    obtain ⟨q, w, rfl, hq⟩ := h item List.mem_cons_self
    rw [List.cons_append, run_of_settled hq]
    exact ih fun i hi => h i (List.mem_cons_of_mem _ hi)

end Pass

/-! ## The hole in the result -/

/-- Inserting along a chain of keys and further on changes only what fills the hole. -/
def Hole (chain : List String) (fill : Mapping → Mapping) : Prop :=
  ∀ v more out, more ≠ [] → insertAlong v (chain ++ more) (fill out) = fill (insertAlong v more out)

variable {chain : List String} {fill : Mapping → Mapping} {key : String} {v w : Value}
  {pre : Mapping}

theorem Hole.root : Hole [] fun out => out := fun _ _ _ _ => rfl

theorem insertAlong_cons {more : List String} {out sub : Mapping} (hmore : more ≠ [])
    (h : Entries.get? key out = some (.map sub)) :
    insertAlong v (key :: more) out = Entries.put key (.map (insertAlong v more sub)) out := by
  cases more with
  | nil => exact absurd rfl hmore
  | cons k rest =>
    rw [insertAlong, h]
    exact hmore

/-- An entry for a new key goes behind the entries that fill the hole. -/
theorem Hole.insert (h : Hole chain fill) (hkey : key ∉ Entries.keys pre) :
    insertAlong v (chain ++ [key]) (fill pre) = fill (pre ++ [(key, v)]) := by
  rw [h v [key] pre (List.cons_ne_nil _ _), insertAlong, Entries.put_of_not_mem hkey]

/-- The hole of a mapping that is the last entry of the mapping around it. -/
theorem Hole.below (h : Hole chain fill) (hkey : key ∉ Entries.keys pre) :
    Hole (chain ++ [key]) fun out => fill (pre ++ [(key, .map out)]) := by
  intro v more out hmore
  rw [List.append_assoc, List.singleton_append, h v (key :: more) _ (List.cons_ne_nil _ _),
    insertAlong_cons hmore (Entries.get?_append_self hkey), Entries.put_append_self hkey]

/-! ## Settled paths -/

/-- Neither chain of keys continues the other. -/
def Apart (a b : List String) : Prop := ¬ a <+: b ∧ ¬ b <+: a

theorem Apart.append {a b : List String} (h : Apart a b) (more : List String) :
    Apart a (b ++ more) := by
  constructor
  · intro ha
    rcases List.prefix_or_prefix_of_prefix ha (List.prefix_append b more) with hab | hba
    · exact h.1 hab
    · exact h.2 hba
  · intro hb
    exact h.2 ((List.prefix_append b more).trans hb)

theorem Apart.extend {a b c : List String} (h : Apart a c) (hab : a <+: b) : Apart b c := by
  constructor
  · intro hb
    exact h.1 (hab.trans hb)
  · intro hc
    rcases List.prefix_or_prefix_of_prefix hab hc with hac | hca
    · exact h.1 hac
    · exact h.2 hca

theorem apart_of_ne {a b : String} (h : a ≠ b) (chain : List String) :
    Apart (chain ++ [a]) (chain ++ [b]) := by
  simp [Apart, List.prefix_append_right_inj, h, Ne.symm h]

/-- The settled paths keep clear of what lies along a chain of keys. -/
def Clear (settled : List String) (chain : List String) : Prop :=
  ∀ a ∈ settled, Apart (Path.keys a) chain

theorem Clear.append {settled : List String} (h : Clear settled chain) (more : List String) :
    Clear settled (chain ++ more) := fun a ha => (h a ha).append more

theorem Clear.not_settled {settled : List String} {path : String}
    (h : Clear settled (Path.keys path)) : settled.any (Path.isWithin path) = false := by
  rw [List.any_eq_false]
  intro a ha hwithin
  exact (h a ha).1 (Path.isWithin_iff_prefix.mp hwithin)

/-! ## One mapping after the other -/

namespace Pass

variable {p : Pass}

/-- The part of a pass that lies below a value fills the hole of its mapping. It may settle more
paths, all below the path of the value. -/
def Rebuilds (p : Pass) (v : Value) : Prop :=
  ∀ path settled, path ≠ "" → Clear settled (Path.keys path) →
    ∃ new, (∀ a ∈ new, Path.keys path <+: Path.keys a) ∧
      ∀ fill rest, Hole (Path.keys path) fill →
        p.run ((v.preorder path).1 ++ rest) settled (fill []) =
          p.convertBelow path v >>= fun sub => p.run rest (new ++ settled) (fill sub)

/-- One entry of a mapping, with everything below it. -/
def RebuildsEntry (p : Pass) (path key : String) (v : Value) : Prop :=
  ∀ settled chain, Path.keys path = chain ++ [key] → path ≠ "" → Clear settled (Path.keys path) →
    ∃ new, (∀ a ∈ new, Path.keys path <+: Path.keys a) ∧
      ∀ fill pre rest, Hole chain fill → key ∉ Entries.keys pre →
        p.run (.ok (path, v) :: ((v.preorder path).1 ++ rest)) settled (fill pre) =
          if p.leavesOut path then p.run rest (new ++ settled) (fill pre)
          else p.convertEntry path v >>= fun w =>
            p.run rest (new ++ settled) (fill (pre ++ [(key, w)]))

variable {path key : String} {v : Value}

theorem run_below_of_settled (hv : v.Walkable) (hpath : path ≠ "") (rest : List WalkItem)
    (settled : List String) (out : Mapping) :
    p.run ((v.preorder path).1 ++ rest) (path :: settled) out =
      p.run rest (path :: settled) out := by
  apply run_append_of_settled
  intro item hitem
  obtain ⟨q, w, rfl, hprefix⟩ := Value.preorder_keys hv path hpath item hitem
  exact ⟨q, w, rfl, by simp [Path.isWithin_iff_prefix.mpr hprefix]⟩

/-- The path that is settled by a value converted as one. -/
def settledBy (path : String) (v : Value) : List String := if v.map?.isSome then [path] else []

theorem run_below_of_convert (hv : v.Walkable) (hpath : path ≠ "") (rest : List WalkItem)
    (settled : List String) (out : Mapping) :
    p.run ((v.preorder path).1 ++ rest) (settledBy path v ++ settled) out =
      p.run rest (settledBy path v ++ settled) out := by
  cases v with
  | map es => exact run_below_of_settled hv hpath rest settled out
  | _ => rfl

theorem rebuildsEntry (hv : v.Walkable) (ih : p.Rebuilds v) : p.RebuildsEntry path key v := by
  intro settled chain hkeys hpath hclear
  have hfree := hclear.not_settled
  cases hout : p.leavesOut path with
  | true =>
    refine ⟨[path], by simp, ?_⟩
    intro fill pre rest _ _
    rw [run_of_leavesOut hfree hout, run_below_of_settled hv hpath, if_pos rfl]
    rfl
  | false =>
    have hinsert : ∀ fill pre w, Hole chain fill → key ∉ Entries.keys pre →
        insertAt path w (fill pre) = fill (pre ++ [(key, w)]) := by
      intro fill pre w hfill hkey
      rw [insertAt, ← Path.keys, hkeys, hfill.insert hkey]
    cases hdescends : p.rule.descends path v with
    | true =>
      obtain ⟨new, hnew, hbelow⟩ := ih path settled hpath hclear
      refine ⟨new, hnew, ?_⟩
      intro fill pre rest hfill hkey
      have hhole : Hole (Path.keys path) fun out => fill (pre ++ [(key, .map out)]) :=
        hkeys ▸ hfill.below hkey
      rw [run_of_descends hfree hout hdescends, hinsert fill pre _ hfill hkey, hbelow _ rest hhole,
        if_neg Bool.false_ne_true, convertEntry_of_descends hdescends]
      cases p.convertBelow path v <;> rfl
    | false =>
      refine ⟨settledBy path v, ?_, ?_⟩
      · intro a ha
        rw [settledBy] at ha
        split at ha
        · cases List.mem_singleton.mp ha
          exact List.prefix_rfl
        · cases ha
      · intro fill pre rest hfill hkey
        have hsettled : (if v.map?.isSome then path :: settled else settled) =
            settledBy path v ++ settled := by
          rw [settledBy]
          split <;> rfl
        rw [run_of_convert hfree hout hdescends, hsettled, if_neg Bool.false_ne_true,
          convertEntry_of_convert hdescends]
        apply bind_congr
        intro w
        rw [run_below_of_convert hv hpath, hinsert fill pre w hfill hkey]

/-- The settled paths of one entry keep clear of the entries beside it. -/
theorem clear_beside {new settled : List String} {chain : List String} {other : String}
    (hnew : ∀ a ∈ new, chain ++ [key] <+: Path.keys a) (hne : key ≠ other)
    (h : Clear settled (chain ++ [other])) : Clear (new ++ settled) (chain ++ [other]) := by
  intro a ha
  rcases List.mem_append.mp ha with ha | ha
  · exact (apart_of_ne hne chain).extend (hnew a ha)
  · exact h a ha

/-- The entries of a mapping fill its hole one after the other. -/
theorem run_entries {es : Mapping} (ih : ∀ key v, (key, v) ∈ es → v.Walkable → p.Rebuilds v) :
    ∀ parent settled, Mapping.Walkable es → WalkFrame.Named parent es →
      (∀ key ∈ Entries.keys es, Clear settled (WalkFrame.chain parent ++ [key])) →
      ∃ new, (∀ a ∈ new, WalkFrame.chain parent <+: Path.keys a) ∧
        ∀ fill pre rest, Hole (WalkFrame.chain parent) fill →
          (∀ key ∈ Entries.keys es, key ∉ Entries.keys pre) →
          p.run ((Mapping.preorder parent es).1 ++ rest) settled (fill pre) =
            p.convertEntries parent es >>= fun es' =>
              p.run rest (new ++ settled) (fill (pre ++ es')) := by
  induction es with
  | nil =>
    intro parent settled _ _ _
    refine ⟨[], by simp, ?_⟩
    intro fill pre rest _ _
    rw [Mapping.preorder, convertEntries, ok_bind, List.append_nil]
    rfl
  | cons e es ihes =>
    intro parent settled hes hparent hclear
    obtain ⟨key, v⟩ := e
    obtain ⟨hundotted, hkey, hv, hrest⟩ := Mapping.walkable_cons_iff.mp hes
    have hkeys := WalkFrame.keys_path hparent hundotted
    have hprefix : WalkFrame.chain parent <+: Path.keys (WalkFrame.path parent key) :=
      hkeys ▸ List.prefix_append _ _
    -- The entry itself settles paths below it only, so the entries beside it are still free.
    have hrebuilds : p.RebuildsEntry (WalkFrame.path parent key) key v :=
      rebuildsEntry hv (ih key v List.mem_cons_self hv)
    obtain ⟨new, hnew, hentry⟩ := hrebuilds settled _ hkeys (WalkFrame.path_ne_empty hparent)
      (hkeys ▸ hclear key List.mem_cons_self)
    have hbeside : ∀ other ∈ Entries.keys es,
        Clear (new ++ settled) (WalkFrame.chain parent ++ [other]) := by
      intro other hother
      have hne : key ≠ other := fun h => hkey (h ▸ hother)
      exact clear_beside (hkeys ▸ hnew) hne (hclear other (List.mem_cons_of_mem _ hother))
    have hothers := ihes fun k w hw => ih k w (List.mem_cons_of_mem _ hw)
    obtain ⟨more, hmore, hentries⟩ := hothers parent (new ++ settled) hrest hparent.tail hbeside
    refine ⟨more ++ new, ?_, ?_⟩
    · intro a ha
      rcases List.mem_append.mp ha with ha | ha
      · exact hmore a ha
      · exact hprefix.trans (hnew a ha)
    · intro fill pre rest hfill hpre
      have hkeypre := hpre key List.mem_cons_self
      have hrestpre : ∀ k ∈ Entries.keys es, k ∉ Entries.keys pre :=
        fun k hk => hpre k (List.mem_cons_of_mem _ hk)
      rw [Mapping.preorder_cons hundotted hv, List.cons_append, List.append_assoc,
        hentry fill pre _ hfill hkeypre, List.append_assoc more new settled]
      cases hout : p.leavesOut (WalkFrame.path parent key) with
      | true =>
        rw [if_pos rfl, convertEntries_of_leavesOut hout, hentries fill pre rest hfill hrestpre]
      | false =>
        rw [if_neg Bool.false_ne_true, convertEntries_bind hout]
        apply bind_congr
        intro w
        have hnotpre : ∀ k ∈ Entries.keys es, k ∉ Entries.keys (pre ++ [(key, w)]) := by
          intro k hk
          have hne : k ≠ key := fun h => hkey (h ▸ hk)
          simpa [Entries.keys, hne] using hrestpre k hk
        rw [hentries fill (pre ++ [(key, w)]) rest hfill hnotpre]
        apply bind_congr
        intro ws
        rw [List.append_assoc, List.singleton_append]

/-- Whatever a value holds is put back in its place. -/
theorem rebuilds {v : Value} : v.Walkable → p.Rebuilds v := by
  induction v using Value.mappingInduction with
  | plain v hv =>
    intro _ path settled _ _
    refine ⟨[], by simp, ?_⟩
    intro fill rest _
    cases v with
    | map => cases hv
    | _ => rfl
  | map es ih =>
    intro hv path settled hpath hclear
    have hclears : ∀ key ∈ Entries.keys es, Clear settled (Path.keys path ++ [key]) := by
      intro key _
      exact hclear.append [key]
    obtain ⟨new, hnew, hentries⟩ := run_entries ih (some path) settled
      (Value.walkable_map_iff.mp hv) (WalkFrame.named_some hpath es) hclears
    refine ⟨new, hnew, ?_⟩
    intro fill rest hfill
    exact hentries fill [] rest hfill fun _ _ h => by cases h

end Pass

/-- The conversion of a document entry by entry is a recursion over its mappings. The document
must not have keys with dots or an empty key at its top. -/
theorem convertDocument_map {rule : ConversionRule}
    {convert : String → Value → Except ConvertError Value} {excluded : List String} {es : Mapping}
    (hes : (Value.map es).Walkable) (htop : "" ∉ Entries.keys es) :
    convertDocument rule convert excluded (.map es) =
      (Pass.convertEntries ⟨rule, convert, .map es, excluded⟩ none es).map .map := by
  have hnamed : WalkFrame.Named none es := ⟨by simp, fun _ key hkey h => htop (h ▸ hkey)⟩
  obtain ⟨new, -, hrun⟩ := Pass.run_entries (p := ⟨rule, convert, .map es, excluded⟩)
    (fun _ v _ => Pass.rebuilds) none [] (Value.walkable_map_iff.mp hes) hnamed
      fun _ _ _ h => by cases h
  have hwalk := hrun (fun out => out) [] [] Hole.root fun _ _ h => by cases h
  rw [List.append_nil, ← Path.walk_map] at hwalk
  rw [convertDocument]
  change (Pass.run ⟨rule, convert, .map es, excluded⟩ (Path.walk (.map es)) [] []).map Value.map = _
  rw [hwalk]
  cases Pass.convertEntries ⟨rule, convert, .map es, excluded⟩ none es <;> rfl

end Converter

end TypedDocument
