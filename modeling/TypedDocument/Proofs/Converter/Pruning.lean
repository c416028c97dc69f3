import TypedDocument.Proofs.Converter.Rebuild

/-!
# Documents without the entries at listed paths

Pruning takes out every entry whose chain of keys makes a listed path or goes on from one. Lists are
not entered. A converter tests for exclusion by comparing texts, and that is the same test, because
the path to an entry splits into the keys that lead there. A pass that copies values so gives the
pruned document.
-/

namespace TypedDocument

namespace Path

/-- The path of a chain of keys. -/
def ofKeys (chain : List String) : String := ".".intercalate chain

/-- Whether the path of a chain of keys is a listed one or extends a listed one by further keys. -/
def isListed (listed : List String) (chain : List String) : Bool :=
  listed.any fun path =>
    ofKeys chain == path || (path ++ ".").toList.isPrefixOf (ofKeys chain).toList

end Path

mutual

/-- A value at the end of a chain of keys, without what lies at the listed paths. -/
def Value.prune (listed : List String) (chain : List String) : Value → Value
  | .map es => .map (Mapping.prune listed chain es)
  | v => v
termination_by structural v => v

/-- A mapping at the end of a chain of keys, without what lies at the listed paths. -/
def Mapping.prune (listed : List String) (chain : List String) :
    List (String × Value) → List (String × Value)
  | [] => []
  | (key, v) :: rest =>
    if Path.isListed listed (chain ++ [key]) then Mapping.prune listed chain rest
    else (key, v.prune listed (chain ++ [key])) :: Mapping.prune listed chain rest
termination_by structural es => es

end

namespace Path

theorem intercalate_dot (first : List Char) (others : List (List Char)) :
    ['.'].intercalate (first :: others) = joinPieces first others := by
  induction others generalizing first with
  | nil => simp [joinPieces]
  | cons o os ih =>
    rw [List.intercalate_cons_cons, ih]
    simp [joinPieces]

/-- A path is the path of the keys it goes along. -/
@[simp] theorem ofKeys_keys (path : String) : ofKeys (keys path) = path := by
  apply String.toList_inj.mp
  have hpieces : (keys path).map String.toList =
      (splitDots path.toList).1 :: (splitDots path.toList).2 := by
    simp [keys_eq, Function.comp_def]
  rw [ofKeys, String.toList_intercalate, hpieces]
  exact (intercalate_dot _ _).trans (joinPieces_splitDots _)

/-- The test for texts is the test for chains of keys. -/
theorem any_isWithin_eq_isListed (listed : List String) (path : String) :
    listed.any (isWithin path) = isListed listed (keys path) := by
  rw [isListed, ofKeys_keys]
  refine congrArg (listed.any ·) (funext fun ancestor => ?_)
  rw [Bool.eq_iff_iff, isWithin_iff, Bool.or_eq_true, beq_iff_eq, List.isPrefixOf_iff_prefix,
    String.toList_inj]
  have hbegins : (∃ ds, path.toList = ancestor.toList ++ '.' :: ds) ↔
      (ancestor ++ ".").toList <+: path.toList := by
    simp [List.IsPrefix, eq_comm]
  rw [hbegins]

/-- Keys without dots come back from their path. -/
theorem keys_ofKeys {chain : List String} (hchain : chain ≠ [])
    (h : ∀ key ∈ chain, isDotted key = false) : keys (ofKeys chain) = chain := by
  induction chain with
  | nil => exact absurd rfl hchain
  | cons key rest ih =>
    have hkey := keys_of_undotted (h key List.mem_cons_self)
    cases rest with
    | nil => exact hkey
    | cons k ks =>
      have hrest := ih (List.cons_ne_nil _ _) fun k hk => h k (List.mem_cons_of_mem _ hk)
      rw [ofKeys, String.intercalate_cons_cons, ← ofKeys, keys_append_dot, hkey, hrest]
      rfl

/-- A chain of keys is listed exactly if it goes along the keys of a listed path first. -/
theorem isListed_iff_prefix {listed chain : List String} (hchain : chain ≠ [])
    (h : ∀ key ∈ chain, isDotted key = false) :
    isListed listed chain = true ↔ ∃ path ∈ listed, keys path <+: chain := by
  have hkeys := keys_ofKeys hchain h
  rw [← hkeys, ← any_isWithin_eq_isListed, List.any_eq_true, hkeys]
  simp only [hkeys, isWithin_iff_prefix]

/-- A path does not list what stands beside it, even if the one key starts with the other. -/
theorem isListed_beside {chain : List String} {a b : String} (hne : a ≠ b)
    (h : ∀ key ∈ chain ++ [a, b], isDotted key = false) :
    isListed [ofKeys (chain ++ [a])] (chain ++ [b]) = false := by
  have ha : ∀ key ∈ chain ++ [a], isDotted key = false := by
    intro key hkey
    refine h key ?_
    simp only [List.mem_append, List.mem_cons, List.not_mem_nil, or_false] at hkey ⊢
    exact hkey.imp_right .inl
  have hb : ∀ key ∈ chain ++ [b], isDotted key = false := by
    intro key hkey
    refine h key ?_
    simp only [List.mem_append, List.mem_cons, List.not_mem_nil, or_false] at hkey ⊢
    exact hkey.imp_right .inr
  rw [Bool.eq_false_iff, Ne, isListed_iff_prefix (by simp) hb]
  simp only [List.mem_singleton, exists_eq_left, keys_ofKeys (by simp) ha]
  exact (Converter.apart_of_ne hne chain).1

end Path

variable {listed chain : List String} {key : String} {v : Value} {es : Mapping}

/-! ## Pruned entries -/

@[simp] theorem Mapping.prune_of_isListed (h : Path.isListed listed (chain ++ [key]) = true) :
    Mapping.prune listed chain ((key, v) :: es) = Mapping.prune listed chain es := by
  rw [prune, if_pos h]

@[simp] theorem Mapping.prune_of_not_isListed (h : Path.isListed listed (chain ++ [key]) = false) :
    Mapping.prune listed chain ((key, v) :: es) =
      (key, v.prune listed (chain ++ [key])) :: Mapping.prune listed chain es := by
  rw [prune, if_neg (by simp [h])]

/-- With nothing listed, nothing is taken out. -/
@[simp] theorem Mapping.prune_nil (es : Mapping) : ∀ chain, Mapping.prune [] chain es = es := by
  induction es using Value.nestedInduction with
  | step es ih =>
    intro chain
    induction es with
    | nil => rfl
    | cons e rest ihrest =>
      obtain ⟨key, v⟩ := e
      have hv : v.prune [] (chain ++ [key]) = v := by
        cases v with
        | map sub => rw [Value.prune, ih key sub List.mem_cons_self]
        | _ => rfl
      rw [prune_of_not_isListed rfl, hv,
        ihrest fun k sub hsub => ih k sub (List.mem_cons_of_mem _ hsub)]

namespace Converter

/-! ## Passes that leave out listed entries -/

/-- What a pass leaves out is what pruning takes out. -/
theorem leavesOut_eq_isListed {p : Pass} (h : p.rule.excludes = ConversionRule.excludesListed)
    (path : String) : p.leavesOut path = Path.isListed p.excluded (Path.keys path) := by
  rw [Pass.leavesOut, h, ConversionRule.excludesListed, Path.any_isWithin_eq_isListed]

/-- The pass of the converter that copies values. -/
def identityPass (doc : Value) (excluded : List String) : Pass where
  rule := .identity
  convert _ v := .ok v
  doc := doc
  excluded := excluded

theorem convertEntries_identityPass (doc : Value) (excluded : List String) (es : Mapping) :
    ∀ parent, Mapping.Walkable es → WalkFrame.Named parent es →
      (identityPass doc excluded).convertEntries parent es =
        .ok (Mapping.prune excluded (WalkFrame.chain parent) es) := by
  induction es using Value.nestedInduction with
  | step es ih =>
    intro parent hes hparent
    induction es with
    | nil => rfl
    | cons e rest ihrest =>
      obtain ⟨key, v⟩ := e
      obtain ⟨hundotted, -, hv, hrest⟩ := Mapping.walkable_cons_iff.mp hes
      have hkeys := WalkFrame.keys_path hparent hundotted
      have hpath := WalkFrame.path_ne_empty hparent
      have hrests := ihrest (fun k sub hsub => ih k sub (List.mem_cons_of_mem _ hsub)) hrest
        hparent.tail
      have hleaves : (identityPass doc excluded).leavesOut (WalkFrame.path parent key) =
          Path.isListed excluded (WalkFrame.chain parent ++ [key]) :=
        hkeys ▸ leavesOut_eq_isListed rfl _
      cases hout : (identityPass doc excluded).leavesOut (WalkFrame.path parent key) with
      | true =>
        rw [Pass.convertEntries_of_leavesOut hout, hrests,
          Mapping.prune_of_isListed (hleaves.symm.trans hout)]
      | false =>
        rw [Mapping.prune_of_not_isListed (hleaves.symm.trans hout)]
        refine (Pass.convertEntries_cons_eq_ok_iff hout).mpr ⟨_, ?_, _, hrests, rfl⟩
        cases v with
        | map sub =>
          have hsub := ih key sub List.mem_cons_self (some (WalkFrame.path parent key))
            (Value.walkable_map_iff.mp hv) (WalkFrame.named_some hpath sub)
          rw [WalkFrame.chain, hkeys] at hsub
          rw [Pass.convertEntry_of_descends rfl, Pass.convertBelow, hsub]
          rfl
        | _ =>
          rw [Pass.convertEntry_of_convert rfl]
          rfl

/-- Copying a document entry by entry, save for the entries at the listed paths, prunes it. -/
theorem convertDocument_identity_excluding {es : Mapping} (hes : (Value.map es).Walkable)
    (htop : "" ∉ Entries.keys es) (excluded : List String) :
    convertDocument .identity (fun _ v => .ok v) excluded (.map es) =
      .ok (.map (Mapping.prune excluded [] es)) := by
  have hnamed : WalkFrame.Named none es := ⟨by simp, fun _ key hkey h => htop (h ▸ hkey)⟩
  have hentries := convertEntries_identityPass (.map es) excluded es none
    (Value.walkable_map_iff.mp hes) hnamed
  rw [convertDocument_map hes htop]
  exact congrArg (Except.map Value.map) hentries

/-- Copying a document entry by entry gives the document. -/
theorem convertDocument_identity {es : Mapping} (hes : (Value.map es).Walkable)
    (htop : "" ∉ Entries.keys es) :
    convertDocument .identity (fun _ v => .ok v) [] (.map es) = .ok (.map es) := by
  rw [convertDocument_identity_excluding hes htop, Mapping.prune_nil]

end Converter

end TypedDocument
