import TypedDocument.Json.Pointer

/-!
# Reading JSON pointers

RFC 6901 puts a slash before every token and escapes two characters within tokens. A written pointer
is read back as the tokens that it was written for, whatever characters they contain, so the text of
a pointer leads wherever its tokens do.
-/

namespace TypedDocument

namespace Pointer

/-! ## Written pointers -/

/-- Reads a pointer from anywhere within a token: the rest of this token, and the tokens after it.
A tilde that escapes nothing is refused. -/
def readTokens? : List Char → Option (List Char × Pointer)
  | [] => some ([], [])
  | '/' :: cs => (readTokens? cs).map fun t => ([], String.ofList t.1 :: t.2)
  | '~' :: '0' :: cs => (readTokens? cs).map fun t => ('~' :: t.1, t.2)
  | '~' :: '1' :: cs => (readTokens? cs).map fun t => ('/' :: t.1, t.2)
  | '~' :: _ => none
  | c :: cs => (readTokens? cs).map fun t => (c :: t.1, t.2)

/-- Reads a pointer. Nothing stands before its first slash. -/
def read? (s : String) : Option Pointer :=
  (readTokens? s.toList).bind fun t => if t.1 = [] then some t.2 else none

@[simp] theorem readTokens?_escapeChar (c : Char) (cs : List Char) :
    readTokens? (escapeChar c ++ cs) = (readTokens? cs).map fun t => (c :: t.1, t.2) := by
  by_cases htilde : c = '~'
  · subst htilde
    rfl
  · by_cases hslash : c = '/'
    · subst hslash
      rfl
    · have hplain : escapeChar c = [c] := by simp [escapeChar]
      rw [hplain, List.singleton_append, readTokens?]
      all_goals simp [htilde, hslash]

/-- A token is read back in front of whatever follows it. -/
@[simp] theorem readTokens?_escape (token cs : List Char) :
    readTokens? (token.flatMap escapeChar ++ cs) =
      (readTokens? cs).map fun t => (token ++ t.1, t.2) := by
  induction token with
  | nil => simp
  | cons c token ih =>
    rw [List.flatMap_cons, List.append_assoc, readTokens?_escapeChar, ih, Option.map_map]
    rfl

theorem toList_text (p : Pointer) :
    p.text.toList = p.flatMap fun token => '/' :: token.toList.flatMap escapeChar := by
  have hfold : ∀ s : String, (p.foldl (fun s token => s ++ "/" ++ escape token) s).toList =
      s.toList ++ p.flatMap fun token => '/' :: token.toList.flatMap escapeChar := by
    induction p with
    | nil => simp
    | cons token p ih =>
      intro s
      rw [List.foldl_cons, ih]
      simp [escape]
  exact hfold ""

/-- The text of a pointer is read back as the pointer. -/
@[simp] theorem read?_text (p : Pointer) : read? p.text = some p := by
  have htokens : readTokens? p.text.toList = some ([], p) := by
    rw [toList_text]
    induction p with
    | nil => rfl
    | cons token p ih =>
      rw [List.flatMap_cons, List.cons_append, readTokens?, readTokens?_escape, ih]
      simp
  rw [read?, htokens]
  rfl

/-! ## The nodes that pointers lead to -/

variable {p q : Pointer} {token : String} {j : Json} {items : List Json}
  {members : List (String × Json)}

/-- The digits of a number tell it from any other. -/
theorem toString_inj {m n : Nat} : toString m = toString n ↔ m = n := by
  have hvalue : ∀ k : Nat, Nat.ofDigitChars 10 (toString k).toList 0 = k := by
    intro k
    rw [Nat.toString_eq_repr, Nat.repr_eq_ofList_toDigits, String.toList_ofList,
      Nat.ofDigitChars_toDigits (by decide) (by decide)]
  constructor
  · intro h
    rw [← hvalue m, h, hvalue n]
  · exact congrArg _

theorem findSome?_zipIdx (k start : Nat) :
    ((items.zipIdx start).findSome? fun m =>
      if toString m.2 = toString (start + k) then some m.1 else none) = items[k]? := by
  induction items generalizing k start with
  | nil => simp
  | cons i rest ih =>
    rw [List.zipIdx_cons, List.findSome?_cons]
    cases k with
    | zero => simp
    | succ k =>
      have hne : toString start ≠ toString (start + (k + 1)) := by
        rw [Ne, toString_inj]
        omega
      rw [if_neg hne, List.getElem?_cons_succ, ← ih k (start + 1), Nat.add_right_comm]
      rfl

@[simp] theorem resolve?_root : resolve? [] = some := by
  funext j
  rw [resolve?]

@[simp] theorem resolve?_object :
    resolve? [token] (.object members) = Entries.get? token members := by
  rw [resolve?, resolve?_root, Option.bind_fun_some]

/-- Elements of arrays are found under their indices in decimal. -/
theorem resolve?_array (k : Nat) : resolve? [toString k] (.array items) = items[k]? := by
  have hitem : _ = items[k]? := findSome?_zipIdx k 0
  rw [Nat.zero_add] at hitem
  show ((items.zipIdx.findSome? _).bind _) = _
  rw [hitem, resolve?_root, Option.bind_fun_some]

/-- A pointer leads on from where its first part leads. -/
theorem resolve?_append : resolve? (p ++ q) j = (resolve? p j).bind (resolve? q) := by
  induction p generalizing j with
  | nil => rfl
  | cons token p ih =>
    have hrest : resolve? (p ++ q) = fun i => (resolve? p i).bind (resolve? q) := funext fun _ => ih
    cases j with
    | object members => rw [List.cons_append, resolve?, resolve?, hrest, Option.bind_assoc]
    | array items => rw [List.cons_append, resolve?, resolve?, hrest, Option.bind_assoc]
    | _ => rfl

end Pointer

end TypedDocument
