/-!
# Sessions

A session answers requests one after the other and carries a state from each request to the next.
-/

namespace TypedDocument

variable {σ ρ α : Type}

/-- The answers to requests that are made one after the other, and the state in the end. -/
def session (answer : σ → ρ → α × σ) : List ρ → σ → List α × σ
  | [], s => ([], s)
  | request :: rest, s =>
    let (answers, final) := session answer rest (answer s request).2
    ((answer s request).1 :: answers, final)

variable {answer answer' : σ → ρ → α × σ} {requests : List ρ} {s : σ}

/-- Two ways to answer that agree on all states of a kind make the same sessions, if the answers
keep the kind. -/
theorem session_eq (kind : σ → Prop)
    (hagree : ∀ request ∈ requests, ∀ s, kind s → answer s request = answer' s request)
    (hkeep : ∀ request ∈ requests, ∀ s, kind s → kind (answer' s request).2) (hs : kind s) :
    session answer requests s = session answer' requests s := by
  induction requests generalizing s with
  | nil => rfl
  | cons request rest ih =>
    have hrest := ih (fun r hr => hagree r (List.mem_cons_of_mem _ hr))
      (fun r hr => hkeep r (List.mem_cons_of_mem _ hr))
      (hkeep request List.mem_cons_self s hs)
    rw [session, session, hagree request List.mem_cons_self s hs, hrest]

@[simp] theorem fst_session_cons (request : ρ) (rest : List ρ) (s : σ) :
    (session answer (request :: rest) s).1 =
      (answer s request).1 :: (session answer rest (answer s request).2).1 := rfl

theorem session_append (first second : List ρ) (s : σ) :
    session answer (first ++ second) s =
      ((session answer first s).1 ++ (session answer second (session answer first s).2).1,
        (session answer second (session answer first s).2).2) := by
  induction first generalizing s with
  | nil => rfl
  | cons request rest ih => rw [List.cons_append, session, ih, session, List.cons_append]

@[simp] theorem length_session (requests : List ρ) (s : σ) :
    (session answer requests s).1.length = requests.length := by
  induction requests generalizing s with
  | nil => rfl
  | cons request rest ih => rw [session, List.length_cons, ih, List.length_cons]

/-- A request is answered in the state that those before it led to. -/
theorem getElem?_session (before : List ρ) (request : ρ) (after : List ρ) (s : σ) :
    (session answer (before ++ request :: after) s).1[before.length]? =
      some (answer (session answer before s).2 request).1 := by
  have hlength : (session answer before s).1.length = before.length := length_session before s
  rw [session_append, session, List.getElem?_append_right (Nat.le_of_eq hlength), hlength,
    Nat.sub_self]
  rfl

end TypedDocument
