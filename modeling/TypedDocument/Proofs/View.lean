import TypedDocument.Proofs.Converter.Pruning
import TypedDocument.Proofs.Outcome
import TypedDocument.Proofs.Path.Writing
import TypedDocument.Proofs.Session
import TypedDocument.View

/-!
# Views and the functions on paths

Views put around each other hand every request on to the innermost one, so a session with any
number of attribute views around a dotted view is a session with the functions on paths. For plain
names, those that a path can use as they are, literal keys and paths are the same on a mapping, and
a session keeps the mapping. Following attributes of attributes is reading at the path of the
names.
-/

namespace TypedDocument

namespace Path

/-- A name that a path can use as it is: it has no dots and is not a number. -/
def IsPlain (name : String) : Prop :=
  isDotted name = false ∧ (name = "" ∨ name.toList.all Char.isDigit = false)

instance {name : String} : Decidable (IsPlain name) :=
  inferInstanceAs (Decidable (_ ∧ (_ ∨ _)))

variable {name : String} {names : List String} {doc : Value} {path : String}

theorem IsPlain.segment_eq (h : IsPlain name) : Segment.ofChars name.toList = .key name := by
  have hdigits : (!name.toList.isEmpty && name.toList.all Char.isDigit) = false := by
    rcases h.2 with rfl | h
    · rfl
    · rw [h, Bool.and_false]
  rw [Segment.ofChars, hdigits, if_neg Bool.false_ne_true, String.ofList_toList]

theorem segments_eq_map_keys (path : String) :
    segments path = (keys path).map fun key => Segment.ofChars key.toList := by
  simp [segments, keys, Function.comp_def]

/-- The path of plain names leads from key to key. -/
theorem segments_ofKeys (hnames : names ≠ []) (h : ∀ name ∈ names, IsPlain name) :
    segments (ofKeys names) = names.map .key := by
  rw [segments_eq_map_keys, keys_ofKeys hnames fun name hname => (h name hname).1]
  exact List.map_congr_left fun name hname => (h name hname).segment_eq

theorem IsPlain.segments_eq (h : IsPlain name) : segments name = [.key name] := by
  rw [segments_eq_map_keys, keys_of_undotted h.1, List.map_singleton, h.segment_eq]

@[simp] theorem toBool_get (doc : Value) (path : String) :
    (get doc path).toBool = contains doc path := by
  rw [get, contains]
  cases doc.at? (segments path) <;> rfl

end Path

/-! ## Requests -/

namespace View

/-- What can be asked of a view of a document. -/
inductive Request where
  | read (name : String)
  | has (name : String)
  | set (name : String) (new : Value)
  | delete (name : String)
  | names

/-- The name a request is about. -/
def Request.name? : Request → Option String
  | read name => some name
  | has name => some name
  | set name _ => some name
  | delete name => some name
  | names => none

/-- What a request is answered with. -/
inductive Answer where
  | read (found : Except PathError Attribute)
  | has (found : Bool)
  | set (error : Option PathError)
  | delete (removed : Except PathError Value)
  | names (list : List String)

/-- The answer to a removal, and the document after it. -/
def Answer.ofRemoval (doc : Value) : Except PathError (Value × Value) → Answer × Value
  | .ok (removed, rest) => (delete (.ok removed), rest)
  | .error e => (delete (.error e), doc)

/-- What a view answers to a request, and the document after it. -/
def answer (view : View) (doc : Value) : Request → Answer × Value
  | .read name => (.read (view.attributeAt name doc), doc)
  | .has name => (.has (view.contains name doc), doc)
  | .set name new => (.set (view.assign name new doc).2, (view.assign name new doc).1)
  | .delete name => Answer.ofRemoval doc (view.remove name doc)
  | .names => (.names (names doc), doc)

/-- What the functions on paths answer to a request, and the document after it. -/
def pathAnswer (doc : Value) : Request → Answer × Value
  | .read name => (.read ((Path.get doc name).map .ofValue), doc)
  | .has name => (.has (Path.contains doc name), doc)
  | .set name new => (.set (Path.set doc name new).2, (Path.set doc name new).1)
  | .delete name => Answer.ofRemoval doc (Path.delete doc name)
  | .names => (.names (Entries.keys (doc.map?.getD [])), doc)

variable {name : String} {new doc v : Value}

/-! ## Views around views -/

/-- The view that all others are put around. -/
def core : View → View
  | attributes inner => inner.core
  | borrowed inner => inner.core
  | literal => literal
  | dotted => dotted

@[simp] theorem lookup_core (view : View) : view.core.lookup name doc = view.lookup name doc := by
  induction view with
  | literal => rfl
  | dotted => rfl
  | attributes inner ih => exact ih
  | borrowed inner ih => exact ih

@[simp] theorem assign_core (view : View) :
    view.core.assign name new doc = view.assign name new doc := by
  induction view with
  | literal => rfl
  | dotted => rfl
  | attributes inner ih => exact ih
  | borrowed inner ih => exact ih

@[simp] theorem remove_core (view : View) : view.core.remove name doc = view.remove name doc := by
  induction view with
  | literal => rfl
  | dotted => rfl
  | attributes inner ih => exact ih
  | borrowed inner ih => exact ih

@[simp] theorem answer_core (view : View) (doc : Value) (request : Request) :
    view.core.answer doc request = view.answer doc request := by
  cases request with
  | read name => rw [answer, answer, attributeAt, attributeAt, lookup_core]
  | has name => rw [answer, answer, contains, contains, lookup_core]
  | set name new => rw [answer, answer, assign_core]
  | delete name => rw [answer, answer, remove_core]
  | names => rfl

/-- A dotted view answers as the functions on paths do. -/
@[simp] theorem answer_dotted (doc : Value) (request : Request) :
    dotted.answer doc request = pathAnswer doc request := by
  cases request with
  | read name => rfl
  | has name => exact congrArg (fun b => (Answer.has b, doc)) (Path.toBool_get doc name)
  | set name new => rfl
  | delete name => rfl
  | names => cases doc <;> rfl

/-! ## Plain names -/

theorem lookup_literal (h : Path.IsPlain name) (es : Mapping) :
    literal.lookup name (.map es) = dotted.lookup name (.map es) := by
  rw [lookup, lookup, Path.get, h.segments_eq, Value.at?, Value.child?]
  cases Entries.get? name es <;> rfl

theorem assign_dotted (h : Path.IsPlain name) (es : Mapping) :
    dotted.assign name new (.map es) = (.map (Entries.put name new es), none) := by
  rw [assign, Path.set, Path.setWithin, h.segments_eq]
  rfl

theorem remove_literal (h : Path.IsPlain name) (es : Mapping) :
    literal.remove name (.map es) = dotted.remove name (.map es) := by
  rw [remove, remove, Path.delete, h.segments_eq, Value.remove?, Value.child?]
  cases Entries.get? name es <;> rfl

/-- For plain names, a literal view of a mapping answers as a dotted one. -/
theorem answer_literal {request : Request} (es : Mapping)
    (h : ∀ name, request.name? = some name → Path.IsPlain name) :
    literal.answer (.map es) request = dotted.answer (.map es) request := by
  cases request with
  | read name => rw [answer, answer, attributeAt, attributeAt, lookup_literal (h name rfl)]
  | has name => rw [answer, answer, contains, contains, lookup_literal (h name rfl)]
  | set name new => rw [answer, answer, assign_dotted (h name rfl), assign]
  | delete name => rw [answer, answer, remove_literal (h name rfl)]
  | names => rfl

/-- A literal view keeps a mapping a mapping. -/
theorem exists_map_of_answer (es : Mapping) (request : Request) :
    ∃ es', (literal.answer (.map es) request).2 = .map es' := by
  cases request with
  | read name => exact ⟨es, rfl⟩
  | has name => exact ⟨es, rfl⟩
  | set name new => exact ⟨_, rfl⟩
  | delete name =>
    rw [answer, remove]
    cases Entries.get? name es with
    | none => exact ⟨es, rfl⟩
    | some v => exact ⟨_, rfl⟩
  | names => exact ⟨es, rfl⟩

/-! ## Attributes of attributes -/

@[simp] theorem toValue_ofValue (v : Value) : (Attribute.ofValue v).toValue = v := by
  cases v <;> rfl

/-- Whatever the view, a plain name leads to the value at the key. -/
theorem lookup_eq_ok_iff (h : Path.IsPlain name) (view : View) :
    view.lookup name doc = .ok v ↔ doc.child? (.key name) = some v := by
  induction view with
  | literal =>
    cases doc with
    | map es =>
      rw [lookup, Value.child?]
      cases Entries.get? name es <;> simp
    | _ => simp [lookup, Value.child?]
  | dotted =>
    rw [lookup, Path.get_eq_ok_iff, h.segments_eq, Value.at?]
    cases doc.child? (.key name) <;> simp [Value.at?]
  | attributes inner ih => exact ih
  | borrowed inner ih => exact ih

theorem attributeAt_of_child? (hname : Path.IsPlain name) (view : View)
    (h : doc.child? (.key name) = some v) : view.attributeAt name doc = .ok (.ofValue v) := by
  rw [attributeAt, (lookup_eq_ok_iff hname view).mpr h]
  rfl

theorem exists_attributeAt_eq_error (hname : Path.IsPlain name) (view : View)
    (h : doc.child? (.key name) = none) : ∃ e, view.attributeAt name doc = .error e := by
  rw [attributeAt]
  cases hlookup : view.lookup name doc with
  | error e => exact ⟨e, rfl⟩
  | ok v => cases h.symm.trans ((lookup_eq_ok_iff hname view).mp hlookup)

/-- Following plain names leads from key to key. -/
theorem follow_eq_reached_iff {rest : List String} (view : View)
    (hname : Path.IsPlain name) (hrest : ∀ next ∈ rest, Path.IsPlain next) :
    (∃ a, view.follow doc name rest = .ok (.reached a) ∧ a.toValue = v) ↔
      doc.at? (.key name :: rest.map .key) = some v := by
  rw [Value.at?]
  induction rest generalizing view doc name with
  | nil =>
    rw [follow]
    cases hchild : doc.child? (.key name) with
    | none =>
      obtain ⟨e, herror⟩ := exists_attributeAt_eq_error hname view hchild
      simp [herror, Except.map]
    | some c =>
      rw [attributeAt_of_child? hname view hchild]
      simp [Except.map, Value.at?]
  | cons next rest ih =>
    obtain ⟨hnext, hrest⟩ := List.forall_mem_cons.mp hrest
    rw [follow, List.map_cons]
    cases hchild : doc.child? (.key name) with
    | none =>
      obtain ⟨e, herror⟩ := exists_attributeAt_eq_error hname view hchild
      simp [herror]
    | some c =>
      rw [attributeAt_of_child? hname view hchild, Option.bind_some, Value.at?]
      cases c with
      | map es => exact ih (attributes (borrowed literal)) hnext hrest
      | _ => simp [Attribute.ofValue, Value.child?]

/-! ## Faithfulness -/

/-- Attribute views are faithful to the functions on paths. Around a dotted view, any number of them
answer every sequence of requests as these functions do. Around a literal view they do the same for
a mapping and plain names. And following plain names through attributes of attributes reads at the
path of the names, from whatever view. -/
theorem faithful_to_paths (view plain : View) (hview : view.core = dotted)
    (hplain : plain.core = literal) :
    (∀ requests doc,
      session view.answer requests doc = session pathAnswer requests doc) ∧
    (∀ requests es, (∀ name ∈ requests.filterMap Request.name?, Path.IsPlain name) →
      session plain.answer requests (.map es) = session view.answer requests (.map es)) ∧
    ∀ (start : View) (doc : Value) (name : String) (rest : List String) (v : Value),
      (∀ next ∈ name :: rest, Path.IsPlain next) →
      ((∃ a, start.follow doc name rest = .ok (.reached a) ∧ a.toValue = v) ↔
        Path.get doc (Path.ofKeys (name :: rest)) = .ok v) := by
  have hanswer : ∀ doc request, view.answer doc request = dotted.answer doc request := by
    intro doc request
    rw [← hview, answer_core]
  have hliteral : ∀ doc request, plain.answer doc request = literal.answer doc request := by
    intro doc request
    rw [← hplain, answer_core]
  refine ⟨fun requests doc => ?_, fun requests es hnames => ?_,
    fun start doc name rest v hnames => ?_⟩
  · refine session_eq (fun _ => True) (fun request _ doc _ => ?_) (fun _ _ _ _ => trivial) trivial
    rw [hanswer, answer_dotted]
  · refine (session_eq (fun doc => ∃ es, doc = .map es) ?_ ?_ ⟨es, rfl⟩).symm
    · rintro request hrequest _ ⟨es, rfl⟩
      rw [hanswer, hliteral, answer_literal]
      exact fun name hname => hnames name (List.mem_filterMap.mpr ⟨request, hrequest, hname⟩)
    · rintro request - _ ⟨es, rfl⟩
      rw [hliteral]
      exact exists_map_of_answer es request
  · obtain ⟨hname, hrest⟩ := List.forall_mem_cons.mp hnames
    rw [follow_eq_reached_iff start hname hrest, Path.get_eq_ok_iff,
      Path.segments_ofKeys (List.cons_ne_nil _ _) hnames, List.map_cons]

/-- An earlier write shapes a later read in the same way through both kinds of views. -/
theorem faithful_to_paths_later_read :
    session (attributes literal).answer
        [.delete "b", .set "a" (.map [("b", .int 1)]), .read "a", .names]
        (.map [("b", .int 2), ("", .null)]) =
      ([.delete (.ok (.int 2)), .set none, .read (.ok (.object [("b", .int 1)])), .names ["", "a"]],
        .map [("", .null), ("a", .map [("b", .int 1)])]) ∧
    ∃ a, (attributes literal).follow (.map [("a", .map [("b", .int 1)])]) "a" ["b"] =
      .ok (.reached a) ∧ a.toValue = .int 1 := by
  obtain ⟨hpath, hplain, hfollow⟩ :=
    faithful_to_paths (attributes (borrowed (attributes dotted))) (attributes literal) rfl rfl
  have hrun : session pathAnswer
      [.delete "b", .set "a" (.map [("b", .int 1)]), .read "a", .names]
      (.map [("b", .int 2), ("", .null)]) =
    ([.delete (.ok (.int 2)), .set none, .read (.ok (.object [("b", .int 1)])), .names ["", "a"]],
      .map [("", .null), ("a", .map [("b", .int 1)])]) := rfl
  exact ⟨(hplain _ _ (by decide)).trans ((hpath _ _).trans hrun),
    (hfollow _ _ _ _ _ (by decide)).mpr rfl⟩

end View

end TypedDocument
