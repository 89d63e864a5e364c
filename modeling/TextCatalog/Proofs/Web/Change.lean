import TextCatalog.Proofs.Json.Length
import TextCatalog.Proofs.Store.Faithful
import TextCatalog.Proofs.Text.Utf8
import TextCatalog.Web.Service

/-!
# TextCatalog.Proofs.Web.Change

What one request can change in a store.

* `Request.subject?` — the text that a request would have added or removed.
* `Posting.value_cases` — what is posted is a text that may be catalogued, or is refused.
* `Posting.value_length`, `Posting.fitsTable` — what is posted fits into the body that it is read
  from, and so into a table.
* `Change` — nothing, one record more, or one record less, each with the status that tells so.
* `respond_change` — every request, on every route and with every method, is one of the three.
* `serve_related` — so a run keeps a store to the memory that it stands for.
-/

namespace TextCatalog

open Text

/-- The text that a request would have added or removed. -/
def Request.subject? (r : Request) : Option String :=
  match r.method, Route.ofPath? r.path with
  | .post, some .collection => (Posting.value r).toOption
  | .delete, some (.entry segment) => Service.valueOfSegment? segment
  | _, _ => none

namespace Posting

/-- A body is refused for its form or for its content. -/
def IsRefusal (e : ApiError) : Prop := e.status = 400 ∨ e.status = 422

theorem valueOf_cases (j : Option Json) :
    (∃ v, valueOf j = .ok v ∧ isCatalogable v = true) ∨
      ∃ e, valueOf j = .error e ∧ IsRefusal e := by
  unfold valueOf
  split
  · exact .inr ⟨_, rfl, .inl rfl⟩
  · exact .inr ⟨_, rfl, .inl rfl⟩
  · split
    · exact .inr ⟨_, rfl, .inl rfl⟩
    · split
      · rename_i catalogable
        exact .inl ⟨_, rfl, catalogable⟩
      · exact .inr ⟨_, rfl, .inr rfl⟩
  · exact .inr ⟨_, rfl, .inr rfl⟩

theorem notDocument_refusal (body : List Char) (f : Json.Fault) :
    IsRefusal (notDocument body f) := by
  unfold notDocument
  split <;> exact .inl rfl

/-- What is posted is a text that may be catalogued, or the request is refused. -/
theorem value_cases (r : Request) :
    (∃ v, value r = .ok v ∧ isCatalogable v = true) ∨ ∃ e, value r = .error e ∧ IsRefusal e := by
  unfold value ofBody
  split
  · split
    · exact .inr ⟨_, rfl, .inl rfl⟩
    · split
      · exact .inr ⟨_, rfl, notDocument_refusal _ _⟩
      · exact valueOf_cases _
  · exact .inr ⟨_, rfl, .inl rfl⟩

theorem valueOf_eq_ok {j : Option Json} {v : String} (h : valueOf j = .ok v) :
    j = some (.str v) := by
  unfold valueOf at h
  split at h
  · cases h
  · cases h
  · split at h
    · cases h
    · split at h
      · cases h
        rfl
      · cases h
  · cases h

theorem field_short {j i : Json} {n : Nat} (short : j.IsShort n) (h : field j = some i) :
    i.IsShort n := by
  cases short with
  | obj each =>
    obtain ⟨m, found, rfl⟩ := Option.map_eq_some_iff.mp h
    exact each m (List.mem_reverse.mp (List.mem_of_find?_eq_some found))
  | _ => cases h

/-- A text is no longer than the body that it is posted in. -/
theorem value_length {r : Request} {v : String} (h : value r = .ok v) :
    v.toList.length ≤ maxBody := by
  unfold value ofBody at h
  split at h
  · split at h
    · cases h
    · rename_i within
      split at h
      · cases h
      · rename_i j read
        have short := field_short (Json.leading_short read) (valueOf_eq_ok h)
        cases short with
        | str short =>
          have bytes := Utf8.length_le_utf8ByteSize r.body
          omega
  · cases h

theorem fitsTable {r : Request} {v : String} {now : Instant} (h : value r = .ok v)
    (plain : now.HasPlainYear) : (Record.ofText v now).FitsTable :=
  ⟨v, now, rfl, plain, Nat.lt_of_le_of_lt (value_length h) (by decide)⟩

end Posting

namespace Service

variable {σ : Type} {R : Memory → σ → Prop} {m : Memory} {s : σ} {now : Instant} {r : Request}

/-! ## Changes -/

/-- Neither an addition nor a removal nor a failure. -/
def IsQuiet (status : Nat) : Prop := status ≠ 201 ∧ status ≠ 204 ∧ status ≠ 500

instance (status : Nat) : Decidable (IsQuiet status) :=
  inferInstanceAs (Decidable (status ≠ 201 ∧ status ≠ 204 ∧ status ≠ 500))

/-- An answer that leaves the store as it is. -/
def LeavesAlone (s : σ) (x : Response × σ) : Prop := x.2 = s ∧ IsQuiet x.1.status

/-- What one request does to a store and to the memory that it stands for. -/
inductive Change (R : Memory → σ → Prop) (m : Memory) (s : σ) (now : Instant) (r : Request) :
    Response → Memory → σ → Prop where
  | nothing {a : Response} (quiet : IsQuiet a.status) : Change R m s now r a m s
  | added {a : Response} {s' : σ} (v : String) (status : a.status = 201)
    (subject : r.subject? = some v) (catalogable : isCatalogable v = true)
    (free : m.has (Record.idOf v) = false)
    (related : R ⟨Record.ofText v now :: m.records, Memory.cons_distinct free⟩ s') :
    Change R m s now r a ⟨Record.ofText v now :: m.records, Memory.cons_distinct free⟩ s'
  | removed {a : Response} {s' : σ} (v : String) (status : a.status = 204)
    (subject : r.subject? = some v) (taken : m.has (Record.idOf v) = true)
    (related : R (m.erase (Record.idOf v)) s') :
    Change R m s now r a (m.erase (Record.idOf v)) s'

theorem change_of_leavesAlone {x : Response × σ} (h : LeavesAlone s x) :
    ∃ m', Change R m s now r x.1 m' x.2 := by
  obtain ⟨same, quiet⟩ := h
  rw [same]
  exact ⟨m, .nothing quiet⟩

theorem Change.related {a : Response} {m' : Memory} {s' : σ} (h : R m s)
    (change : Change R m s now r a m' s') : R m' s' := by
  cases change with
  | nothing => exact h
  | added _ _ _ _ _ related => exact related
  | removed _ _ _ _ related => exact related

theorem leavesAlone_error {e : ApiError} (h : IsQuiet e.status) :
    LeavesAlone s (settle s (.error e)) :=
  ⟨rfl, h⟩

theorem query_status (e : QueryError) : IsQuiet (ApiError.query e).status := by
  simp only [ApiError.status]
  cases e.kind <;> decide

/-! ## Requests that leave a store alone -/

variable [Store σ]

theorem list_leavesAlone (faithful : Store.Faithful R) (h : R m s) (ps : Params) :
    LeavesAlone s (settle s (list s ps)) := by
  unfold list
  cases Filter.ofParams ps with
  | error e => exact leavesAlone_error (by show IsQuiet 400; decide)
  | ok f =>
    simp only [Except.mapError, bind, Except.bind, stored, faithful.query h]
    exact ⟨rfl, by show IsQuiet 200; decide⟩

theorem interpret_leavesAlone (faithful : Store.Faithful R) (h : R m s) (ps : Params) :
    LeavesAlone s (settle s (interpret s ps)) := by
  unfold interpret
  cases ps.get? "query" with
  | none => exact leavesAlone_error (by show IsQuiet 400; decide)
  | some text =>
    cases read : Query.parse text with
    | error e =>
      simp only [read, Except.mapError, bind, Except.bind]
      exact leavesAlone_error (query_status e)
    | ok q =>
      simp only [read, Except.mapError, bind, Except.bind, stored, faithful.query h]
      exact ⟨rfl, by show IsQuiet 200; decide⟩

theorem fetch_leavesAlone (faithful : Store.Faithful R) (h : R m s) (value : String) :
    LeavesAlone s (settle s (fetch s value)) := by
  simp only [fetch, faithful.get h, stored, Except.mapError, bind, Except.bind]
  cases m.find? (Record.idOf value) with
  | none => exact leavesAlone_error (by show IsQuiet 404; decide)
  | some record => exact ⟨rfl, by show IsQuiet 200; decide⟩

theorem read_leavesAlone (faithful : Store.Faithful R) (h : R m s) (r : Request) (route : Route) :
    LeavesAlone s (read s r route) := by
  cases route with
  | collection => exact list_leavesAlone faithful h _
  | phrase => exact interpret_leavesAlone faithful h _
  | entry segment =>
    simp only [read, onEntry]
    cases valueOfSegment? segment with
    | none => exact ⟨rfl, by show IsQuiet 400; decide⟩
    | some value => exact fetch_leavesAlone faithful h value

/-! ## Requests for a change -/

theorem create_change (faithful : Store.Faithful R) (h : R m s) (plain : now.HasPlainYear)
    (subject : r.subject? = (Posting.value r).toOption) :
    ∃ m', Change R m s now r (settle s (create s now r)).1 m' (settle s (create s now r)).2 := by
  rcases Posting.value_cases r with ⟨v, posted, catalogable⟩ | ⟨e, refused, kind⟩
  · rw [posted] at subject
    have fits := Posting.fitsTable posted plain
    cases taken : m.has (Record.idOf v) with
    | true =>
      have refused := faithful.put_taken h fits taken
      simp only [create, posted, bind, Except.bind, stored, refused, Except.mapError]
      exact change_of_leavesAlone (leavesAlone_error (by show IsQuiet 409; decide))
    | false =>
      obtain ⟨s', done, related⟩ := faithful.put_free h fits taken
      simp only [create, posted, bind, Except.bind, stored, done, Except.mapError]
      exact ⟨_, .added v rfl subject catalogable taken related⟩
  · have quiet : IsQuiet e.status := by
      rcases kind with status | status <;> rw [status] <;> decide
    simp only [create, refused, bind, Except.bind]
    exact change_of_leavesAlone (leavesAlone_error quiet)

theorem remove_change (faithful : Store.Faithful R) (h : R m s) {v : String}
    (subject : r.subject? = some v) :
    ∃ m', Change R m s now r (settle s (remove s v)).1 m' (settle s (remove s v)).2 := by
  obtain ⟨s', done, related⟩ := faithful.delete h (Record.idOf v)
  simp only [remove, stored, done, Except.mapError, bind, Except.bind]
  cases taken : m.has (Record.idOf v) with
  | true => exact ⟨_, .removed v rfl subject taken related⟩
  | false => exact change_of_leavesAlone (leavesAlone_error (by show IsQuiet 404; decide))

theorem dispatch_change (faithful : Store.Faithful R) (h : R m s) (plain : now.HasPlainYear)
    {route : Route} (path : Route.ofPath? r.path = some route) :
    ∃ m', Change R m s now r (dispatch s now r route).1 m' (dispatch s now r route).2 := by
  have refused : LeavesAlone s (notAllowed, s) := ⟨rfl, by show IsQuiet 405; decide⟩
  unfold dispatch
  split
  · exact change_of_leavesAlone (read_leavesAlone faithful h r _)
  · obtain ⟨same, quiet⟩ := read_leavesAlone faithful h r _
    exact change_of_leavesAlone ⟨same, quiet⟩
  · rename_i method
    have subject : r.subject? = (Posting.value r).toOption := by
      rw [Request.subject?, method, path]
    exact create_change faithful h plain subject
  · rename_i segment method
    have subject : r.subject? = valueOfSegment? segment := by
      rw [Request.subject?, method, path]
    cases decoded : valueOfSegment? segment with
    | none =>
      have unreadable : LeavesAlone s (badSegment, s) := ⟨rfl, by show IsQuiet 400; decide⟩
      simp only [onEntry, decoded]
      exact change_of_leavesAlone unreadable
    | some v =>
      simp only [onEntry, decoded]
      exact remove_change faithful h (subject.trans decoded)
  · exact change_of_leavesAlone refused

theorem respond_change (faithful : Store.Faithful R) (h : R m s) (plain : now.HasPlainYear) :
    ∃ m', Change R m s now r (respond s now r).1 m' (respond s now r).2 := by
  unfold respond
  split
  · have options : LeavesAlone s (Response.withoutBody 200, s) := ⟨rfl, by show IsQuiet 200; decide⟩
    exact change_of_leavesAlone options
  · have nowhere : LeavesAlone s (Response.withoutBody 404, s) := ⟨rfl, by show IsQuiet 404; decide⟩
    exact change_of_leavesAlone nowhere
  · rename_i path _
    exact dispatch_change faithful h plain path

/-! ## Runs -/

/-- Requests keep a store to the memory that it stands for. -/
theorem serve_related (faithful : Store.Faithful R) (h : R m s) {run : List (Instant × Request)}
    (plain : ∀ e ∈ run, e.1.HasPlainYear) : ∃ m', R m' (serve s run).2 := by
  induction run generalizing m s with
  | nil => exact ⟨m, h⟩
  | cons e run ih =>
    obtain ⟨now, r⟩ := e
    obtain ⟨m', change⟩ := respond_change (r := r) faithful h (plain (now, r) List.mem_cons_self)
    exact ih (change.related h) fun e mem => plain e (List.mem_cons_of_mem _ mem)

end Service
end TextCatalog
