import TextCatalog.Proofs.Json.Leading
import TextCatalog.Proofs.Record.Document
import TextCatalog.Proofs.Record.Measures
import TextCatalog.Proofs.Web.Ledger

/-!
# TextCatalog.Proofs.Web.Posting

What is answered to a text that is sent to be catalogued, from the body and the store alone.

* `Posting.IsField` — the member `value` of a document, of several the last.
* `Posting.Demands` — the status that a body demands, by what it begins with and what is stored.
* `IsAnswer` — an answer with that status, which changes the store only as it tells.
* `respond_demanded` — one request, at a store of either kind.
* `respond_posting` — every request, after every run from an empty store.
-/

namespace TextCatalog

open Text

namespace Posting

variable {documents : Json → Prop} {isTaken : String → Prop} {i j v : Json} {t : String} {n : Nat}

/-! ## The member -/

def IsField (j v : Json) : Prop :=
  ∃ before after, j = .obj (before ++ (some "value", v) :: after) ∧ ∀ m ∈ after, m.1 ≠ some "value"

theorem field_eq_some_iff : field j = some v ↔ IsField j v := by
  constructor
  · intro found
    cases j with
    | obj members =>
      obtain ⟨⟨name, w⟩, last, rfl⟩ := Option.map_eq_some_iff.mp found
      obtain ⟨named, after, before, split, others⟩ := List.find?_eq_some_iff_append.mp last
      obtain rfl := beq_iff_eq.mp named
      refine ⟨before.reverse, after.reverse, ?_, fun m mem same => ?_⟩
      · rw [← List.reverse_reverse members, split]
        simp
      · have other := others m (List.mem_reverse.mp mem)
        rw [same] at other
        cases other
    | _ => cases found
  · rintro ⟨before, after, rfl, others⟩
    refine Option.map_eq_some_iff.mpr ⟨(some "value", v), List.find?_eq_some_iff_append.mpr ?_, rfl⟩
    refine ⟨rfl, after.reverse, before.reverse, by simp, fun m mem => ?_⟩
    simpa using others m (List.mem_reverse.mp mem)

theorem field_eq_none_iff : field j = none ↔ ∀ v, ¬IsField j v := by
  simp only [← field_eq_some_iff]
  exact Option.eq_none_iff_forall_ne_some

/-! ## What is demanded -/

def IsBlank (t : String) : Prop := ∀ c ∈ t.toList, isBlank c = true

/-- The text has a character that is neither a Latin letter nor a blank. -/
def IsForeign (t : String) : Prop := ∃ c ∈ t.toList, c.isAlpha = false ∧ isBlank c = false

/--
The status that a body demands which begins with such documents. No more than one of them is
possible, but nothing in these rules depends on that.
-/
inductive Demands (documents : Json → Prop) (isTaken : String → Prop) : Nat → Prop where
  | noDocument (none : ∀ j, ¬documents j) : Demands documents isTaken 400
  | noField {j : Json} (document : documents j) (none : ∀ v, ¬IsField j v) :
    Demands documents isTaken 400
  | null {j : Json} (document : documents j) (field : IsField j .null) :
    Demands documents isTaken 400
  | blank {j : Json} {t : String} (document : documents j) (field : IsField j (.str t))
    (blank : IsBlank t) : Demands documents isTaken 400
  | noText {j v : Json} (document : documents j) (field : IsField j v) (notNull : v ≠ .null)
    (notText : ∀ t, v ≠ .str t) : Demands documents isTaken 422
  | foreign {j : Json} {t : String} (document : documents j) (field : IsField j (.str t))
    (foreign : IsForeign t) : Demands documents isTaken 422
  | taken {j : Json} {t : String} (document : documents j) (field : IsField j (.str t))
    (inked : ¬IsBlank t) (plain : ¬IsForeign t) (taken : isTaken t) : Demands documents isTaken 409
  | free {j : Json} {t : String} (document : documents j) (field : IsField j (.str t))
    (inked : ¬IsBlank t) (plain : ¬IsForeign t) (free : ¬isTaken t) : Demands documents isTaken 201

theorem isBlankText_iff : isBlankText t = true ↔ IsBlank t := List.all_eq_true

theorem isCatalogable_iff_plain : isCatalogable t = true ↔ ¬IsBlank t ∧ ¬IsForeign t := by
  have plain : ∀ c, isCatalogableChar c = true ↔ ¬(c.isAlpha = false ∧ isBlank c = false) := by
    intro c
    rw [isCatalogableChar, ← Bool.or_eq_false_iff, Bool.not_eq_false]
  simp only [isCatalogable_iff, IsBlank, IsForeign, plain, not_forall, not_exists, not_and,
    Bool.not_eq_true, exists_prop]

/-- Every body demands some status. -/
theorem exists_demands (documents : Json → Prop) (isTaken : String → Prop) :
    ∃ n, Demands documents isTaken n := by
  by_cases begun : ∃ j, documents j
  · obtain ⟨j, document⟩ := begun
    cases shown : field j with
    | none => exact ⟨400, .noField document (field_eq_none_iff.mp shown)⟩
    | some v =>
      have field := field_eq_some_iff.mp shown
      cases v with
      | null => exact ⟨400, .null document field⟩
      | str t =>
        by_cases blank : IsBlank t
        · exact ⟨400, .blank document field blank⟩
        by_cases foreign : IsForeign t
        · exact ⟨422, .foreign document field foreign⟩
        by_cases taken : isTaken t
        · exact ⟨409, .taken document field blank foreign taken⟩
        · exact ⟨201, .free document field blank foreign taken⟩
      | _ => exact ⟨422, .noText document field (by simp) (by simp)⟩
  · exact ⟨400, .noDocument fun j document => begun ⟨j, document⟩⟩

/-- The body is refused with the status, before the store is asked. -/
def Refuses (status : Nat) (r : Except ApiError String) : Prop :=
  ∃ e, r = .error e ∧ e.status = status

theorem valueOf_blank (blank : IsBlank t) : Refuses 400 (valueOf (some (.str t))) :=
  ⟨_, if_pos (isBlankText_iff.mpr blank), rfl⟩

theorem valueOf_foreign (foreign : IsForeign t) : Refuses 422 (valueOf (some (.str t))) := by
  have inked : ¬IsBlank t := by
    obtain ⟨c, mem, _, ink⟩ := foreign
    intro blank
    rw [blank c mem] at ink
    cases ink
  have refused : ¬isCatalogable t = true :=
    fun plain => (isCatalogable_iff_plain.mp plain).2 foreign
  refine ⟨_, (if_neg fun blank => inked (isBlankText_iff.mp blank)).trans (if_neg refused), rfl⟩

theorem valueOf_noText (notNull : v ≠ .null) (notText : ∀ t, v ≠ .str t) :
    Refuses 422 (valueOf (some v)) := by
  cases v with
  | null => exact absurd rfl notNull
  | str t => exact absurd rfl (notText t)
  | _ => exact ⟨_, rfl, rfl⟩

theorem valueOf_plain (inked : ¬IsBlank t) (plain : ¬IsForeign t) :
    valueOf (some (.str t)) = .ok t :=
  (if_neg fun blank => inked (isBlankText_iff.mp blank)).trans
    (if_pos (isCatalogable_iff_plain.mpr ⟨inked, plain⟩))

end Posting

/-! ## Answers -/

/-- A text that is sent to be catalogued: JSON, as it is announced, and not too long. -/
structure Request.IsPosting (r : Request) : Prop where
  method : r.method = .post
  path : Route.ofPath? r.path = some .collection
  announced : r.contentType.any announcesJson = true
  text : r.residue = []
  short : r.body.utf8ByteSize ≤ Posting.maxBody

namespace Posting

variable {r : Request}

theorem value_of_posting (h : r.IsPosting) : value r =
    match Json.leading r.body.toList with
    | .error f => .error (notDocument r.body.toList f)
    | .ok j => valueOf (field j) := by
  have short : ¬maxBody < r.body.utf8ByteSize + r.residue.length := by
    rw [h.text]
    exact Nat.not_lt.mpr h.short
  exact (if_pos h.announced).trans (if_neg short)

theorem value_of_none (h : r.IsPosting) (none : ∀ j, ¬Json.Starts true r.body.toList j) :
    Refuses 400 (value r) := by
  rw [value_of_posting h]
  cases read : Json.leading r.body.toList with
  | ok j => exact absurd (Json.leading_eq_ok_iff.mp read) (none j)
  | error f =>
    refine ⟨_, rfl, ?_⟩
    unfold notDocument
    split <;> rfl

theorem value_of_document (h : r.IsPosting) (document : Json.Starts true r.body.toList j) :
    value r = valueOf (field j) := by
  rw [value_of_posting h, Json.leading_eq_ok_iff.mpr document]

end Posting

namespace Service

open Posting

variable {σ : Type} [Store σ] {R : Memory → σ → Prop} {m : Memory} {s : σ} {now : Instant}
  {r : Request} {e : ApiError} {v : String} {n : Nat}

/-- A record of the text, by its digest, is stored. -/
def IsStored (s : σ) (v : String) : Prop :=
  ∃ rs, listed s = .ok rs ∧ ∃ x ∈ rs, x.id = Record.idOf v

/-- The answer shows the record of a posted text, which has been added to the store. -/
def IsCreated (s : σ) (documents : Json → Prop) (x : Response × σ) : Prop :=
  ∃ j v record i before after, documents j ∧ IsField j (.str v) ∧ record.IsShownBy i ∧
    x.1 = ⟨201, .json i⟩ ∧ record.value = v ∧ record.id = Record.idOf v ∧
    record.properties = Properties.ofText v ∧ listed s = .ok before ∧
    listed x.2 = .ok after ∧ after.Perm (record :: before)

/-- The answer to a posting of which the body begins with such documents. -/
structure IsAnswer (s : σ) (documents : Json → Prop) (x : Response × σ) : Prop where
  status : ∀ n, x.1.status = n ↔ Demands documents (IsStored s) n
  created : x.1.status = 201 → IsCreated s documents x
  unchanged : x.1.status ≠ 201 → x.2 = s

theorem isStored_iff (faithful : Store.Faithful R) (h : R m s) :
    IsStored s v ↔ m.has (Record.idOf v) = true := by
  have all : listed s = .ok (m.query Filter.empty) := faithful.query h Filter.empty
  unfold IsStored
  rw [all]
  simp only [Except.ok.injEq, exists_eq_left', (query_empty_perm m).mem_iff]
  simp [Memory.has]

theorem respond_of_posting (h : r.IsPosting) : respond s now r = settle s (create s now r) := by
  simp only [respond, h.method, h.path, dispatch]

/-- A refusal is answered with its own status and leaves the store as it was. -/
theorem create_refused (refused : Refuses n (value r)) :
    (settle s (create s now r)).1.status = n ∧ (settle s (create s now r)).2 = s := by
  obtain ⟨e, failed, status⟩ := refused
  rw [create, failed]
  exact ⟨status, rfl⟩

theorem create_taken (faithful : Store.Faithful R) (h : R m s) (plain : now.HasPlainYear)
    (posted : value r = .ok v) (taken : m.has (Record.idOf v) = true) :
    (settle s (create s now r)).1.status = 409 ∧ (settle s (create s now r)).2 = s := by
  have refused := faithful.put_taken h (fitsTable posted plain) taken
  simp only [create, posted, bind, Except.bind, stored, refused, Except.mapError]
  exact ⟨rfl, rfl⟩

theorem create_free (faithful : Store.Faithful R) (h : R m s) (plain : now.HasPlainYear)
    (posted : value r = .ok v) (free : m.has (Record.idOf v) = false) :
    ∃ s', settle s (create s now r) = (Response.ofJson 201 (Record.ofText v now).toJson, s') ∧
      R ⟨Record.ofText v now :: m.records, Memory.cons_distinct free⟩ s' := by
  obtain ⟨s', done, related⟩ := faithful.put_free h (fitsTable posted plain) free
  refine ⟨s', ?_, related⟩
  simp only [create, posted, bind, Except.bind, stored, done, Except.mapError]
  rfl

theorem answered_quietly {documents : Json → Prop} {x : Response × σ} (other : n ≠ 201)
    (h : x.1.status = n ∧ x.2 = s) :
    x.1.status = n ∧ (n ≠ 201 → x.2 = s) ∧ (n = 201 → IsCreated s documents x) :=
  ⟨h.1, fun _ => h.2, fun created => absurd created other⟩

/-- A posting is answered with the status that it demands. -/
theorem respond_demanded (faithful : Store.Faithful R) (h : R m s) (plain : now.HasPlainYear)
    (posting : r.IsPosting) (demands : Demands (Json.Starts true r.body.toList) (IsStored s) n) :
    (respond s now r).1.status = n ∧ (n ≠ 201 → (respond s now r).2 = s) ∧
      (n = 201 → IsCreated s (Json.Starts true r.body.toList) (respond s now r)) := by
  have read : ∀ {j i}, Json.Starts true r.body.toList j → IsField j i →
      value r = valueOf (some i) := fun document field => by
    rw [value_of_document posting document, field_eq_some_iff.mpr field]
  rw [respond_of_posting posting]
  cases demands with
  | noDocument none =>
    exact answered_quietly (by decide) (create_refused (value_of_none posting none))
  | noField document none =>
    refine answered_quietly (by decide) (create_refused ?_)
    rw [value_of_document posting document, field_eq_none_iff.mpr none]
    exact ⟨_, rfl, rfl⟩
  | null document field =>
    refine answered_quietly (by decide) (create_refused ?_)
    rw [read document field]
    exact ⟨_, rfl, rfl⟩
  | blank document field blank =>
    refine answered_quietly (by decide) (create_refused ?_)
    rw [read document field]
    exact valueOf_blank blank
  | noText document field notNull notText =>
    refine answered_quietly (by decide) (create_refused ?_)
    rw [read document field]
    exact valueOf_noText notNull notText
  | foreign document field foreign =>
    refine answered_quietly (by decide) (create_refused ?_)
    rw [read document field]
    exact valueOf_foreign foreign
  | taken document field inked known taken =>
    have posted := (read document field).trans (valueOf_plain inked known)
    exact answered_quietly (by decide)
      (create_taken faithful h plain posted ((isStored_iff faithful h).mp taken))
  | @free j v document field inked known free =>
    have posted := (read document field).trans (valueOf_plain inked known)
    have absent : m.has (Record.idOf v) = false := by
      rw [isStored_iff faithful h] at free
      exact Bool.not_eq_true _ ▸ free
    obtain ⟨s', answer, related⟩ := create_free faithful h plain posted absent
    rw [answer]
    have shown := Record.isShownBy_toJson (r := .ofText v now) (fitsTable posted plain).isCounted
    have first : listed s = .ok (m.query Filter.empty) := faithful.query h Filter.empty
    have last := faithful.query related Filter.empty
    have one :=
      (query_empty_perm ⟨Record.ofText v now :: m.records, Memory.cons_distinct absent⟩).trans
        ((query_empty_perm m).symm.cons (Record.ofText v now))
    exact ⟨rfl, fun other => absurd rfl other, fun _ =>
      ⟨j, v, Record.ofText v now, _, _, _, document, field, shown, rfl, rfl, rfl, rfl, first, last,
        one⟩⟩

theorem isAnswer_of_faithful (faithful : Store.Faithful R) (h : R m s) (plain : now.HasPlainYear)
    (posting : r.IsPosting) : IsAnswer s (Json.Starts true r.body.toList) (respond s now r) := by
  obtain ⟨n, demands⟩ := exists_demands (Json.Starts true r.body.toList) (IsStored s)
  obtain ⟨rfl, unchanged, created⟩ := respond_demanded faithful h plain posting demands
  refine ⟨fun n => ⟨?_, fun other => ?_⟩, created, unchanged⟩
  · rintro rfl
    exact demands
  · exact (respond_demanded faithful h plain posting other).1

/-! ## Runs -/

/--
How a store answers a posting. Where no object in the body could embed a document, the documents
that the body begins with are those of JSON.
-/
structure AnswersPosting (s : σ) (now : Instant) (r : Request) : Prop where
  embedding : IsAnswer s (Json.Starts true r.body.toList) (respond s now r)
  direct : (∀ j, Json.Starts false r.body.toList j → j.IsDirect) →
    IsAnswer s (Json.Starts false r.body.toList) (respond s now r)

theorem answersPosting_of_faithful (faithful : Store.Faithful R) (start : R m s)
    {run : List (Instant × Request)} (past : ∀ e ∈ run, e.1.HasPlainYear)
    (plain : now.HasPlainYear) (posting : r.IsPosting) : AnswersPosting (serve s run).2 now r := by
  obtain ⟨m', related⟩ := serve_related faithful start past
  have answer := isAnswer_of_faithful faithful related plain posting
  refine ⟨answer, fun direct => ?_⟩
  have same : Json.Starts true r.body.toList = Json.Starts false r.body.toList :=
    funext fun j => propext (Json.starts_iff_of_isDirect direct)
  rwa [same] at answer

/--
After every run from an empty store of either kind, a posting is answered as its body demands, and
only a text that is catalogued changes the store.
-/
theorem respond_posting {run : List (Instant × Request)} (past : ∀ e ∈ run, e.1.HasPlainYear)
    (plain : now.HasPlainYear) (posting : r.IsPosting) :
    AnswersPosting (serve Memory.empty run).2 now r ∧
      AnswersPosting (serve Database.fresh run).2 now r :=
  ⟨answersPosting_of_faithful Store.faithful_memory rfl past plain posting,
    answersPosting_of_faithful Store.faithful_table Store.mirrors_fresh past plain posting⟩

/-! ## Two bodies -/

/-- Blanks around the text belong to it, and what follows the document is not read. -/
def spaced : Request :=
  ⟨.post, "/strings", some "application/json", "\x7b\"value\":\" Noon \"\x7d and more", []⟩

theorem isPosting_spaced : spaced.IsPosting := ⟨rfl, by decide, by decide, rfl, by decide⟩

theorem starts_spaced : Json.Starts false spaced.body.toList
    (.obj [(some (String.ofList "value".toList), .str (String.ofList " Noon ".toList))]) := by
  have name := Json.writesText_of_readText
    (rfl : Json.readText .strict "value\":\" Noon \"\x7d and more".toList =
      .ok (some "value", ":\" Noon \"\x7d and more".toList))
  have text := Json.writesText_of_readText
    (rfl : Json.readText .strict " Noon \"\x7d and more".toList =
      .ok (some " Noon ", "\x7d and more".toList))
  exact ⟨_, .object rfl (.lastMember ⟨_, _, rfl, name, rfl⟩ (.text rfl text) rfl) (by rintro ⟨⟩)⟩

theorem respond_posting_spaced :
    (∀ e ∈ levelAndNoon, e.1.HasPlainYear) ∧ Instant.epoch.HasPlainYear ∧ spaced.IsPosting ∧
      (∀ j, Json.Starts false spaced.body.toList j → j.IsDirect) ∧
      AnswersPosting (serve Memory.empty levelAndNoon).2 .epoch spaced ∧
      AnswersPosting (serve Database.fresh levelAndNoon).2 .epoch spaced := by
  have past : ∀ e ∈ levelAndNoon, e.1.HasPlainYear := by decide +kernel
  have plain : Instant.epoch.HasPlainYear := by decide
  refine ⟨past, plain, isPosting_spaced, fun j starts => ?_,
    respond_posting past plain isPosting_spaced⟩
  rw [starts.unique starts_spaced]
  refine .obj (by decide) fun m mem => ?_
  rw [List.mem_singleton.mp mem]
  exact .str _

/-- A document of one member, which is not named `value`, and in its text a document that has it. -/
def embedded : Request :=
  ⟨.post, "/strings", some "application/json",
    "\x7b\"$serde_json::private::RawValue\":\"\x7b\\\"value\\\":\\\"noon\\\"\x7d\"\x7d", []⟩

theorem isPosting_embedded : embedded.IsPosting := ⟨rfl, by decide, by decide, rfl, by decide⟩

theorem starts_embedded : Json.Starts false embedded.body.toList
    (.obj [(some (String.ofList Json.embeddedName.toList),
      .str (String.ofList "\x7b\"value\":\"noon\"\x7d".toList))]) := by
  have name := Json.writesText_of_readText
    (rfl : Json.readText .strict (embedded.body.toList.drop 2) =
      .ok (some Json.embeddedName, embedded.body.toList.drop 33))
  have text := Json.writesText_of_readText
    (rfl : Json.readText .strict (embedded.body.toList.drop 35) =
      .ok (some "\x7b\"value\":\"noon\"\x7d", ['\x7d']))
  exact ⟨_, .object rfl (.lastMember ⟨_, _, rfl, name, rfl⟩ (.text rfl text) rfl) (by rintro ⟨⟩)⟩

/-- By the rules of JSON the body has no member `value`, and yet a text is catalogued. -/
theorem respond_posting_embedded : embedded.IsPosting ∧
    Demands (Json.Starts false embedded.body.toList) (IsStored Memory.empty) 400 ∧
    (respond Memory.empty .epoch embedded).1.status = 201 ∧
    ¬IsAnswer Memory.empty (Json.Starts false embedded.body.toList)
      (respond Memory.empty .epoch embedded) := by
  have demands : Demands (Json.Starts false embedded.body.toList) (IsStored Memory.empty) 400 :=
    .noField starts_embedded (field_eq_none_iff.mp (by decide))
  have status : (respond Memory.empty .epoch embedded).1.status = 201 := by decide +kernel
  refine ⟨isPosting_embedded, demands, status, fun answer => ?_⟩
  have refused := (answer.status 400).mpr demands
  rw [status] at refused
  cases refused

end Service
end TextCatalog
