import TextCatalog.Proofs.Web.Change

/-!
# TextCatalog.Proofs.Web.Ledger

Answers as a ledger of the store: which texts are stored can be counted from them.

* `Kept` — what is known of every record of a store that requests have filled.
* `Entry`, `Change.entry` — what one answer says of the stored records, before and after it.
* `stock_eq` — for each text, an answer is one more, one less or nothing.
* `IsLedger`, `serve_ledger` — the ledger of a run on an empty store of either kind.
-/

namespace TextCatalog
namespace Service

variable {σ : Type} {R : Memory → σ → Prop} {m : Memory} {s : σ} {now : Instant} {r : Request}

/-! ## The records that requests leave -/

/-- Every record is of one of the texts, as it is catalogued on request. -/
def Kept (texts : List String) (m : Memory) : Prop :=
  ∀ x ∈ m.records, isCatalogable x.value = true ∧ x.value ∈ texts ∧
    ∃ t, x = Record.ofText x.value t

theorem Kept.id_eq {texts : List String} (h : Kept texts m) {x : Record} (mem : x ∈ m.records) :
    x.id = Record.idOf x.value := by
  obtain ⟨_, _, t, same⟩ := h x mem
  rw [same]
  rfl

theorem Kept.change {texts : List String} (h : Kept texts m)
    (within : ∀ v ∈ r.subject?, v ∈ texts) {a : Response} {m' : Memory} {s' : σ}
    (change : Change R m s now r a m' s') : Kept texts m' := by
  cases change with
  | nothing => exact h
  | added v _ subject catalogable =>
    intro x mem
    rcases List.mem_cons.mp mem with rfl | mem
    · exact ⟨catalogable, within _ subject, now, rfl⟩
    · exact h x mem
  | removed =>
    intro x mem
    exact h x (List.mem_filter.mp mem).1

/-- Whether a record of the text is stored, as a number. -/
def stock (rs : List Record) (v : String) : Int := if ∃ x ∈ rs, x.value = v then 1 else 0

theorem stock_perm {rs rs' : List Record} (h : rs.Perm rs') (v : String) :
    stock rs v = stock rs' v := by
  have same : (∃ x ∈ rs, x.value = v) ↔ ∃ x ∈ rs', x.value = v := by
    simp only [h.mem_iff]
  simp only [stock, same]

theorem perm_erase {x : Record} (mem : x ∈ m.records) :
    m.records.Perm (x :: (m.erase x.id).records) := by
  obtain ⟨rs, distinct⟩ := m
  induction rs with
  | nil => cases mem
  | cons y rs ih =>
    obtain ⟨apart, distinct⟩ := List.pairwise_cons.mp distinct
    show (y :: rs).Perm (x :: (y :: rs).filter fun r => r.id != x.id)
    rcases List.mem_cons.mp mem with rfl | mem
    · have all : rs.filter (fun r => r.id != x.id) = rs :=
        List.filter_eq_self.mpr fun z inside => bne_iff_ne.mpr (apart z inside).symm
      rw [List.filter_cons_of_neg (by simp), all]
    · have kept : (y.id != x.id) = true := bne_iff_ne.mpr (apart x mem)
      rw [List.filter_cons_of_pos (p := fun r : Record => r.id != x.id) kept]
      exact ((ih distinct mem).cons y).trans (List.Perm.swap x y _)

theorem free_iff {texts : List String} (h : Kept texts m) {v : String} (known : v ∈ texts)
    (apart : ∀ v ∈ texts, ∀ w ∈ texts, Record.idOf v = Record.idOf w → v = w) :
    m.has (Record.idOf v) = true ↔ ∃ x ∈ m.records, x.value = v := by
  constructor
  · intro taken
    obtain ⟨x, mem, same⟩ := List.any_eq_true.mp taken
    have id : x.id = Record.idOf v := beq_iff_eq.mp same
    rw [h.id_eq mem] at id
    exact ⟨x, mem, apart _ (h x mem).2.1 _ known id⟩
  · rintro ⟨x, mem, rfl⟩
    exact List.any_eq_true.mpr ⟨x, mem, beq_iff_eq.mpr (h.id_eq mem)⟩

/-! ## The ledger -/

variable [Store σ]

/-- All records, oldest first. -/
def listed (s : σ) : Except StoreError (List Record) := Store.query s Filter.empty

theorem query_empty_perm (m : Memory) : (m.query Filter.empty).Perm m.records := by
  have all : m.records.filter Filter.empty.accepts = m.records :=
    List.filter_eq_self.mpr fun x _ => Filter.accepts_empty x
  rw [Memory.query, all]
  exact List.mergeSort_perm _ _

/-- What an answer says of the store before it and after it. -/
inductive Entry (s : σ) (now : Instant) (r : Request) (a : Response) (s' : σ) : Prop where
  | nothing (quiet : IsQuiet a.status) (same : s' = s)
  | added (v : String) (before after : List Record) (status : a.status = 201)
    (subject : r.subject? = some v) (first : listed s = .ok before) (last : listed s' = .ok after)
    (absent : ∀ x ∈ before, x.value ≠ v) (one : after.Perm (Record.ofText v now :: before))
  | removed (v : String) (x : Record) (before after : List Record) (status : a.status = 204)
    (subject : r.subject? = some v) (first : listed s = .ok before) (last : listed s' = .ok after)
    (named : x.value = v) (one : before.Perm (x :: after)) (gone : ∀ y ∈ after, y.value ≠ v)

theorem Change.entry {texts : List String} (faithful : Store.Faithful R) (h : R m s)
    (kept : Kept texts m) (within : ∀ v ∈ r.subject?, v ∈ texts)
    (apart : ∀ v ∈ texts, ∀ w ∈ texts, Record.idOf v = Record.idOf w → v = w)
    {a : Response} {m' : Memory} {s' : σ} (change : Change R m s now r a m' s') :
    Entry s now r a s' := by
  have first : listed s = .ok (m.query Filter.empty) := faithful.query h Filter.empty
  have order := query_empty_perm m
  cases change with
  | nothing quiet => exact .nothing quiet rfl
  | added v status subject _ free related =>
    refine .added v _ _ status subject first (faithful.query related Filter.empty) ?_
      ((query_empty_perm _).trans (order.symm.cons _))
    intro x mem same
    have taken := (free_iff kept (within v subject) apart).mpr ⟨x, order.mem_iff.mp mem, same⟩
    rw [free] at taken
    cases taken
  | removed v status subject taken related =>
    obtain ⟨x, mem, rfl⟩ := (free_iff kept (within v subject) apart).mp taken
    have id := kept.id_eq mem
    have one := perm_erase mem
    rw [id] at one
    refine .removed x.value x _ _ status subject first (faithful.query related Filter.empty) rfl
      ((order.trans one).trans ((query_empty_perm _).symm.cons x)) ?_
    intro y inside same
    obtain ⟨stayed, other⟩ := List.mem_filter.mp ((query_empty_perm _).mem_iff.mp inside)
    have other : y.id ≠ Record.idOf x.value := bne_iff_ne.mp other
    exact other (by rw [kept.id_eq stayed, same])

theorem Entry.status_ne {a : Response} {s' : σ} (h : Entry s now r a s') : a.status ≠ 500 := by
  cases h with
  | nothing quiet => exact quiet.2.2
  | added _ _ _ status => rw [status]; decide
  | removed _ _ _ _ status => rw [status]; decide

def exchanges (s : σ) (run : List (Instant × Request)) : List (Request × Response) :=
  (run.map (·.2)).zip (serve s run).1

/-- Whether an answer of the status was given to a request for the text. -/
def isFor (status : Nat) (v : String) (e : Request × Response) : Bool :=
  e.2.status == status && e.1.subject? == some v

/-- How many answers of the status were given to requests for the text. -/
def times (status : Nat) (v : String) (es : List (Request × Response)) : Nat :=
  es.countP (isFor status v)

theorem isFor_of_status_ne {status : Nat} {a : Response} (h : a.status ≠ status) (v : String) :
    isFor status v (r, a) = false := by
  simp [isFor, h]

theorem isFor_of_subject {status : Nat} {a : Response} (h : a.status = status) {w : String}
    (subject : r.subject? = some w) (v : String) : isFor status v (r, a) = decide (w = v) := by
  simp [isFor, h, subject, beq_eq_decide]

theorem Entry.stock_eq {a : Response} {s' : σ} {before after : List Record}
    (h : Entry s now r a s') (first : listed s = .ok before) (last : listed s' = .ok after)
    (v : String) :
    stock after v + (times 204 v [(r, a)] : Int) =
      stock before v + (times 201 v [(r, a)] : Int) := by
  cases h with
  | nothing quiet same =>
    obtain ⟨no201, no204, _⟩ := quiet
    rw [same, first] at last
    cases last
    simp [times, isFor_of_status_ne no201, isFor_of_status_ne no204]
  | added w before' after' status subject first' last' absent one =>
    rw [first] at first'
    rw [last] at last'
    cases first'
    cases last'
    have other : a.status ≠ 204 := by rw [status]; decide
    rw [stock_perm one]
    simp only [times, List.countP_singleton, isFor_of_status_ne other,
      isFor_of_subject status subject]
    by_cases same : w = v
    · subst same
      have none_before : ¬∃ x ∈ before, x.value = w := fun ⟨x, mem, same⟩ => absent x mem same
      simp [stock, none_before, Record.ofText]
    · simp [stock, same, Record.ofText]
  | removed w x before' after' status subject first' last' named one gone =>
    rw [first] at first'
    rw [last] at last'
    cases first'
    cases last'
    have other : a.status ≠ 201 := by rw [status]; decide
    rw [stock_perm one]
    simp only [times, List.countP_singleton, isFor_of_status_ne other,
      isFor_of_subject status subject]
    by_cases same : w = v
    · subst same
      have none_after : ¬∃ y ∈ after, y.value = w := fun ⟨y, mem, same⟩ => gone y mem same
      simp [stock, none_after, named]
    · simp [stock, same, named]

/-! ## Runs -/

def subjects (run : List (Instant × Request)) : List String := run.filterMap fun e => e.2.subject?

/-- Times have years of four digits, texts fit the table, and no two have the same digest. -/
structure Admissible (run : List (Instant × Request)) : Prop where
  plain : ∀ e ∈ run, e.1.HasPlainYear
  short : ∀ v ∈ subjects run, v.toList.length < columnMax
  apart : ∀ v ∈ subjects run, ∀ w ∈ subjects run, Record.idOf v = Record.idOf w → v = w

theorem mem_subjects {run : List (Instant × Request)} (mem : (now, r) ∈ run) :
    ∀ v ∈ r.subject?, v ∈ subjects run :=
  fun _ subject => List.mem_filterMap.mpr ⟨(now, r), mem, subject⟩

theorem Admissible.change {run : List (Instant × Request)} (admissible : Admissible run)
    (mem : (now, r) ∈ run) (faithful : Store.Faithful R) (h : R m s) :
    ∃ m', Change R m s now r (respond s now r).1 m' (respond s now r).2 :=
  respond_change faithful h (admissible.plain (now, r) mem)

theorem exchanges_cons (s : σ) (now : Instant) (r : Request) (run : List (Instant × Request)) :
    exchanges s ((now, r) :: run) =
      (r, (respond s now r).1) :: exchanges (respond s now r).2 run :=
  rfl

theorem times_cons (status : Nat) (v : String) (e : Request × Response)
    (es : List (Request × Response)) :
    times status v (e :: es) = times status v [e] + times status v es := by
  show List.countP _ ([e] ++ es) = _
  exact List.countP_append

theorem serve_append (s : σ) (run later : List (Instant × Request)) :
    serve s (run ++ later) =
      ((serve s run).1 ++ (serve (serve s run).2 later).1, (serve (serve s run).2 later).2) := by
  induction run generalizing s with
  | nil => rfl
  | cons e run ih =>
    obtain ⟨now, r⟩ := e
    show ((respond s now r).1 :: (serve (respond s now r).2 (run ++ later)).1,
      (serve (respond s now r).2 (run ++ later)).2) = _
    rw [ih]
    rfl

theorem serve_length (s : σ) (run : List (Instant × Request)) :
    (serve s run).1.length = run.length := by
  induction run generalizing s with
  | nil => rfl
  | cons e run ih => exact congrArg (· + 1) (ih (respond s e.1 e.2).2)

/--
The records stored after a run are those stored before it, the added ones and not the removed ones,
text by text. The texts of the run are looked up among those of a longer one, which stays the same
as the induction goes on.
-/
theorem serve_change {whole run : List (Instant × Request)} (admissible : Admissible whole)
    (part : ∀ e ∈ run, e ∈ whole) (faithful : Store.Faithful R) (h : R m s)
    (kept : Kept (subjects whole) m) :
    ∃ m', R m' (serve s run).2 ∧ Kept (subjects whole) m' ∧
      (∀ v, stock m'.records v + (times 204 v (exchanges s run) : Int) =
        stock m.records v + (times 201 v (exchanges s run) : Int)) ∧
      ∀ a ∈ (serve s run).1, a.status ≠ 500 := by
  induction run generalizing m s with
  | nil => exact ⟨m, h, kept, fun _ => rfl, fun _ mem => by cases mem⟩
  | cons e run ih =>
    obtain ⟨now, r⟩ := e
    have mem := part (now, r) List.mem_cons_self
    have within := mem_subjects mem
    obtain ⟨m₁, change⟩ := admissible.change mem faithful h
    have related := change.related h
    have entry := change.entry faithful h kept within admissible.apart
    obtain ⟨m', last, kept', sum, quiet⟩ :=
      ih (fun e mem => part e (List.mem_cons_of_mem _ mem)) related (kept.change within change)
    refine ⟨m', last, kept', fun v => ?_, ?_⟩
    · have one := entry.stock_eq (faithful.query h Filter.empty)
        (faithful.query related Filter.empty) v
      rw [stock_perm (query_empty_perm m), stock_perm (query_empty_perm m₁)] at one
      have others := sum v
      rw [exchanges_cons, times_cons 204, times_cons 201]
      omega
    · intro a answered
      rcases List.mem_cons.mp answered with rfl | later
      · exact entry.status_ne
      · exact quiet a later

/-- What the answers of a run tell of the store at every point of it. -/
structure IsLedger (start : σ) (run : List (Instant × Request)) : Prop where
  entries : ∀ earlier now r later, run = earlier ++ (now, r) :: later →
    ∃ a, (serve start run).1[earlier.length]? = some a ∧
      Entry (serve start earlier).2 now r a (serve start (earlier ++ [(now, r)])).2
  balance : ∀ earlier later, run = earlier ++ later →
    ∃ rs, listed (serve start earlier).2 = .ok rs ∧
      (∀ v, (times 201 v (exchanges start earlier) : Int) - times 204 v (exchanges start earlier) =
        if ∃ x ∈ rs, x.value = v then 1 else 0) ∧
      ∀ x ∈ rs, isCatalogable x.value = true ∧ x.id = Record.idOf x.value ∧
        x.properties = Properties.ofText x.value
  noFailure : ∀ a ∈ (serve start run).1, a.status ≠ 500

theorem kept_empty (texts : List String) : Kept texts Memory.empty := by
  intro x mem
  cases mem

theorem isLedger_of_faithful (faithful : Store.Faithful R) (start : R Memory.empty s)
    {run : List (Instant × Request)} (admissible : Admissible run) : IsLedger s run := by
  have reached : ∀ earlier later, run = earlier ++ later → ∃ m, R m (serve s earlier).2 ∧
      Kept (subjects run) m ∧
      (∀ v, stock m.records v + (times 204 v (exchanges s earlier) : Int) =
        (times 201 v (exchanges s earlier) : Int)) := by
    intro earlier later split
    have part : ∀ e ∈ earlier, e ∈ run := fun e mem => split ▸ List.mem_append_left later mem
    obtain ⟨m, related, kept, sum, _⟩ :=
      serve_change admissible part faithful start (kept_empty _)
    have empty : ∀ v, stock Memory.empty.records v = 0 := fun v => by simp [stock, Memory.empty]
    exact ⟨m, related, kept, fun v => by rw [sum v, empty, Int.zero_add]⟩
  constructor
  · intro earlier now r later split
    obtain ⟨m, related, kept, _⟩ := reached earlier _ split
    have mem : (now, r) ∈ run := by simp [split]
    obtain ⟨m', change⟩ := admissible.change mem faithful related
    refine ⟨(respond (serve s earlier).2 now r).1, ?_, ?_⟩
    · have last := Nat.le_of_eq (serve_length s earlier)
      rw [split, serve_append, List.getElem?_append_right last, serve_length, Nat.sub_self]
      rfl
    · rw [serve_append]
      exact change.entry faithful related kept (mem_subjects mem) admissible.apart
  · intro earlier later split
    obtain ⟨m, related, kept, sum⟩ := reached earlier later split
    have order := query_empty_perm m
    refine ⟨m.query Filter.empty, faithful.query related Filter.empty, fun v => ?_, ?_⟩
    · show _ = stock (m.query Filter.empty) v
      rw [stock_perm order]
      have := sum v
      omega
    · intro x mem
      obtain ⟨catalogable, _, t, same⟩ := kept x (order.mem_iff.mp mem)
      exact ⟨catalogable, kept.id_eq (order.mem_iff.mp mem), by rw [same]; rfl⟩
  · obtain ⟨_, _, _, _, quiet⟩ :=
      serve_change admissible (fun _ mem => mem) faithful start (kept_empty _)
    exact quiet

/--
From an empty store of either kind, the answers to a run tell exactly which texts are stored at
every point of it, and none of them tells of a failure.
-/
theorem serve_ledger {run : List (Instant × Request)} (h : Admissible run) :
    IsLedger Memory.empty run ∧ IsLedger Database.fresh run :=
  ⟨isLedger_of_faithful Store.faithful_memory rfl h,
    isLedger_of_faithful Store.faithful_table Store.mirrors_fresh h⟩

def posting (text : String) : Request :=
  ⟨.post, "/strings", some "application/json", "\x7b\"value\": \"" ++ text ++ "\"\x7d", []⟩

/-- Two texts are added, the one of them twice, and the other one is removed. -/
def levelAndNoon : List (Instant × Request) :=
  [(Store.leapInstant, posting "Level"), (.epoch, posting "noon"), (.epoch, posting "noon"),
   (.epoch, ⟨.delete, "/strings/%4Cevel", none, "", []⟩)]

theorem serve_ledger_level_and_noon : Admissible levelAndNoon ∧
    IsLedger Memory.empty levelAndNoon ∧ IsLedger Database.fresh levelAndNoon := by
  have admissible : Admissible levelAndNoon := by
    constructor <;> decide +kernel
  exact ⟨admissible, serve_ledger admissible⟩

end Service
end TextCatalog
