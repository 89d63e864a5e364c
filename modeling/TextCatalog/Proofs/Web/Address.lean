import TextCatalog.Proofs.Record.Document
import TextCatalog.Proofs.Record.Measures
import TextCatalog.Proofs.Store.Contents
import TextCatalog.Proofs.Web.Change
import TextCatalog.Proofs.Web.Form

/-!
# TextCatalog.Proofs.Web.Address

Every text that is stored on request can be fetched and removed under its address.

* `Percent.Spells` — the segments that stand for bytes: any byte as an escape, letters as
  themselves, too.
* `Request.Names` — the requests whose target is the address of a text, in any such spelling.
* `Request.Names.entry` — the address leads to the entry and gives back the text.
* `Service.IsFound`, `Service.IsGone` — what is answered under the address of a text that is stored,
  or is not.
* `Service.serve_found` — a text that has just been added is found, and gone once it is removed.
-/

namespace TextCatalog

open Text

/-! ## Segments -/

namespace Percent

inductive Spells : List Char → List UInt8 → Prop where
  | nil : Spells [] []
  | letter {c : Char} {s : List Char} {bs : List UInt8} :
      c.isAlpha = true → Spells s bs → Spells (c :: s) (UInt8.ofNat c.toNat :: bs)
  /-- Hexadecimal digits of either case. -/
  | escape {a b : Char} {high low : Nat} {s : List Char} {bs : List UInt8} :
      hexValue? a = some high → hexValue? b = some low → Spells s bs →
      Spells ('%' :: a :: b :: s) (UInt8.ofNat (high * 16 + low) :: bs)

variable {c d : Char} {s : List Char} {bs : List UInt8}

theorem encodeChar_of_isAlpha (h : c.isAlpha = true) :
    String.utf8EncodeChar c = [UInt8.ofNat c.toNat] := by
  have bounds := bounds_of_isAlpha h
  exact Utf8.encodeChar_ascii (by omega)

theorem Spells.bytes_eq (h : Spells s bs) : bytes s = bs := by
  induction h with
  | nil => rfl
  | @letter c _ _ letter _ ih =>
    have other : c ≠ '%' := by
      rintro rfl
      exact absurd letter (by decide)
    rw [Form.bytes_cons other, encodeChar_of_isAlpha letter, ih]
    rfl
  | escape first second _ ih => rw [Form.bytes_escape first second, ih]

/-- A character that is neither a letter nor in an escape. -/
def IsApart (d : Char) : Prop := d ≠ '%' ∧ d.isAlpha = false ∧ hexValue? d = none

instance (d : Char) : Decidable (IsApart d) :=
  inferInstanceAs (Decidable (d ≠ '%' ∧ d.isAlpha = false ∧ hexValue? d = none))

theorem Spells.not_mem (h : Spells s bs) (apart : IsApart d) : d ∉ s := by
  obtain ⟨sign, letter, digit⟩ := apart
  induction h with
  | nil => exact List.not_mem_nil
  | @letter c _ _ h _ ih =>
    have other : d ≠ c := by
      rintro rfl
      rw [letter] at h
      cases h
    simp [ih, other]
  | escape first second _ ih =>
    simp [ih, sign, (Form.ne_of_hexValue? first digit).symm,
      (Form.ne_of_hexValue? second digit).symm]

theorem Spells.ne_nil (h : Spells s bs) (some_byte : bs ≠ []) : s ≠ [] := by
  rintro rfl
  cases h
  exact some_byte rfl

end Percent

/-! ## Targets -/

theorem Request.path_of_target {r : Request} {path : List Char}
    (target : r.target.toList = '/' :: path) (hash : '#' ∉ path) (mark : '?' ∉ path) :
    r.path = '/' :: path := by
  have all : ∀ {d : Char}, d ≠ '/' → d ∉ path → ('/' :: path).takeWhile (· != d) = '/' :: path := by
    intro d other apart
    rw [List.takeWhile_eq_self_iff]
    intro c mem
    rw [bne_iff_ne]
    rintro rfl
    rcases List.mem_cons.mp mem with same | mem
    · exact other same
    · exact apart mem
  have whole : afterAuthority ('/' :: path) = '/' :: path := rfl
  rw [Request.path, pathAndQuery, target, whole, all (by decide) hash, all (by decide) mark]

theorem Route.ofPath?_entry {segment : List Char} (ne : segment ≠ []) (slash : '/' ∉ segment)
    (hyphen : '-' ∉ segment) :
    Route.ofPath? ("/strings/".toList ++ segment) = some (.entry segment) := by
  have joined : "/strings/".toList ++ segment =
      ['/'].intercalate [[], "strings".toList, segment] := by
    rw [List.intercalate_cons_cons, List.intercalate_cons_cons, List.intercalate_singleton,
      ← List.append_assoc]
    congr 1
  have parts : ("/strings/".toList ++ segment).splitOn '/' = [[], "strings".toList, segment] := by
    rw [joined]
    refine List.splitOn_intercalate '/' (fun part mem => ?_) (List.cons_ne_nil _ _)
    simp only [List.mem_cons, List.not_mem_nil, or_false] at mem
    rcases mem with empty | root | last
    · rw [empty]
      exact List.not_mem_nil
    · rw [root]
      decide
    · rw [last]
      exact slash
  -- The static route has hyphens in it, and no segment of an entry has.
  have other : segment ≠ "filter-by-natural-language".toList := by
    rintro rfl
    exact hyphen (by decide)
  rw [Route.ofPath?, parts, Route.ofSegments?, if_neg (not_or.mpr ⟨fun h => h rfl, ne⟩),
    if_neg other]

namespace Request

/-- A request whose target is the address of the text, in any spelling. -/
def Names (r : Request) (v : String) : Prop :=
  ∃ segment, Percent.Spells segment (Utf8.encode v.toList) ∧
    r.target.toList = "/strings/".toList ++ segment

theorem Names.entry {r : Request} {v : String} (h : r.Names v) (ne : v.toList ≠ []) :
    ∃ segment, Route.ofPath? r.path = some (.entry segment) ∧
      Service.valueOfSegment? segment = some v := by
  obtain ⟨segment, spells, target⟩ := h
  have target : r.target.toList = '/' :: ("strings/".toList ++ segment) := target
  have some_byte : Utf8.encode v.toList ≠ [] := by
    have count := Utf8.length_le_length_encode v.toList
    have some_letter := List.length_pos_iff.mpr ne
    exact List.ne_nil_of_length_pos (by omega)
  have hash : '#' ∉ "strings/".toList ++ segment := by simp [spells.not_mem (d := '#') (by decide)]
  have mark : '?' ∉ "strings/".toList ++ segment := by simp [spells.not_mem (d := '?') (by decide)]
  have path := path_of_target target hash mark
  refine ⟨segment, ?_, ?_⟩
  · rw [path]
    exact Route.ofPath?_entry (spells.ne_nil some_byte) (spells.not_mem (by decide))
      (spells.not_mem (by decide))
  · rw [Service.valueOfSegment?, spells.bytes_eq, Utf8.decode?_encode]
    exact congrArg some String.ofList_toList

end Request

namespace Service

/-! ## Answers under an address -/

variable {σ : Type} [Store σ] {R : Memory → σ → Prop} {m : Memory} {s : σ} {now : Instant}
  {r : Request} {v : String}

/-- What is answered to a text that is not stored. -/
structure IsGone (s : σ) (v : String) : Prop where
  notFetched : ∀ now r, r.method = .get → r.Names v →
    respond s now r = (⟨404, .json (missing v).body⟩, s)
  notRemoved : ∀ now r, r.method = .delete → r.Names v →
    respond s now r = (⟨404, .json (missing v).body⟩, s)
  posted : ∀ now r, now.HasPlainYear → r.method = .post →
    Route.ofPath? r.path = some .collection → Posting.value r = .ok v →
    ∃ j, (Record.ofText v now).IsShownBy j ∧ (respond s now r).1 = ⟨201, .json j⟩

/-- What is answered to the text of a record that is stored. -/
structure IsFound (s : σ) (x : Record) : Prop where
  fetched : ∀ now r, r.method = .get → r.Names x.value →
    ∃ j, x.IsShownBy j ∧ respond s now r = (⟨200, .json j⟩, s)
  removed : ∃ s', IsGone s' x.value ∧ ∀ now r, r.method = .delete → r.Names x.value →
    respond s now r = (⟨204, .empty⟩, s')

theorem respond_fetch (method : r.method = .get) (named : r.Names v) (ne : v.toList ≠ []) (s : σ)
    (now : Instant) : respond s now r = settle s (fetch s v) := by
  obtain ⟨segment, leads, value⟩ := named.entry ne
  rw [respond, method, leads]
  simp only [dispatch, method, read, onEntry, value]

theorem respond_remove (method : r.method = .delete) (named : r.Names v) (ne : v.toList ≠ [])
    (s : σ) (now : Instant) : respond s now r = settle s (remove s v) := by
  obtain ⟨segment, leads, value⟩ := named.entry ne
  rw [respond, method, leads]
  simp only [dispatch, method, onEntry, value]

theorem respond_create (method : r.method = .post) (leads : Route.ofPath? r.path = some .collection)
    (s : σ) (now : Instant) : respond s now r = settle s (create s now r) := by
  rw [respond, method, leads]
  simp only [dispatch, method]

theorem isGone_of_absent (faithful : Store.Faithful R) (h : R m s) (ne : v.toList ≠ [])
    (absent : m.find? (Record.idOf v) = none) : IsGone s v := by
  have free : m.has (Record.idOf v) = false := by
    rw [Memory.has_eq, absent]
    rfl
  constructor
  · intro now r method named
    rw [respond_fetch method named ne]
    simp only [fetch, faithful.get h, absent, stored, Except.mapError, bind, Except.bind]
    rfl
  · intro now r method named
    obtain ⟨s', done, _⟩ := faithful.delete h (Record.idOf v)
    rw [respond_remove method named ne]
    simp only [remove, done, free, stored, Except.mapError, bind, Except.bind]
    rfl
  · intro now r plain method leads posted
    have fits := Posting.fitsTable posted plain
    obtain ⟨s', done, _⟩ := faithful.put_free h fits free
    refine ⟨_, Record.isShownBy_toJson fits.isCounted, ?_⟩
    rw [respond_create method leads]
    simp only [create, posted, done, stored, Except.mapError, bind, Except.bind]
    rfl

theorem isFound_of_stored (faithful : Store.Faithful R) (h : R m s) (ne : v.toList ≠ [])
    (counted : (Properties.ofText v).IsCounted)
    (held : m.find? (Record.idOf v) = some (Record.ofText v now)) :
    IsFound s (Record.ofText v now) := by
  have taken : m.has (Record.idOf v) = true := by
    rw [Memory.has_eq, held]
    rfl
  obtain ⟨s', done, related⟩ := faithful.delete h (Record.idOf v)
  have absent : (m.erase (Record.idOf v)).find? (Record.idOf v) = none := by
    rw [Store.find?_erase, if_pos rfl]
  refine ⟨?_, s', isGone_of_absent faithful related ne absent, ?_⟩
  · intro later r method named
    refine ⟨_, Record.isShownBy_toJson counted, ?_⟩
    rw [respond_fetch method named ne]
    simp only [fetch, Record.ofText, faithful.get h, held, stored, Except.mapError, bind,
      Except.bind]
    rfl
  · intro later r method named
    rw [respond_remove method named ne]
    simp only [remove, Record.ofText, done, taken, stored, Except.mapError, bind, Except.bind]
    rfl

/-! ## Runs -/

theorem value_of_subject (method : r.method = .post) (subject : r.subject? = some v) :
    Posting.value r = .ok v := by
  rw [Request.subject?, method] at subject
  split at subject
  · cases posted : Posting.value r with
    | error e =>
      rw [posted] at subject
      cases subject
    | ok w =>
      rw [posted] at subject
      cases subject
      rfl
  · rename_i impossible _
    cases impossible
  · cases subject

/-- A posted text that is answered with the status 201 is stored. -/
theorem found_of_created (faithful : Store.Faithful R) (h : R m s) (plain : now.HasPlainYear)
    (method : r.method = .post) (status : (respond s now r).1.status = 201) :
    ∃ v, Posting.value r = .ok v ∧ isCatalogable v = true ∧
      IsFound (respond s now r).2 (Record.ofText v now) := by
  obtain ⟨m', change⟩ := respond_change (r := r) faithful h plain
  generalize respond s now r = x at *
  obtain ⟨a, s'⟩ := x
  cases change with
  | nothing quiet => exact absurd status quiet.1
  | removed v status' =>
    rw [status'] at status
    cases status
  | added v _ subject catalogable free related =>
    have ne : v.toList ≠ [] := List.ne_nil_of_length_pos (length_pos_of_catalogable catalogable)
    have posted := value_of_subject method subject
    have counted := (Posting.fitsTable posted plain).isCounted
    refine ⟨v, posted, catalogable, isFound_of_stored faithful related ne counted ?_⟩
    rw [Store.find?_cons free]
    exact if_pos rfl

/-- Where a request is answered with the status 201, its text is found from then on. -/
def Finds (s : σ) (now : Instant) (r : Request) : Prop :=
  (respond s now r).1.status = 201 → ∃ v, Posting.value r = .ok v ∧ isCatalogable v = true ∧
    IsFound (respond s now r).2 (Record.ofText v now)

/--
After any run on an empty store of either kind, a text that is posted and stored can be fetched and
removed under its address, in every spelling of it, and can then be posted again.
-/
theorem serve_found {run : List (Instant × Request)} (plain : ∀ e ∈ run, e.1.HasPlainYear)
    (plainNow : now.HasPlainYear) (method : r.method = .post) :
    Finds (serve Memory.empty run).2 now r ∧ Finds (serve Database.fresh run).2 now r := by
  obtain ⟨m, memory⟩ := serve_related Store.faithful_memory rfl plain
  obtain ⟨m', table⟩ := serve_related Store.faithful_table Store.mirrors_fresh plain
  exact ⟨found_of_created Store.faithful_memory memory plainNow method,
    found_of_created Store.faithful_table table plainNow method⟩

def levelUp : Request :=
  ⟨.post, "/strings", some "application/json", "\x7b\"value\": \"Level up\"\x7d", []⟩

/-- Its address, with more escapes than it needs. -/
def fetchLevelUp : Request := ⟨.get, "/strings/%4cevel%20u%70", none, "", []⟩

theorem names_levelUp : fetchLevelUp.Names "Level up" := by
  have up : Percent.Spells "u%70".toList (Utf8.encode "up".toList) :=
    .letter rfl (@Percent.Spells.escape '7' '0' 7 0 _ _ rfl rfl .nil)
  have evel : Percent.Spells "evel%20u%70".toList (Utf8.encode "evel up".toList) :=
    .letter rfl (.letter rfl (.letter rfl (.letter rfl
      (@Percent.Spells.escape '2' '0' 2 0 _ _ rfl rfl up))))
  exact ⟨_, @Percent.Spells.escape '4' 'c' 4 12 _ _ rfl rfl evel, by decide⟩

/-- The text is not found before it is posted, and found then. -/
theorem serve_found_level_up :
    let s := (serve Database.fresh [(.epoch, fetchLevelUp)]).2
    Finds (serve Memory.empty [(.epoch, fetchLevelUp)]).2 Store.leapInstant levelUp ∧
      (respond s Store.leapInstant levelUp).1.status = 201 ∧
      ∃ j, respond (respond s Store.leapInstant levelUp).2 .epoch fetchLevelUp =
          (⟨200, .json j⟩, (respond s Store.leapInstant levelUp).2) ∧
        j.compact =
          "\x7b\"id\":\"46538b55589ecd2137e732021fb4ee1179c60c3278c40dc0cf931e2868bcab03\"," ++
          "\"value\":\"Level up\",\"properties\":\x7b\"length\":8,\"is_palindrome\":false," ++
          "\"unique_characters\":6,\"word_count\":2,\"sha256_hash\":" ++
          "\"46538b55589ecd2137e732021fb4ee1179c60c3278c40dc0cf931e2868bcab03\"," ++
          "\"character_frequency_map\":\x7b" ++
          "\"L\":1,\"e\":2,\"l\":1,\"p\":1,\"u\":1,\"v\":1\x7d\x7d," ++
          "\"created_at\":\"2016-12-31T23:59:60.500Z\"\x7d" := by
  intro s
  have plain : ∀ e ∈ [((.epoch : Instant), fetchLevelUp)], e.1.HasPlainYear := by decide
  have year : Store.leapInstant.HasPlainYear := by decide
  obtain ⟨memory, table⟩ := serve_found (r := levelUp) plain year rfl
  have status : (respond s Store.leapInstant levelUp).1.status = 201 := by decide +kernel
  obtain ⟨v, posted, _, found⟩ := table status
  have same : v = "Level up" := by
    have value : (Posting.value levelUp).toOption = some "Level up" := by decide +kernel
    rw [posted] at value
    exact Option.some.inj value
  subst same
  obtain ⟨j, shown, answer⟩ := found.fetched .epoch fetchLevelUp rfl names_levelUp
  refine ⟨memory, status, j, answer, ?_⟩
  rw [shown.members]
  decide +kernel

end Service
end TextCatalog
