import TextCatalog.Proofs.Store.Agreement

/-!
# TextCatalog.Proofs.Store.Faithful

What an answer to a request relies on in a store, for stores of every kind at once.

* `Faithful` — the operations that requests need do what they do on a memory.
* `faithful_memory`, `faithful_table` — they do so on memories and on tables that mirror them.
-/

namespace TextCatalog
namespace Store

variable {σ : Type} [Store σ]

/-- Where `R` relates a memory to a store, the store does what the memory does. -/
structure Faithful (R : Memory → σ → Prop) : Prop where
  put_taken {m : Memory} {s : σ} {r : Record} (h : R m s) (fits : r.FitsTable)
    (taken : m.has r.id = true) : Store.put s r = .error (.alreadyExists r.id)
  put_free {m : Memory} {s : σ} {r : Record} (h : R m s) (fits : r.FitsTable)
    (free : m.has r.id = false) :
    ∃ s', Store.put s r = .ok s' ∧ R ⟨r :: m.records, Memory.cons_distinct free⟩ s'
  get {m : Memory} {s : σ} (h : R m s) (id : String) : Store.get s id = .ok (m.find? id)
  delete {m : Memory} {s : σ} (h : R m s) (id : String) :
    ∃ s', Store.delete s id = .ok (m.has id, s') ∧ R (m.erase id) s'
  query {m : Memory} {s : σ} (h : R m s) (f : Filter) : Store.query s f = .ok (m.query f)

theorem put_taken {m : Memory} {r : Record} (taken : m.has r.id = true) :
    m.put r = .error (.alreadyExists r.id) :=
  dif_neg (by rw [taken]; decide)

theorem put_free {m : Memory} {r : Record} (free : m.has r.id = false) :
    m.put r = .ok ⟨r :: m.records, Memory.cons_distinct free⟩ :=
  dif_pos free

theorem faithful_memory : Faithful (Eq : Memory → Memory → Prop) where
  put_taken := by
    rintro m _ r rfl _ taken
    exact put_taken taken
  put_free := by
    rintro m _ r rfl _ free
    exact ⟨_, put_free free, rfl⟩
  get := by
    rintro m _ rfl id
    rfl
  delete := by
    rintro m _ rfl id
    exact ⟨_, rfl, rfl⟩
  query := by
    rintro m _ rfl f
    rfl

theorem faithful_table : Faithful Mirrors where
  put_taken h fits taken := by
    rcases h.put fits with ⟨_, _, refused⟩ | ⟨m', _, done, _⟩
    · exact congrArg (Except.mapError _) refused
    · rw [put_taken taken] at done
      cases done
  put_free h fits free := by
    rcases h.put fits with ⟨taken, _⟩ | ⟨m', d', done, done', mirrors⟩
    · rw [free] at taken
      cases taken
    · rw [put_free free] at done
      cases done
      exact ⟨d', congrArg (Except.mapError _) done', mirrors⟩
  get h id := congrArg (Except.mapError _) (h.get id)
  delete h id := by
    obtain ⟨d', done, mirrors⟩ := h.delete id
    exact ⟨d', congrArg (Except.mapError _) done, mirrors⟩
  query h f := congrArg (Except.mapError _) (h.query f)

end Store
end TextCatalog
