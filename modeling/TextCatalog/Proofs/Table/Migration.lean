import TextCatalog.Table.Database

/-!
# TextCatalog.Proofs.Table.Migration

What the migrations leave of a database, from whatever they find.

* `Migrated` — which versions are recorded after some migrations, and what became of the records.
* `migrateOne_migrated` — one migration, which needs a list of versions or makes it.
* `foldlM_migrated`, `foldlM_applied` — several of them one after the other, and again.
* `migrate_settles` — all of them: from any database, once or many times.
-/

namespace TextCatalog
namespace Database

variable {d d' d'' : Database} {m : Migration} {ms ns : List Migration}

/-- The versions in the list; none where there is no list. -/
def recorded (d : Database) : List String :=
  match d.versions with
  | none => []
  | some vs => vs.list

theorem recorded_nodup (d : Database) : d.recorded.Nodup := by
  unfold recorded
  split
  · exact List.Pairwise.nil
  · rename_i vs _
    exact vs.nodup

theorem isApplied_iff : d.isApplied m = true ↔ m.version ∈ d.recorded := by
  unfold isApplied recorded
  cases d.versions with
  | none => simp
  | some vs => simp

/-- What some migrations, in any order, make of a database. -/
structure Migrated (ms : List Migration) (d d' : Database) : Prop where
  hasVersions : d.versions.isSome = true → d'.versions.isSome = true
  earlier : d.recorded <:+ d'.recorded
  recorded_iff : ∀ v, v ∈ d'.recorded ↔ v ∈ d.recorded ∨ v ∈ ms.map Migration.version
  kept : ∀ t, d.strings = some t → d'.strings = some t
  created : ∀ t, d.strings = none → d'.strings = some t → t = Table.empty
  strings_iff : d'.strings.isSome = true ↔ d.strings.isSome = true ∨
    .createStrings ∈ ms ∧ Migration.createStrings.version ∉ d.recorded

theorem Migrated.refl (d : Database) : Migrated [] d d where
  hasVersions h := h
  earlier := List.suffix_refl _
  recorded_iff v := by simp
  kept _ h := h
  created t absent present := by
    rw [absent] at present
    cases present
  strings_iff := by simp

theorem Migrated.trans (h : Migrated ms d d') (h' : Migrated ns d' d'') :
    Migrated (ms ++ ns) d d'' where
  hasVersions some_list := h'.hasVersions (h.hasVersions some_list)
  earlier := h.earlier.trans h'.earlier
  recorded_iff v := by
    rw [h'.recorded_iff, h.recorded_iff, List.map_append, List.mem_append, or_assoc]
  kept t present := h'.kept t (h.kept t present)
  created t absent present := by
    cases between : d'.strings with
    | none => exact h'.created t between present
    | some u =>
      have same := h'.kept u between
      rw [same] at present
      cases present
      exact h.created t absent between
  strings_iff := by
    have later : Migration.createStrings.version ∈ d'.recorded ↔
        Migration.createStrings.version ∈ d.recorded ∨ .createStrings ∈ ms := by
      rw [h.recorded_iff, List.mem_map]
      refine or_congr_right ⟨?_, fun mem => ⟨_, mem, rfl⟩⟩
      rintro ⟨m, mem, same⟩
      cases m with
      | createVersions => exact absurd same (by decide)
      | createStrings => exact mem
    rw [h'.strings_iff, h.strings_iff, later, List.mem_append]
    grind

/-! ## One migration -/

theorem migrateOne_applied (h : m.version ∈ d.recorded) : d.migrateOne m = .ok d := by
  rw [migrateOne, if_pos (isApplied_iff.mpr h)]

theorem recorded_of_versions {vs : Versions} (h : d.versions = some vs) : d.recorded = vs.list := by
  rw [recorded, h]

/-- The list of versions is there, or it is made. -/
theorem versions_apply (ready : d.versions.isSome = true ∨ m = .createVersions) :
    ∃ vs, (m.apply d).versions = some vs ∧ vs.list = d.recorded := by
  cases list : d.versions with
  | none =>
    rw [list] at ready
    obtain rfl := ready.resolve_left (by decide)
    refine ⟨_, rfl, ?_⟩
    rw [recorded, list]
    rfl
  | some vs =>
    refine ⟨vs, ?_, (recorded_of_versions list).symm⟩
    cases m with
    | createVersions => simp only [Migration.apply, list, Option.getD_some]
    | createStrings => exact list

/-- A migration that is not recorded is applied, and then it is. -/
theorem migrateOne_missing (ready : d.versions.isSome = true ∨ m = .createVersions)
    (missing : m.version ∉ d.recorded) : ∃ d', d.migrateOne m = .ok d' ∧
      d'.versions.isSome = true ∧ d'.recorded = m.version :: d.recorded ∧
      d'.strings = (m.apply d).strings := by
  obtain ⟨vs, list, same⟩ := versions_apply ready
  have unapplied : ¬d.isApplied m = true := fun applied => missing (isApplied_iff.mp applied)
  rw [← same] at missing ⊢
  refine ⟨⟨some ⟨m.version :: vs.list, List.nodup_cons.mpr ⟨missing, vs.nodup⟩⟩,
    (m.apply d).strings⟩, ?_, rfl, rfl, rfl⟩
  rw [migrateOne, if_neg unapplied]
  simp only [record, list, dif_neg missing]
  rfl

theorem isSome_of_recorded {v : String} (h : v ∈ d.recorded) : d.versions.isSome = true := by
  cases absent : d.versions with
  | none =>
    rw [recorded, absent] at h
    cases h
  | some vs => rfl

theorem migrated_applied (h : m.version ∈ d.recorded) : Migrated [m] d d where
  hasVersions some_list := some_list
  earlier := List.suffix_refl _
  recorded_iff v := by
    simp only [List.map_cons, List.map_nil, List.mem_singleton]
    exact ⟨.inl, fun mem => mem.elim id fun same => same ▸ h⟩
  kept _ present := present
  created := (Migrated.refl d).created
  strings_iff := by
    refine ⟨.inl, fun present => present.elim id ?_⟩
    rintro ⟨created, missing⟩
    rw [List.mem_singleton.mp created] at missing
    exact absurd h missing

theorem migrated_missing (missing : m.version ∉ d.recorded) (list : d'.versions.isSome = true)
    (versions : d'.recorded = m.version :: d.recorded)
    (strings : d'.strings = (m.apply d).strings) :
    Migrated [m] d d' where
  hasVersions _ := list
  earlier := versions ▸ List.suffix_cons _ _
  recorded_iff v := by
    rw [versions, List.map_singleton, List.mem_singleton]
    exact List.mem_cons.trans or_comm
  kept t present := by
    rw [strings]
    cases m with
    | createVersions => exact present
    | createStrings => simp only [Migration.apply, present, Option.getD_some]
  created t absent made := by
    rw [strings] at made
    cases m with
    | createVersions =>
      have made : d.strings = some t := made
      rw [absent] at made
      cases made
    | createStrings =>
      simp only [Migration.apply, absent, Option.getD_none, Option.some.injEq] at made
      exact made.symm
  strings_iff := by
    rw [strings]
    cases m with
    | createVersions => simp [Migration.apply]
    | createStrings => simpa [Migration.apply] using Or.inr missing

theorem migrateOne_migrated (ready : d.versions.isSome = true ∨ m = .createVersions) :
    ∃ d', d.migrateOne m = .ok d' ∧ d'.versions.isSome = true ∧ Migrated [m] d d' := by
  by_cases known : m.version ∈ d.recorded
  · exact ⟨d, migrateOne_applied known, isSome_of_recorded known, migrated_applied known⟩
  · obtain ⟨d', done, list, versions, strings⟩ := migrateOne_missing ready known
    exact ⟨d', done, list, migrated_missing known list versions strings⟩

/-! ## Several migrations -/

theorem foldlM_migrated (ready : d.versions.isSome = true) :
    ∃ d', ms.foldlM migrateOne d = .ok d' ∧ Migrated ms d d' := by
  induction ms generalizing d with
  | nil => exact ⟨d, rfl, .refl d⟩
  | cons m ms ih =>
    obtain ⟨d', first, list, migrated⟩ := migrateOne_migrated (m := m) (.inl ready)
    obtain ⟨d'', later, migrated'⟩ := ih list
    refine ⟨d'', ?_, migrated.trans migrated'⟩
    rw [List.foldlM_cons, first]
    exact later

theorem foldlM_applied (h : ∀ m ∈ ms, m.version ∈ d.recorded) : ms.foldlM migrateOne d = .ok d := by
  induction ms with
  | nil => rfl
  | cons m ms ih =>
    rw [List.foldlM_cons, migrateOne_applied (h m List.mem_cons_self)]
    exact ih fun m' mem => h m' (List.mem_cons_of_mem m mem)

/-- The first migration makes the list of versions that all of them need. -/
theorem migrate_migrated (d : Database) :
    ∃ d', d.migrate = .ok d' ∧ Migrated Migration.all d d' := by
  obtain ⟨d', first, list, migrated⟩ :=
    migrateOne_migrated (d := d) (m := .createVersions) (.inr rfl)
  obtain ⟨d'', later, migrated'⟩ := @foldlM_migrated d' [.createStrings] list
  refine ⟨d'', ?_, migrated.trans migrated'⟩
  rw [migrate, Migration.all, List.foldlM_cons, first]
  exact later

theorem Migrated.migrate_again (h : Migrated Migration.all d d') : d'.migrate = .ok d' :=
  foldlM_applied fun m mem => (h.recorded_iff m.version).mpr (.inr (List.mem_map_of_mem mem))

/-- All migrations, so many times. -/
def migrateTimes : Nat → Database → Except TableError Database
  | 0, d => .ok d
  | n + 1, d => d.migrate >>= migrateTimes n

theorem migrateTimes_of_migrate (h : d.migrate = .ok d) (n : Nat) : migrateTimes n d = .ok d := by
  induction n with
  | zero => rfl
  | succ n ih =>
    rw [migrateTimes, h]
    exact ih

/--
From any database the migrations succeed. They leave the recorded versions and their own, each once,
and all records; a table is there afterwards if it was before, or if no migration was recorded to
have made it. Done again they change nothing.
-/
theorem migrate_settles (d : Database) : ∃ d', d.migrate = .ok d' ∧
    (∀ v, v ∈ d'.recorded ↔ v ∈ d.recorded ∨ v = "000" ∨ v = "001") ∧ d'.recorded.Nodup ∧
    (∀ t, d.strings = some t → d'.strings = some t) ∧
    (∀ t, d.strings = none → d'.strings = some t → t = Table.empty) ∧
    (d'.strings.isSome = true ↔ d.strings.isSome = true ∨ "001" ∉ d.recorded) ∧
    ∀ n, migrateTimes n d' = .ok d' := by
  obtain ⟨d', done, migrated⟩ := migrate_migrated d
  refine ⟨d', done, fun v => ?_, recorded_nodup d', migrated.kept, migrated.created, ?_,
    migrateTimes_of_migrate migrated.migrate_again⟩
  · rw [migrated.recorded_iff, Migration.all]
    simp only [List.map_cons, List.map_nil, List.mem_cons, List.not_mem_nil, or_false]
    rfl
  · rw [migrated.strings_iff]
    exact or_congr_right (and_iff_right (by decide))

example : migrate ⟨none, none⟩ = .ok fresh := rfl

/-- The table was dropped after its migration, of which alone a version is recorded. -/
theorem migrate_settles_dropped :
    ∃ d', Database.migrate ⟨some ⟨["002", "001"], by decide⟩, none⟩ = .ok d' ∧
      "000" ∈ d'.recorded ∧ "002" ∈ d'.recorded ∧ d'.strings.isSome = false ∧
      d'.migrate = .ok d' := by
  obtain ⟨d', done, versions, _, _, _, strings, again⟩ :=
    migrate_settles ⟨some ⟨["002", "001"], by decide⟩, none⟩
  refine ⟨d', done, (versions _).mpr (by decide), (versions _).mpr (by decide), ?_, ?_⟩
  · exact Bool.eq_false_iff.mpr fun present => absurd (strings.mp present) (by decide)
  · have once := again 1
    rw [migrateTimes] at once
    cases answer : d'.migrate with
    | error e =>
      rw [answer] at once
      cases once
    | ok d'' =>
      rw [answer] at once
      exact once

end Database
end TextCatalog
