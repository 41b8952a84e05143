import Mathlib.Data.List.Nodup
import SchemaMigration.Migration.Folder

/-!
# What a set is loaded from

`Folder.Holds` : a file of the folder is this migration.
`Entry.Has`    : an entry is the file with this migration.
`mem_load`     : a set that loads has the migrations of the folder's files, and no others.
-/

namespace SchemaMigration

set_option autoImplicit false

/-- A file of the folder is the migration. -/
def Folder.Holds (f : Folder) (m : Migration) : Prop :=
  ∃ es, f.entries = some es ∧ ∃ e ∈ es, ∃ bytes, e.sqlFile? = some bytes ∧ Migration.ofFile e.name bytes = .ok m

/-- The entry is a file with the migration. -/
def Entry.Has (e : Entry) (m : Migration) : Prop :=
  ∃ bytes, e.sqlFile? = some bytes ∧ Migration.ofFile e.name bytes = .ok m

theorem Entry.Has.unique {e : Entry} {m m' : Migration} (h : e.Has m) (h' : e.Has m') : m' = m := by
  obtain ⟨bytes, hfile, hm⟩ := h
  obtain ⟨bytes', hfile', hm'⟩ := h'
  obtain rfl := Option.some.inj (hfile.symm.trans hfile')
  exact Except.ok.inj (hm'.symm.trans hm)

/-- In ascending order no version comes twice. -/
theorem Ascending.nodup {ms : List Migration} (h : Ascending ms) : (ms.map (·.version)).Nodup :=
  List.pairwise_map.2 (h.imp UInt64.ne_of_lt)

/-- Where no version comes twice, what has a version is found by it. -/
theorem find?_eq_some_of_nodup {α : Type} {version : α → Version} {xs : List α} (h : (xs.map version).Nodup)
    {v : Version} {x : α} : xs.find? (version · == v) = some x ↔ x ∈ xs ∧ version x = v := by
  constructor
  · intro hfind
    exact ⟨List.mem_of_find?_eq_some hfind, by simpa using List.find?_some hfind⟩
  · rintro ⟨hx, rfl⟩
    obtain ⟨y, hy⟩ : ∃ y, xs.find? (version · == version x) = some y :=
      Option.isSome_iff_exists.1 (List.find?_isSome.2 ⟨x, hx, beq_self_eq_true _⟩)
    have hversion : version y = version x := by simpa using List.find?_some hy
    rw [hy, List.inj_on_of_nodup_map h (List.mem_of_find?_eq_some hy) hx hversion]

namespace MigrationSet

/-- A version has one migration. -/
theorem get?_eq_some {s : MigrationSet} {v : Version} {m : Migration} :
    s.get? v = some m ↔ m ∈ s.toList ∧ m.version = v :=
  find?_eq_some_of_nodup s.ascending.nodup

/-! ## Entry by entry -/

/-- A migration is put into a set if its version is free. -/
theorem insert_eq_ok {s t : MigrationSet} {m : Migration} :
    s.insert m = .ok t ↔ (s.get? m.version).isNone = true ∧ t.toList = insertSorted m s.toList := by
  unfold insert
  split
  · next h => simp [h]
  · next h =>
    rw [Except.ok.injEq]
    constructor
    · rintro rfl
      exact ⟨Option.isNone_iff_eq_none.2 h, rfl⟩
    · rintro ⟨-, ht⟩
      cases t
      obtain rfl := ht
      rfl

/-- An entry adds its migration, or it is no migration file. -/
theorem addEntry_eq_ok {e : Entry} {s t : MigrationSet} (h : s.addEntry e = .ok t) :
    (∃ m, e.Has m ∧ s.insert m = .ok t) ∨ e.sqlFile? = none ∧ t = s := by
  unfold addEntry at h
  cases hfile : e.sqlFile? with
  | none =>
    rw [hfile] at h
    exact .inr ⟨rfl, (Except.ok.inj h).symm⟩
  | some bytes =>
    simp only [hfile] at h
    cases hm : Migration.ofFile e.name bytes with
    | error f => simp [hm, bind, Except.bind] at h
    | ok m =>
      rw [hm] at h
      exact .inl ⟨m, ⟨bytes, hfile, hm⟩, h⟩

theorem addEntry_of_has {e : Entry} {s : MigrationSet} {m : Migration} (h : e.Has m) : s.addEntry e = s.insert m := by
  obtain ⟨bytes, hfile, hm⟩ := h
  simp only [addEntry, hfile, hm]
  rfl

theorem mem_insert {s t : MigrationSet} {m x : Migration} (h : s.insert m = .ok t) :
    x ∈ t.toList ↔ x = m ∨ x ∈ s.toList := by
  unfold insert at h
  split at h
  · simp at h
  · obtain rfl := Except.ok.inj h
    exact mem_insertSorted

/-- An entry adds its migration, if it is a migration file. -/
theorem mem_addEntry {e : Entry} {s t : MigrationSet} (h : s.addEntry e = .ok t) {m : Migration} :
    m ∈ t.toList ↔
      (∃ bytes, e.sqlFile? = some bytes ∧ Migration.ofFile e.name bytes = .ok m) ∨ m ∈ s.toList := by
  unfold addEntry at h
  cases hfile : e.sqlFile? with
  | none =>
    rw [hfile] at h
    obtain rfl := Except.ok.inj h
    simp
  | some bytes =>
    simp only [hfile] at h
    cases hm : Migration.ofFile e.name bytes with
    | error f => simp [hm, bind, Except.bind] at h
    | ok x =>
      rw [hm] at h
      rw [mem_insert h]
      simp [hm, eq_comm]

theorem mem_foldlM_addEntry {es : List Entry} {s t : MigrationSet} (h : es.foldlM addEntry s = .ok t) {m : Migration} :
    m ∈ t.toList ↔
      (∃ e ∈ es, ∃ bytes, e.sqlFile? = some bytes ∧ Migration.ofFile e.name bytes = .ok m) ∨ m ∈ s.toList := by
  induction es generalizing s with
  | nil =>
    obtain rfl := Except.ok.inj h
    simp
  | cons e es ih =>
    rw [List.foldlM_cons] at h
    cases hs : s.addEntry e with
    | error f => simp [hs, bind, Except.bind] at h
    | ok u =>
      rw [hs] at h
      rw [ih h, mem_addEntry hs, List.exists_mem_cons_iff, or_assoc, or_left_comm]

/-- A set that loads has the migrations of the folder's files. -/
theorem mem_load {f : Folder} {set : MigrationSet} (h : load f = .ok set) {m : Migration} :
    m ∈ set.toList ↔ f.Holds m := by
  unfold load at h
  cases hf : f.entries with
  | none => simp [hf] at h
  | some es =>
    rw [hf] at h
    rw [mem_foldlM_addEntry h]
    simp [Folder.Holds, hf, empty]

end MigrationSet

end SchemaMigration
