import Mathlib.Data.List.Sort
import SchemaMigration.Proofs.History.Status

/-!
# The status and the comparison say the same

`versions_statusEntries`  : the versions of the entries of one kind, from what is known of one version.
`pending_statusEntries`   : the pending entries are those of the pending migrations, in order.
`drifted_statusEntries`   : the drifted entries have the versions of the drifted migrations, in order.
`skipped_statusEntries`   : there are as many entries with a file and a record as migrations with a record.
`mem_missing_statusEntries` : the missing entries have the versions of the missing records.

The status is put together from the files and the records by version, and the comparison goes through the files and the
records one by one. Both come in ascending order, so they agree if they agree on each version. Nothing is said here of
the records: a version may be recorded several times.
-/

namespace SchemaMigration

set_option autoImplicit false

/-! ## Kinds of states -/

namespace State

/-- Whether the version was applied with another text. -/
def isDrifted : State → Bool
  | drifted _ => true
  | _ => false

/-- Whether the version was applied and has a file no more. -/
def isMissing : State → Bool
  | missing _ => true
  | _ => false

/-- Whether the version was applied and has a file, be it the one that was applied or not. -/
def isSkipped : State → Bool
  | applied _ | drifted _ => true
  | _ => false

end State

theorem Record.state_entry_ne_pending (set : MigrationSet) (r : Record) : (r.entry set).state ≠ .pending := by
  unfold Record.entry
  cases set.get? r.version with
  | none => simp
  | some m => by_cases h : m.checksum = r.checksum <;> simp [h]

theorem Record.isMissing_entry {set : MigrationSet} {r : Record} :
    (r.entry set).state.isMissing = true ↔ set.get? r.version = none := by
  unfold Record.entry
  cases set.get? r.version with
  | none => simp [State.isMissing]
  | some m => by_cases h : m.checksum = r.checksum <;> simp [h, State.isMissing]

/-! ## One version -/

variable {set : MigrationSet} {records : List Record} {v : Version}

theorem lastRecord?_eq_some {r : Record} (h : lastRecord? records v = some r) : r ∈ records ∧ r.version = v :=
  ⟨List.mem_reverse.1 (List.mem_of_find?_eq_some h), by simpa using List.find?_some h⟩

theorem lastRecord?_eq_none : lastRecord? records v = none ↔ ∀ r ∈ records, r.version ≠ v := by
  simp [lastRecord?]

/-- A version has an entry of one kind if its last record, or else its file, makes it so. -/
theorem exists_statusEntry_iff (kind : State → Bool) :
    (∃ y ∈ statusEntries set records, kind y.state = true ∧ y.version = v) ↔
      match lastRecord? records v with
      | some r => kind (r.entry set).state = true
      | none => kind .pending = true ∧ ∃ m ∈ set.toList, m.version = v := by
  cases hlast : lastRecord? records v with
  | some r =>
    obtain ⟨-, rfl⟩ := lastRecord?_eq_some hlast
    constructor
    · rintro ⟨y, hy, hkind, hversion⟩
      rw [mem_statusEntries, hversion, hlast] at hy
      obtain rfl : y = r.entry set := hy
      exact hkind
    · intro hkind
      refine ⟨r.entry set, mem_statusEntries.2 ?_, hkind, rfl⟩
      rw [Record.version_entry, hlast]
  | none =>
    constructor
    · rintro ⟨y, hy, hkind, rfl⟩
      rw [mem_statusEntries, hlast] at hy
      obtain ⟨m, hm, rfl⟩ := hy
      exact ⟨hkind, m, MigrationSet.get?_eq_some.1 hm⟩
    · rintro ⟨hkind, m, hm, rfl⟩
      refine ⟨m.entry, mem_statusEntries.2 ?_, hkind, rfl⟩
      rw [Migration.version_entry, hlast]
      exact ⟨m, MigrationSet.get?_eq_some.2 ⟨hm, rfl⟩, rfl⟩

/-! ## All versions -/

instance : Std.Irrefl fun x y : StatusEntry => x.version < y.version := ⟨fun x => UInt64.lt_irrefl x.version⟩

instance : Std.Antisymm fun x y : StatusEntry => x.version < y.version :=
  ⟨fun _ _ hxy hyx => absurd hyx (UInt64.lt_asymm hxy)⟩

/-- What comes in ascending order is known by what it holds. -/
theorem versions_statusEntries (kind : State → Bool) {vs : List Version} (hvs : vs.Pairwise (· < ·))
    (h : ∀ v, (∃ y ∈ statusEntries set records, kind y.state = true ∧ y.version = v) ↔ v ∈ vs) :
    ((statusEntries set records).filter (kind ·.state)).map (·.version) = vs := by
  refine List.Pairwise.eq_of_mem_iff (r := (· < ·)) ?_ hvs fun v => ?_
  · exact List.pairwise_map.2 ((ascending_statusEntries set records).filter _)
  · rw [← h v]
    simp [and_assoc]

theorem ascending_versions (p : Migration → Bool) : ((set.toList.filter p).map (·.version)).Pairwise (· < ·) :=
  List.pairwise_map.2 (set.ascending.filter p)

/-- An entry is pending if its version has a file and no record. -/
theorem mem_pending_statusEntries {y : StatusEntry} :
    y ∈ statusEntries set records ∧ y.state = .pending ↔
      ∃ m ∈ set.toList, lastRecord? records m.version = none ∧ y = m.entry := by
  constructor
  · rintro ⟨hy, hstate⟩
    rw [mem_statusEntries] at hy
    cases hlast : lastRecord? records y.version with
    | some r =>
      rw [hlast] at hy
      obtain rfl : y = r.entry set := hy
      exact absurd hstate (Record.state_entry_ne_pending set r)
    | none =>
      rw [hlast] at hy
      obtain ⟨m, hm, rfl⟩ := hy
      exact ⟨m, (MigrationSet.get?_eq_some.1 hm).1, hlast, rfl⟩
  · rintro ⟨m, hm, hlast, rfl⟩
    refine ⟨mem_statusEntries.2 ?_, rfl⟩
    rw [Migration.version_entry, hlast]
    exact ⟨m, MigrationSet.get?_eq_some.2 ⟨hm, rfl⟩, rfl⟩

/-- The pending entries are those of the pending migrations, in order. -/
theorem pending_statusEntries (set : MigrationSet) (records : List Record) :
    (statusEntries set records).filter (·.state == .pending) = (Diff.of set records).pending.map Migration.entry := by
  refine ((ascending_statusEntries set records).filter _).eq_of_mem_iff ?_ fun y => ?_
  · exact List.pairwise_map.2 (set.ascending.filter _)
  · have hpending : y ∈ (Diff.of set records).pending.map Migration.entry ↔
        ∃ m ∈ set.toList, lastRecord? records m.version = none ∧ y = m.entry := by
      simp only [Diff.of, Migration.isPending, List.mem_map, List.mem_filter, Option.isNone_iff_eq_none, and_assoc,
        @eq_comm _ y]
    rw [hpending, ← mem_pending_statusEntries, List.mem_filter, beq_iff_eq]

/-- Entries of a kind that takes a file and a record have the versions of the migrations that have such a record. -/
theorem versions_of_kind {kind : State → Bool} {p : Migration → Bool} (hpending : kind .pending = false)
    (hmissing : ∀ since, kind (.missing since) = false)
    (h : ∀ m ∈ set.toList, p m = (lastRecord? records m.version).any fun r => kind (r.entry set).state) :
    ((statusEntries set records).filter (kind ·.state)).map (·.version) = (set.toList.filter p).map (·.version) := by
  refine versions_statusEntries kind (ascending_versions p) fun v => ?_
  rw [exists_statusEntry_iff, List.mem_map]
  simp only [List.mem_filter]
  cases hlast : lastRecord? records v with
  | none =>
    refine iff_of_false (by simp [hpending]) ?_
    rintro ⟨m, ⟨hm, hp⟩, rfl⟩
    simp [h m hm, hlast] at hp
  | some r =>
    constructor
    · intro hkind
      cases hfile : set.get? r.version with
      | none => simp [Record.entry, hfile, hmissing] at hkind
      | some m =>
        obtain ⟨hm, hversion⟩ := MigrationSet.get?_eq_some.1 hfile
        have hv : m.version = v := hversion.trans (lastRecord?_eq_some hlast).2
        exact ⟨m, ⟨hm, by simp [h m hm, hv, hlast, hkind]⟩, hv⟩
    · rintro ⟨m, ⟨hm, hp⟩, rfl⟩
      simpa [h m hm, hlast] using hp

/-- The drifted entries have the versions of the drifted migrations, in order. -/
theorem drifted_statusEntries (set : MigrationSet) (records : List Record) :
    ((statusEntries set records).filter (·.state.isDrifted)).map (·.version) =
      (Diff.of set records).drifted.map (·.version) := by
  refine versions_of_kind rfl (fun _ => rfl) fun m hm => ?_
  unfold Migration.isDrifted
  cases hlast : lastRecord? records m.version with
  | none => rfl
  | some r =>
    have hfile : set.get? r.version = some m := MigrationSet.get?_eq_some.2 ⟨hm, (lastRecord?_eq_some hlast).2.symm⟩
    by_cases hsame : m.checksum = r.checksum <;> simp [Record.entry, hfile, State.isDrifted, hsame, Ne.symm]

/-- There are as many entries with a file and a record as migrations with a record. -/
theorem skipped_statusEntries (set : MigrationSet) (records : List Record) :
    ((statusEntries set records).filter (·.state.isSkipped)).length = (Diff.of set records).skipped := by
  have hversions : ((statusEntries set records).filter (·.state.isSkipped)).map (·.version) =
      (set.toList.filter fun m => !m.isPending records).map (·.version) := by
    refine versions_of_kind rfl (fun _ => rfl) fun m hm => ?_
    unfold Migration.isPending
    cases hlast : lastRecord? records m.version with
    | none => rfl
    | some r =>
      have hfile : set.get? r.version = some m := MigrationSet.get?_eq_some.2 ⟨hm, (lastRecord?_eq_some hlast).2.symm⟩
      by_cases hsame : m.checksum = r.checksum <;> simp [Record.entry, hfile, State.isSkipped, hsame]
  have hlength := congrArg List.length hversions
  rw [List.length_map, List.length_map] at hlength
  rw [hlength, Diff.of, List.countP_eq_length_filter]

/-- The missing entries have the versions of the missing records. -/
theorem mem_missing_statusEntries :
    v ∈ ((statusEntries set records).filter (·.state.isMissing)).map (·.version) ↔
      v ∈ (Diff.of set records).missing.map (·.version) := by
  have hentry : v ∈ ((statusEntries set records).filter (·.state.isMissing)).map (·.version) ↔
      ∃ y ∈ statusEntries set records, y.state.isMissing = true ∧ y.version = v := by
    simp [and_assoc]
  rw [hentry, exists_statusEntry_iff]
  simp only [Diff.of, List.mem_map, List.mem_filter, Option.isNone_iff_eq_none]
  cases hlast : lastRecord? records v with
  | none =>
    refine iff_of_false (by simp [State.isMissing]) ?_
    rintro ⟨r, ⟨hr, -⟩, hversion⟩
    exact lastRecord?_eq_none.1 hlast r hr hversion
  | some r =>
    obtain ⟨hr, rfl⟩ := lastRecord?_eq_some hlast
    change (r.entry set).state.isMissing = true ↔ _
    rw [Record.isMissing_entry]
    constructor
    · intro hfile
      exact ⟨r, ⟨hr, hfile⟩, rfl⟩
    · rintro ⟨x, ⟨-, hfile⟩, hversion⟩
      exact hversion ▸ hfile

end SchemaMigration
