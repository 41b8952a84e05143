import Mathlib.Data.Set.Card
import SchemaMigration.Proofs.History.Agreement
import SchemaMigration.Proofs.Run.Pending

/-!
# What the comparison and the status say

`IsLastRecord`     : the record that counts for a version, said of its place among the records.
`Diff.Compares`    : what each part of a comparison has in it.
`StatusAgrees`     : what the status has in it, against the comparison and the records.
`compares_and_agrees` : the comparison and the status are so for every set and all records.

Nothing is asked of the records: they come in any order, and a version may be recorded several times.
-/

namespace SchemaMigration

set_option autoImplicit false

/-! ## Vocabulary -/

/-- The record has the version, and no record behind it does. -/
def IsLastRecord (records : List Record) (v : Version) (r : Record) : Prop :=
  r.version = v ∧ ∃ before after, records = before ++ r :: after ∧ ∀ x ∈ after, x.version ≠ v

/-- What each part of a comparison has in it. -/
structure Diff.Compares (d : Diff) (set : MigrationSet) (records : List Record) : Prop where
  /-- Pending are the migrations that have no record. -/
  ascending_pending : Ascending d.pending
  pending : ∀ m, m ∈ d.pending ↔ m ∈ set.toList ∧ ¬∃ r, IsLastRecord records m.version r
  /-- Drifted are those whose last record has another checksum. -/
  ascending_drifted : Ascending d.drifted
  drifted : ∀ m, m ∈ d.drifted ↔ m ∈ set.toList ∧ ∃ r, IsLastRecord records m.version r ∧ m.checksum ≠ r.checksum
  skipped : d.skipped = Set.ncard {m | m ∈ set.toList ∧ ∃ r, IsLastRecord records m.version r}
  size : d.pending.length + d.skipped = set.size
  /-- The missing records keep their order and come as often as they are there. -/
  missing : d.missing = records.filter fun r => r.version ∉ set.toList.map (·.version)
  /-- Out of order are the first pending versions, up to the highest one recorded. -/
  outOfOrder_first : d.outOfOrder <+: d.pending.map (·.version)
  outOfOrder : ∀ v, v ∈ d.outOfOrder ↔
    v ∈ d.pending.map (·.version) ∧ ∃ r ∈ records, (∀ x ∈ records, x.version ≤ r.version) ∧ v < r.version

/-- What the status has in it, against the comparison and the records. -/
structure StatusAgrees (es : List StatusEntry) (d : Diff) (set : MigrationSet) (records : List Record) : Prop where
  ascending : AscendingEntries es
  versions : ∀ v, v ∈ es.map (·.version) ↔ v ∈ set.toList.map (·.version) ∨ v ∈ records.map (·.version)
  pending : es.filter (·.state == .pending) = d.pending.map Migration.entry
  drifted : (es.filter (·.state.isDrifted)).map (·.version) = d.drifted.map (·.version)
  /-- Each missing version has one entry. -/
  missing : ((es.filter (·.state.isMissing)).map (·.version)).Pairwise (· < ·) ∧
    ∀ v, v ∈ (es.filter (·.state.isMissing)).map (·.version) ↔ v ∈ d.missing.map (·.version)
  skipped : (es.filter (·.state.isSkipped)).length = d.skipped
  /-- What is not pending is told of the last record. -/
  recorded : ∀ y ∈ es, y.state ≠ .pending →
    ∃ r, IsLastRecord records y.version r ∧ y.name = r.name ∧ y.state.since? = some r.appliedAt

/-! ## The last record -/

variable {set : MigrationSet} {records : List Record} {v : Version}

theorem lastRecord?_iff {r : Record} : lastRecord? records v = some r ↔ IsLastRecord records v r := by
  rw [lastRecord?, List.find?_eq_some_iff_append, IsLastRecord]
  simp only [beq_iff_eq]
  refine and_congr_right fun _ => ⟨?_, ?_⟩
  · rintro ⟨behind, front, hrecords, hbehind⟩
    refine ⟨front.reverse, behind.reverse, ?_, ?_⟩
    · rw [← List.reverse_reverse records, hrecords]
      simp
    · intro x hx
      simpa using hbehind x (List.mem_reverse.1 hx)
  · rintro ⟨front, behind, rfl, hbehind⟩
    refine ⟨behind.reverse, front.reverse, by simp, ?_⟩
    intro x hx
    simpa using hbehind x (List.mem_reverse.1 hx)

theorem isPending_iff {m : Migration} : m.isPending records = true ↔ ¬∃ r, IsLastRecord records m.version r := by
  simp only [← lastRecord?_iff]
  unfold Migration.isPending
  cases lastRecord? records m.version <;> simp

theorem isDrifted_iff {m : Migration} :
    m.isDrifted records = true ↔ ∃ r, IsLastRecord records m.version r ∧ m.checksum ≠ r.checksum := by
  simp only [← lastRecord?_iff]
  unfold Migration.isDrifted
  cases lastRecord? records m.version <;> simp [@eq_comm _ m.checksum]

/-! ## The parts of the comparison -/

theorem MigrationSet.isNone_get? : (set.get? v).isNone = decide (v ∉ set.toList.map (·.version)) := by
  rw [get?, Bool.eq_iff_iff]
  simp

/-- The number of migrations of a kind, each of which is there once. -/
theorem MigrationSet.countP_eq_ncard (p : Migration → Bool) :
    set.toList.countP p = Set.ncard {m | m ∈ set.toList ∧ p m = true} := by
  have hset : {m | m ∈ set.toList ∧ p m = true} = ((set.toList.filter p).toFinset : Set Migration) := by
    ext m
    simp
  have hnodup : (set.toList.filter p).Nodup := (List.Nodup.of_map _ set.ascending.nodup).filter p
  rw [hset, Set.ncard_coe_finset, List.toFinset_card_of_nodup hnodup, List.countP_eq_length_filter]

theorem skipped_eq_ncard :
    (Diff.of set records).skipped = Set.ncard {m | m ∈ set.toList ∧ ∃ r, IsLastRecord records m.version r} := by
  have hrecorded (m : Migration) : (!m.isPending records) = true ↔ ∃ r, IsLastRecord records m.version r := by
    rw [Bool.not_eq_true', ← Bool.not_eq_true, isPending_iff, not_not]
  rw [Diff.of, MigrationSet.countP_eq_ncard]
  simp only [hrecorded]

/-- The greater of two versions is the least above both. -/
instance : Std.LawfulOrderMax Version where
  max_eq_or a b := by
    change (if a ≤ b then b else a) = a ∨ (if a ≤ b then b else a) = b
    split
    · exact .inr rfl
    · exact .inl rfl
  max_le_iff a b c := by
    change (if a ≤ b then b else a) ≤ c ↔ _
    split
    · next h => exact iff_and_self.2 (UInt64.le_trans h)
    · next h =>
      have hba : b ≤ a := UInt64.le_of_lt (UInt64.not_le.1 h)
      exact iff_self_and.2 (UInt64.le_trans hba)

/-- Being out of order is lying below the highest record, if there is one. -/
theorem isOutOfOrder_iff :
    isOutOfOrder records v = true ↔ ∃ r ∈ records, (∀ x ∈ records, x.version ≤ r.version) ∧ v < r.version := by
  unfold isOutOfOrder
  cases hhighest : highestVersion? records with
  | none =>
    obtain rfl : records = [] := by simpa [highestVersion?] using hhighest
    simp
  | some h =>
    rw [highestVersion?, List.max?_eq_some_iff] at hhighest
    obtain ⟨hmem, hmax⟩ := hhighest
    obtain ⟨r, hr, rfl⟩ := List.mem_map.1 hmem
    have hhigh (x : Record) (hx : x ∈ records) : x.version ≤ r.version := hmax _ (List.mem_map_of_mem hx)
    rw [decide_eq_true_iff]
    constructor
    · intro hlt
      exact ⟨r, hr, hhigh, hlt⟩
    · rintro ⟨x, hx, -, hlt⟩
      exact UInt64.lt_of_lt_of_le hlt (hhigh x hx)

/-- Of what ascends, that which lies below a bound comes first. -/
theorem filter_isOutOfOrder_first {vs : List Version} (h : vs.Pairwise (· < ·)) :
    vs.filter (isOutOfOrder records) <+: vs := by
  induction vs with
  | nil => exact List.nil_prefix
  | cons v vs ih =>
    obtain ⟨hv, hvs⟩ := List.pairwise_cons.1 h
    cases hfirst : isOutOfOrder records v with
    | true =>
      rw [List.filter_cons_of_pos hfirst]
      exact (List.prefix_cons_inj v).2 (ih hvs)
    | false =>
      -- if the first one is not below the bound, the later ones are not either
      have hnone : (v :: vs).filter (isOutOfOrder records) = [] := by
        refine List.filter_eq_nil_iff.2 fun w hw hlow => ?_
        obtain ⟨r, hr, hmax, hlt⟩ := isOutOfOrder_iff.1 hlow
        have hle : v ≤ w := by
          obtain rfl | hw := List.mem_cons.1 hw
          · exact UInt64.le_refl _
          · exact UInt64.le_of_lt (hv w hw)
        have htrue : isOutOfOrder records v = true :=
          isOutOfOrder_iff.2 ⟨r, hr, hmax, UInt64.lt_of_le_of_lt hle hlt⟩
        simp [hfirst] at htrue
      rw [hnone]
      exact List.nil_prefix

theorem compares_diff (set : MigrationSet) (records : List Record) : (Diff.of set records).Compares set records where
  ascending_pending := set.ascending.filter _
  pending m := by rw [Diff.of, List.mem_filter, isPending_iff]
  ascending_drifted := set.ascending.filter _
  drifted m := by rw [Diff.of, List.mem_filter, isDrifted_iff]
  skipped := skipped_eq_ncard
  size := length_pending_add_skipped set records
  missing := by simp only [Diff.of, MigrationSet.isNone_get?]
  outOfOrder_first := filter_isOutOfOrder_first (ascending_versions _)
  outOfOrder v := by rw [Diff.of, List.mem_filter, isOutOfOrder_iff]

/-! ## The parts of the status -/

/-- A version has an entry if it has a file or a record. -/
theorem mem_versions_statusEntries :
    v ∈ (statusEntries set records).map (·.version) ↔
      v ∈ set.toList.map (·.version) ∨ v ∈ records.map (·.version) := by
  have hentry : v ∈ (statusEntries set records).map (·.version) ↔
      ∃ y ∈ statusEntries set records, true = true ∧ y.version = v := by simp
  rw [hentry, exists_statusEntry_iff fun _ => true]
  cases hlast : lastRecord? records v with
  | some r =>
    obtain ⟨hr, hversion⟩ := lastRecord?_eq_some hlast
    exact iff_of_true rfl (.inr (List.mem_map.2 ⟨r, hr, hversion⟩))
  | none =>
    have hnone : v ∉ records.map (·.version) := by simpa using lastRecord?_eq_none.1 hlast
    simp [hnone]

/-- An entry that is not pending is that of a last record. -/
theorem recorded_statusEntries {y : StatusEntry} (hy : y ∈ statusEntries set records) (h : y.state ≠ .pending) :
    ∃ r, IsLastRecord records y.version r ∧ y = r.entry set := by
  rw [mem_statusEntries] at hy
  cases hlast : lastRecord? records y.version with
  | some r =>
    rw [hlast] at hy
    exact ⟨r, lastRecord?_iff.1 hlast, hy⟩
  | none =>
    rw [hlast] at hy
    obtain ⟨m, -, rfl⟩ := hy
    exact absurd rfl h

theorem Record.since?_entry (set : MigrationSet) (r : Record) : (r.entry set).state.since? = some r.appliedAt := by
  unfold Record.entry
  cases set.get? r.version with
  | none => rfl
  | some m => by_cases h : m.checksum = r.checksum <;> simp [h, State.since?]

theorem agrees_statusEntries (set : MigrationSet) (records : List Record) :
    StatusAgrees (statusEntries set records) (Diff.of set records) set records where
  ascending := ascending_statusEntries set records
  versions _ := mem_versions_statusEntries
  pending := pending_statusEntries set records
  drifted := drifted_statusEntries set records
  missing := ⟨List.pairwise_map.2 ((ascending_statusEntries set records).filter _),
    fun _ => mem_missing_statusEntries⟩
  skipped := skipped_statusEntries set records
  recorded y hy hstate := by
    obtain ⟨r, hlast, hentry⟩ := recorded_statusEntries hy hstate
    exact ⟨r, hlast, congrArg StatusEntry.name hentry, hentry ▸ Record.since?_entry set r⟩

/-- The comparison and the status classify the versions as the last records have it, and they agree. -/
theorem compares_and_agrees (set : MigrationSet) (records : List Record) :
    (Diff.of set records).Compares set records ∧
      StatusAgrees (statusEntries set records) (Diff.of set records) set records :=
  ⟨compares_diff set records, agrees_statusEntries set records⟩

end SchemaMigration
