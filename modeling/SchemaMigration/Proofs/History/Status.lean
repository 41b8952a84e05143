import Mathlib.Data.List.Induction
import SchemaMigration.History.Status
import SchemaMigration.Proofs.Migration.Load

/-!
# The entries of the status

`mem_putEntries`    : of several entries of one version the last one counts.
`mem_statusEntries` : which entries the status has, by the last record and the migration of a version.
`ascending_statusEntries` : they come in strictly ascending order.
-/

namespace SchemaMigration

set_option autoImplicit false

/-- Versions go up strictly along the entries. -/
def AscendingEntries (es : List StatusEntry) : Prop := es.Pairwise (·.version < ·.version)

@[simp] theorem Migration.version_entry (m : Migration) : m.entry.version = m.version := rfl

@[simp] theorem Record.version_entry (set : MigrationSet) (r : Record) : (r.entry set).version = r.version := rfl

/-! ## One entry -/

theorem mem_putEntry {e x : StatusEntry} {es : List StatusEntry} (h : AscendingEntries es) :
    x ∈ putEntry e es ↔ x = e ∨ x ∈ es ∧ x.version ≠ e.version := by
  induction es with
  | nil => simp [putEntry]
  | cons y ys ih =>
    obtain ⟨hy, hys⟩ := List.pairwise_cons.1 h
    unfold putEntry
    split
    · next hlt =>
      -- all entries behind come later than `e`
      have hlater (z : StatusEntry) (hz : z ∈ y :: ys) : z.version ≠ e.version := by
        obtain rfl | hz := List.mem_cons.1 hz
        · exact (UInt64.ne_of_lt hlt).symm
        · exact (UInt64.ne_of_lt (UInt64.lt_trans hlt (hy z hz))).symm
      rw [List.mem_cons]
      exact or_congr_right (iff_self_and.2 (hlater x))
    · next hge =>
      split
      · next heq =>
        have heq : e.version = y.version := by simpa using heq
        rw [List.mem_cons, List.mem_cons]
        refine or_congr_right ⟨fun hx => ⟨.inr hx, ?_⟩, ?_⟩
        · rw [heq]
          exact (UInt64.ne_of_lt (hy x hx)).symm
        · rintro ⟨rfl | hx, hne⟩
          · exact absurd heq.symm hne
          · exact hx
      · next hne =>
        have hne : y.version ≠ e.version := fun heq => hne (beq_iff_eq.2 heq.symm)
        rw [List.mem_cons, ih hys, List.mem_cons]
        constructor
        · rintro (rfl | rfl | ⟨hx, hxe⟩)
          · exact .inr ⟨.inl rfl, hne⟩
          · exact .inl rfl
          · exact .inr ⟨.inr hx, hxe⟩
        · rintro (rfl | ⟨rfl | hx, hxe⟩)
          · exact .inr (.inl rfl)
          · exact .inl rfl
          · exact .inr (.inr ⟨hx, hxe⟩)

theorem ascending_putEntry {e : StatusEntry} {es : List StatusEntry} (h : AscendingEntries es) :
    AscendingEntries (putEntry e es) := by
  induction es with
  | nil => exact List.pairwise_singleton _ _
  | cons y ys ih =>
    obtain ⟨hy, hys⟩ := List.pairwise_cons.1 h
    unfold putEntry
    split
    · next hlt =>
      refine List.pairwise_cons.2 ⟨fun z hz => ?_, h⟩
      obtain rfl | hz := List.mem_cons.1 hz
      · exact hlt
      · exact UInt64.lt_trans hlt (hy z hz)
    · next hge =>
      split
      · next heq =>
        have heq : e.version = y.version := by simpa using heq
        exact List.pairwise_cons.2 ⟨fun z hz => heq ▸ hy z hz, hys⟩
      · next hne =>
        have hlt : y.version < e.version :=
          UInt64.lt_of_le_of_ne (UInt64.not_lt.1 hge) fun heq => hne (beq_iff_eq.2 heq.symm)
        refine List.pairwise_cons.2 ⟨fun z hz => ?_, ih hys⟩
        obtain rfl | ⟨hz, -⟩ := (mem_putEntry hys).1 hz
        · exact hlt
        · exact hy z hz

/-! ## Several entries -/

section

variable {α : Type} (entry : α → StatusEntry)

/-- The entries with those of the list put in one after another. -/
def putEntries (xs : List α) (es : List StatusEntry) : List StatusEntry :=
  xs.foldl (fun es x => putEntry (entry x) es) es

theorem putEntries_concat (xs : List α) (x : α) (es : List StatusEntry) :
    putEntries entry (xs ++ [x]) es = putEntry (entry x) (putEntries entry xs es) := by
  rw [putEntries, List.foldl_append]
  rfl

theorem ascending_putEntries (xs : List α) {es : List StatusEntry} (h : AscendingEntries es) :
    AscendingEntries (putEntries entry xs es) := by
  induction xs using List.reverseRecOn with
  | nil => exact h
  | append_singleton xs x ih =>
    rw [putEntries_concat]
    exact ascending_putEntry ih

/-- Of the entries that are put in, the last one of a version counts. -/
theorem mem_putEntries (xs : List α) {es : List StatusEntry} (h : AscendingEntries es) {y : StatusEntry} :
    y ∈ putEntries entry xs es ↔
      match xs.reverse.find? fun x => (entry x).version == y.version with
      | some x => y = entry x
      | none => y ∈ es := by
  -- from the back, since what is put in last replaces what was there
  induction xs using List.reverseRecOn with
  | nil => rfl
  | append_singleton xs x ih =>
    rw [putEntries_concat, mem_putEntry (ascending_putEntries entry xs h), ih, List.reverse_concat, List.find?_cons]
    by_cases hversion : (entry x).version = y.version
    · simp [hversion]
    · have hne : y ≠ entry x := fun heq => hversion (congrArg StatusEntry.version heq.symm)
      have hbeq : ((entry x).version == y.version) = false := beq_eq_false_iff_ne.2 hversion
      simp [hbeq, hne, Ne.symm hversion]

end

/-! ## The entries of the status -/

variable {set : MigrationSet} {records : List Record} {y : StatusEntry}

/-- The entries of the files alone. -/
theorem mem_putEntries_toList :
    y ∈ putEntries Migration.entry set.toList [] ↔ ∃ m, set.get? y.version = some m ∧ y = m.entry := by
  rw [mem_putEntries _ _ .nil]
  cases hfind : set.toList.reverse.find? fun m => m.entry.version == y.version with
  | none =>
    have hnone (m : Migration) (hm : m ∈ set.toList) : m.version ≠ y.version := by
      simpa using List.find?_eq_none.1 hfind m (List.mem_reverse.2 hm)
    refine iff_of_false List.not_mem_nil ?_
    rintro ⟨m, hm, -⟩
    obtain ⟨hm, hversion⟩ := MigrationSet.get?_eq_some.1 hm
    exact hnone m hm hversion
  | some m =>
    have hm : m ∈ set.toList := List.mem_reverse.1 (List.mem_of_find?_eq_some hfind)
    have hversion : m.version = y.version := by simpa using List.find?_some hfind
    simp [MigrationSet.get?_eq_some.2 ⟨hm, hversion⟩]

theorem statusEntries_eq (set : MigrationSet) (records : List Record) :
    statusEntries set records = putEntries (Record.entry set) records (putEntries Migration.entry set.toList []) := rfl

theorem ascending_statusEntries (set : MigrationSet) (records : List Record) :
    AscendingEntries (statusEntries set records) :=
  ascending_putEntries _ _ (ascending_putEntries _ _ .nil)

/-- A version has the entry of its last record, or that of its file if it has no record. -/
theorem mem_statusEntries :
    y ∈ statusEntries set records ↔
      match lastRecord? records y.version with
      | some r => y = r.entry set
      | none => ∃ m, set.get? y.version = some m ∧ y = m.entry := by
  rw [statusEntries_eq, mem_putEntries _ _ (ascending_putEntries _ _ .nil)]
  simp only [mem_putEntries_toList, Record.version_entry, lastRecord?]
  cases records.reverse.find? (·.version == y.version) <;> rfl

end SchemaMigration
