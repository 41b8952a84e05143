import SchemaMigration.Migration.Basic

/-!
# Sets of migrations

`MigrationSet`         : migrations in strictly ascending order of their versions.
`MigrationSet.insert`  : a set with one more migration, refused if its version is taken.
`MigrationSet.ofList`  : the set of the migrations in a list, refused if two share a version.
`MigrationSet.get?`    : the migration of a version.
-/

namespace SchemaMigration

set_option autoImplicit false

def Ascending (ms : List Migration) : Prop := ms.Pairwise (·.version < ·.version)

/-- Migrations in strictly ascending order of their versions. -/
structure MigrationSet where
  toList : List Migration
  ascending : Ascending toList

namespace MigrationSet

def empty : MigrationSet := ⟨[], .nil⟩

def size (s : MigrationSet) : Nat := s.toList.length

def isEmpty (s : MigrationSet) : Bool := s.toList.isEmpty

def get? (s : MigrationSet) (v : Version) : Option Migration := s.toList.find? (·.version == v)

/-! ## Insertion -/

/-- The list with `m` before the first greater version. -/
def insertSorted (m : Migration) : List Migration → List Migration
  | [] => [m]
  | x :: xs => if m.version < x.version then m :: x :: xs else x :: insertSorted m xs

theorem mem_insertSorted {m y : Migration} {ms : List Migration} : y ∈ insertSorted m ms ↔ y = m ∨ y ∈ ms := by
  induction ms with
  | nil => simp [insertSorted]
  | cons x xs ih =>
    unfold insertSorted
    split
    · simp
    · simp only [List.mem_cons, ih]
      exact or_left_comm

theorem ascending_insertSorted {m : Migration} {ms : List Migration} (hs : Ascending ms)
    (hm : ∀ x ∈ ms, x.version ≠ m.version) : Ascending (insertSorted m ms) := by
  induction ms with
  | nil => exact List.pairwise_singleton _ _
  | cons x xs ih =>
    obtain ⟨hx, hxs⟩ := List.pairwise_cons.1 hs
    unfold insertSorted
    split
    · next h =>
      refine List.pairwise_cons.2 ⟨fun y hy => ?_, hs⟩
      rcases List.mem_cons.1 hy with rfl | hy
      · exact h
      · exact UInt64.lt_trans h (hx y hy)
    · next h =>
      refine List.pairwise_cons.2 ⟨fun y hy => ?_, ih hxs fun y hy => hm y (List.mem_cons_of_mem _ hy)⟩
      rcases mem_insertSorted.1 hy with rfl | hy
      · exact UInt64.lt_of_le_of_ne (UInt64.not_lt.1 h) (hm x List.mem_cons_self)
      · exact hx y hy

/-- The fault for two files of one version, which names them in the order of their characters. -/
def clash (a b : Migration) : Fault :=
  if a.fileName < b.fileName then .duplicateVersion a.version a.fileName b.fileName
  else .duplicateVersion a.version b.fileName a.fileName

/-- The set with one more migration, refused if its version is taken. -/
def insert (s : MigrationSet) (m : Migration) : Except Fault MigrationSet :=
  match h : s.get? m.version with
  | some x => .error (clash x m)
  | none => .ok ⟨insertSorted m s.toList, ascending_insertSorted s.ascending fun x hx =>
      by simpa using List.find?_eq_none.1 h x hx⟩

/-! ## The set of a list -/

/-- The first two neighbours of one version. -/
def neighbours? : List Migration → Option (Migration × Migration)
  | a :: b :: r => if a.version == b.version then some (a, b) else neighbours? (b :: r)
  | _ => none

theorem ascending_of_neighbours?_eq_none : ∀ {ms : List Migration},
    ms.Pairwise (fun a b => decide (a.version ≤ b.version) = true) → neighbours? ms = none → Ascending ms
  | [], _, _ => .nil
  | [_], _, _ => List.pairwise_singleton _ _
  | a :: b :: r, hs, hn => by
    obtain ⟨ha, hr⟩ := List.pairwise_cons.1 hs
    unfold neighbours? at hn
    split at hn
    · simp at hn
    · next hne =>
      have tail := ascending_of_neighbours?_eq_none hr hn
      have hab : a.version < b.version :=
        UInt64.lt_of_le_of_ne (by simpa using ha b List.mem_cons_self) (by simpa using hne)
      refine List.pairwise_cons.2 ⟨fun y hy => ?_, tail⟩
      rcases List.mem_cons.1 hy with rfl | hy
      · exact hab
      · exact UInt64.lt_trans hab ((List.pairwise_cons.1 tail).1 y hy)

/-- The migrations in ascending order; those of one version keep their order. -/
def sortByVersion (ms : List Migration) : List Migration :=
  ms.mergeSort fun a b => decide (a.version ≤ b.version)

theorem pairwise_sortByVersion (ms : List Migration) :
    (sortByVersion ms).Pairwise fun a b => decide (a.version ≤ b.version) = true := by
  refine List.pairwise_mergeSort (fun a b c hab hbc => ?_) (fun a b => ?_) ms
  · simp only [decide_eq_true_eq] at *
    exact UInt64.le_trans hab hbc
  · simpa using UInt64.le_total a.version b.version

def ofList (ms : List Migration) : Except Fault MigrationSet :=
  match h : neighbours? (sortByVersion ms) with
  | some (a, b) => .error (.duplicateVersion a.version a.fileName b.fileName)
  | none => .ok ⟨sortByVersion ms, ascending_of_neighbours?_eq_none (pairwise_sortByVersion ms) h⟩

end MigrationSet

end SchemaMigration
