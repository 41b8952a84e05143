import Mathlib.Data.List.Infix
import Mathlib.Data.List.Perm.Subperm
import SchemaMigration.Proofs.Run.Outcome

/-!
# Runs that go on where others stopped

`Attempt`               : one of several runs with the same options.
`Folder.GrowsInto`      : a folder has gained files of higher versions only.
`Progress`              : what the runs up to now have applied, of all that is due in the end.
`records_afterAttempts` : many runs over a growing folder, stopped anywhere, leave the records of one run over its last
state.

A folder that grows into another is the lower part of it, so what is due in it is due in the other, and first. A run
applies a first part of what is due (`attempt_advances`), and what is due for the next run begins where it stopped
(`progress_attempt`).
-/

namespace SchemaMigration

set_option autoImplicit false

open Run (Migrates Serves)

/-! ## Vocabulary -/

/-- One of several runs with the same options: under its own name, on a folder as it is then, and with the failures that
it meets. -/
structure Attempt where
  holder : String
  folder : Folder
  failures : List (CallKind × String)
  poison : Option String

namespace Rehearsal

/-- What became of an attempt. -/
def attempt (o : RunOptions) (s : Rehearsal) (a : Attempt) : Run.Played Rehearsal Report :=
  (Run.migrate { o with holder := a.holder } a.folder).play answer { s with failures := a.failures, poison := a.poison }

/-- What is left after one attempt after another. -/
def afterAttempts (o : RunOptions) (s : Rehearsal) (as : List Attempt) : Rehearsal :=
  as.foldl (fun s a => (s.attempt o a).state) s

end Rehearsal

/-- The second folder has all migrations of the first, and new ones only above all of these. -/
structure Folder.GrowsInto (f g : Folder) : Prop where
  kept : ∀ m, f.Holds m → g.Holds m
  above : ∀ m, g.Holds m → ¬f.Holds m → ∀ x, f.Holds x → x.version < m.version

/-! ## Growing folders -/

theorem Ascending.prefix_of_subset {xs ys : List Migration} (hxs : Ascending xs) (hys : Ascending ys) (hsub : xs ⊆ ys)
    (habove : ∀ y ∈ ys, y ∉ xs → ∀ x ∈ xs, x.version < y.version) : xs <+: ys := by
  induction xs generalizing ys with
  | nil => exact List.nil_prefix
  | cons x xs ih =>
    obtain ⟨hx, hxs'⟩ := List.pairwise_cons.1 hxs
    cases ys with
    | nil => exact absurd (hsub List.mem_cons_self) List.not_mem_nil
    | cons y ys =>
      obtain ⟨hy, hys'⟩ := List.pairwise_cons.1 hys
      -- the first of the second list is not new, so it is the first of the first list
      have heads : x = y := by
        by_contra hne
        have hlt : y.version < x.version :=
          hy x ((List.mem_cons.1 (hsub List.mem_cons_self)).resolve_left hne)
        have hold : y ∈ x :: xs := by
          by_contra hnew
          exact UInt64.lt_asymm hlt (habove y List.mem_cons_self hnew x List.mem_cons_self)
        exact UInt64.lt_asymm hlt (hx y ((List.mem_cons.1 hold).resolve_left (Ne.symm hne)))
      subst heads
      refine List.cons_prefix_cons.2 ⟨rfl, ih hxs' hys' (fun z hz => ?_) fun z hz hnew w hw => ?_⟩
      · refine (List.mem_cons.1 (hsub (List.mem_cons_of_mem _ hz))).resolve_left ?_
        rintro rfl
        exact UInt64.lt_irrefl _ (hx z hz)
      · refine habove z (List.mem_cons_of_mem _ hz) (fun hold => ?_) w (List.mem_cons_of_mem _ hw)
        obtain rfl := (List.mem_cons.1 hold).resolve_right hnew
        exact UInt64.lt_irrefl _ (hy z hz)

namespace Folder.GrowsInto

variable {f g h : Folder}

theorem refl (f : Folder) : f.GrowsInto f := ⟨fun _ hm => hm, fun _ hm hnew => absurd hm hnew⟩

theorem trans (hfg : f.GrowsInto g) (hgh : g.GrowsInto h) : f.GrowsInto h where
  kept m hm := hgh.kept m (hfg.kept m hm)
  above m hm hnew x hx := by
    by_cases hg : g.Holds m
    · exact hfg.above m hg hnew x hx
    · exact hgh.above m hm hg x (hfg.kept x hx)

instance : Trans Folder.GrowsInto Folder.GrowsInto Folder.GrowsInto := ⟨trans⟩

/-- What is due in a folder is due first in one that it grows into. -/
theorem due_prefix (hfg : f.GrowsInto g) {set : MigrationSet} (hload : MigrationSet.load g = .ok set)
    (records : List Record) : f.due records <+: g.due records := by
  rw [Folder.due_eq hload]
  unfold Folder.due
  split
  · next old hold =>
    refine List.IsPrefix.filter _ (Ascending.prefix_of_subset old.ascending set.ascending (fun m hm => ?_) ?_)
    · exact (MigrationSet.mem_load hload).2 (hfg.kept m ((MigrationSet.mem_load hold).1 hm))
    · intro m hm hnew x hx
      rw [MigrationSet.mem_load hold] at hnew hx
      exact hfg.above m ((MigrationSet.mem_load hload).1 hm) hnew x hx
  · exact List.nil_prefix

/-- A folder that loads grows into another by what the two load. -/
theorem of_load {old new : MigrationSet} (hf : MigrationSet.load f = .ok old) (hg : MigrationSet.load g = .ok new)
    (hkept : ∀ m ∈ old.toList, m ∈ new.toList)
    (habove : ∀ m ∈ new.toList, m ∉ old.toList → ∀ x ∈ old.toList, x.version < m.version) : f.GrowsInto g where
  kept m hm := (MigrationSet.mem_load hg).1 (hkept m ((MigrationSet.mem_load hf).2 hm))
  above m hm hnew x hx :=
    habove m ((MigrationSet.mem_load hg).2 hm) (fun hold => hnew ((MigrationSet.mem_load hf).1 hold)) x
      ((MigrationSet.mem_load hf).2 hx)

end Folder.GrowsInto

/-! ## One run -/

theorem attempt_advances (o : RunOptions) (s : Rehearsal) (a : Attempt) :
    ∃ done, done <+: a.folder.due s.records ∧
      (s.attempt o a).state.records = s.records ++ recordsFrom o.user s.applies done ∧
      (s.attempt o a).state.applies = s.applies + done.length ∧
      ∀ report, (s.attempt o a).result = .ok report →
        done = a.folder.due s.records ∧ ∃ set, MigrationSet.load a.folder = .ok set :=
  migrate_advances { o with holder := a.holder } a.folder { s with failures := a.failures, poison := a.poison }

/-! ## What is left for the next run -/

theorem Folder.due_append (folder : Folder) (records added : List Record) :
    folder.due (records ++ added) = (folder.due records).filter fun m => added.all (·.version != m.version) := by
  unfold Folder.due
  split
  · simp only [MigrationSet.unrecorded, List.filter_filter, List.all_append, Bool.and_comm]
  · rfl

/-- After the first part of what was due, the second part is due. -/
theorem filter_recordsFrom {done rest : List Migration} (h : Ascending (done ++ rest)) (user : String) (n : Nat) :
    (done ++ rest).filter (fun m => (recordsFrom user n done).all (·.version != m.version)) = rest := by
  have hall (v : Version) : (recordsFrom user n done).all (·.version != v) = done.all (·.version != v) :=
    calc (recordsFrom user n done).all (·.version != v)
      _ = ((recordsFrom user n done).map (·.version)).all (· != v) := by rw [List.all_map, Function.comp_def]
      _ = (done.map (·.version)).all (· != v) := by rw [map_version_recordsFrom]
      _ = done.all (·.version != v) := by rw [List.all_map, Function.comp_def]
  obtain ⟨-, -, hapart⟩ := List.pairwise_append.1 h
  have hgone : done.filter (fun m => done.all (·.version != m.version)) = [] := by
    rw [List.filter_eq_nil_iff]
    intro m hm hall
    simpa using List.all_eq_true.1 hall m hm
  have hleft : rest.filter (fun m => done.all (·.version != m.version)) = rest := by
    rw [List.filter_eq_self]
    intro m hm
    rw [List.all_eq_true]
    intro x hx
    exact bne_iff_ne.2 (UInt64.ne_of_lt (hapart x hx m hm))
  simp only [hall, List.filter_append, hgone, hleft, List.nil_append]

section

variable {o : RunOptions} {s : Rehearsal} {folder goal : Folder} {as : List Attempt} {done : List Migration}

/-- What is due in a folder on its way to the goal begins with what was applied, if that came from the folder. -/
theorem done_prefix (hgrows : folder.GrowsInto goal) {set : MigrationSet} (hgoal : MigrationSet.load goal = .ok set)
    {own : MigrationSet} (hload : MigrationSet.load folder = .ok own) {records : List Record}
    (hfirst : done <+: goal.due records) (hheld : ∀ m ∈ done, folder.Holds m) : done <+: folder.due records := by
  have hdue := hgrows.due_prefix hgoal records
  have hsub : done ⊆ folder.due records := by
    intro m hm
    have hnew := (List.mem_filter.1 (Folder.due_eq hgoal records ▸ hfirst.subset hm)).2
    rw [Folder.due_eq hload]
    exact List.mem_filter.2 ⟨(MigrationSet.mem_load hload).2 (hheld m hm), hnew⟩
  have hnodup : done.Nodup :=
    List.Nodup.of_map _ (Ascending.nodup ((Folder.ascending_due goal records).sublist hfirst.sublist))
  exact List.prefix_of_prefix_length_le hfirst hdue (List.subperm_of_subset hnodup hsub).length_le

/-- How far runs have come: what they have applied is a first part of what was due in the goal at the beginning, and
comes from their folders. -/
structure Progress (o : RunOptions) (s : Rehearsal) (goal : Folder) (as : List Attempt) (done : List Migration) :
    Prop where
  first : done <+: goal.due s.records
  held : ∀ m ∈ done, ∃ a ∈ as, a.folder.Holds m
  records : (s.afterAttempts o as).records = s.records ++ recordsFrom o.user s.applies done
  applies : (s.afterAttempts o as).applies = s.applies + done.length

theorem progress_nil (o : RunOptions) (s : Rehearsal) (goal : Folder) : Progress o s goal [] [] where
  first := List.nil_prefix
  held := by simp
  records := (List.append_nil _).symm
  applies := rfl

theorem afterAttempts_concat (o : RunOptions) (s : Rehearsal) (as : List Attempt) (a : Attempt) :
    s.afterAttempts o (as ++ [a]) = ((s.afterAttempts o as).attempt o a).state := by
  rw [Rehearsal.afterAttempts, List.foldl_append]
  rfl

/-- One more run goes on where the runs before it stopped. -/
theorem progress_attempt (h : Progress o s goal as done) {a : Attempt} (hbefore : ∀ b ∈ as, b.folder.GrowsInto a.folder)
    (hgrows : a.folder.GrowsInto goal) {set : MigrationSet} (hgoal : MigrationSet.load goal = .ok set) :
    ∃ more, Progress o s goal (as ++ [a]) (done ++ more) ∧
      ∀ report, ((s.afterAttempts o as).attempt o a).result = .ok report → done ++ more = a.folder.due s.records := by
  obtain ⟨more, hmore, hrecords, happlies, hcomplete⟩ := attempt_advances o (s.afterAttempts o as) a
  rw [h.records] at hmore hrecords hcomplete
  rw [h.applies] at hrecords happlies
  have hheld : ∀ m ∈ done, a.folder.Holds m := by
    intro m hm
    obtain ⟨b, hb, hm⟩ := h.held m hm
    exact (hbefore b hb).kept m hm
  have hstate : (s.afterAttempts o (as ++ [a])).records = s.records ++ recordsFrom o.user s.applies (done ++ more) ∧
      (s.afterAttempts o (as ++ [a])).applies = s.applies + (done ++ more).length := by
    rw [afterAttempts_concat, hrecords, happlies, recordsFrom_append, List.length_append]
    exact ⟨List.append_assoc _ _ _, Nat.add_assoc _ _ _⟩
  cases hload : MigrationSet.load a.folder with
  | error f =>
    -- nothing is due in a folder that does not load
    have hnone : more = [] := by
      rw [Folder.due, hload] at hmore
      exact List.prefix_nil.1 hmore
    subst hnone
    refine ⟨[], ⟨?_, fun m hm => ?_, hstate.1, hstate.2⟩, fun report hreport => ?_⟩
    · rw [List.append_nil]
      exact h.first
    · rw [List.append_nil] at hm
      exact ⟨a, List.mem_concat_self, hheld m hm⟩
    · obtain ⟨-, own, hown⟩ := hcomplete report hreport
      rw [hload] at hown
      cases hown
  | ok own =>
    obtain ⟨rest, hrest⟩ := done_prefix hgrows hgoal hload h.first hheld
    have hleft : a.folder.due (s.records ++ recordsFrom o.user s.applies done) = rest := by
      rw [Folder.due_append, ← hrest]
      exact filter_recordsFrom (hrest ▸ Folder.ascending_due a.folder s.records) _ _
    rw [hleft] at hmore hcomplete
    have hpart : done ++ more <+: a.folder.due s.records := by
      rw [← hrest]
      exact (List.prefix_append_right_inj done).2 hmore
    have hdue := hpart.trans (hgrows.due_prefix hgoal _)
    refine ⟨more, ⟨hdue, fun m hm => ?_, hstate.1, hstate.2⟩, fun report hreport => ?_⟩
    · exact ⟨a, List.mem_concat_self, (Folder.mem_due (hpart.subset hm)).1⟩
    · rw [(hcomplete report hreport).1, hrest]

theorem exists_progress {set : MigrationSet} (hgoal : MigrationSet.load goal = .ok set)
    (horder : as.Pairwise fun a b => a.folder.GrowsInto b.folder) (hgrows : ∀ a ∈ as, a.folder.GrowsInto goal) :
    ∃ done, Progress o s goal as done := by
  -- from the back: one run after all others
  induction as using List.reverseRecOn with
  | nil => exact ⟨[], progress_nil o s goal⟩
  | append_singleton as a ih =>
    obtain ⟨horder, -, hbefore⟩ := List.pairwise_append.1 horder
    obtain ⟨done, h⟩ := ih horder fun b hb => hgrows b (List.mem_append_left _ hb)
    obtain ⟨more, hmore, -⟩ := progress_attempt h (fun b hb => hbefore b hb a List.mem_cons_self)
      (hgrows a List.mem_concat_self) hgoal
    exact ⟨done ++ more, hmore⟩

end

/-- Runs over a growing folder that stop wherever they stop leave, once one of them ends well, the records that a single
run over the folder in its last state leaves. -/
theorem records_afterAttempts (o : RunOptions) (s : Rehearsal) (before : List Attempt) (last single : Attempt)
    {once again : Report} (hgrows : ((before ++ [last]).map (·.folder)).IsChain Folder.GrowsInto)
    (hsame : single.folder = last.folder) (hsingle : (s.attempt o single).result = .ok once)
    (hlast : ((s.afterAttempts o before).attempt o last).result = .ok again) :
    (s.afterAttempts o (before ++ [last])).records = (s.attempt o single).state.records := by
  obtain ⟨done, -, hrecords, -, hcomplete⟩ := attempt_advances o s single
  obtain ⟨rfl, set, hload⟩ := hcomplete once hsingle
  rw [hsame] at hrecords hload
  rw [List.isChain_iff_pairwise, List.pairwise_map] at hgrows
  obtain ⟨horder, -, hbefore⟩ := List.pairwise_append.1 hgrows
  have hbefore : ∀ a ∈ before, a.folder.GrowsInto last.folder := fun a ha => hbefore a ha last List.mem_cons_self
  obtain ⟨done, h⟩ := exists_progress (o := o) (s := s) hload horder hbefore
  obtain ⟨more, hmore, hall⟩ := progress_attempt h hbefore (.refl _) hload
  rw [hmore.records, hall again hlast, hrecords]

/-! ## Two runs that stop and one that does not -/

def firstFiles : Folder :=
  ⟨"migrations", some [⟨"1_a.sql", some "SELECT 1".toUTF8⟩, ⟨"2_b.sql", some "SELECT 2".toUTF8⟩]⟩

def allFiles : Folder :=
  ⟨"migrations", some [⟨"3_c.sql", some "SELECT 3".toUTF8⟩, ⟨"2_b.sql", some "SELECT 2".toUTF8⟩,
    ⟨"1_a.sql", some "SELECT 1".toUTF8⟩]⟩

def firstSet : MigrationSet :=
  ⟨[⟨1, "a", "1_a.sql", "SELECT 1"⟩, ⟨2, "b", "2_b.sql", "SELECT 2"⟩], by simp [Ascending]⟩

def allSet : MigrationSet :=
  ⟨[⟨1, "a", "1_a.sql", "SELECT 1"⟩, ⟨2, "b", "2_b.sql", "SELECT 2"⟩, ⟨3, "c", "3_c.sql", "SELECT 3"⟩],
    by simp [Ascending]⟩

theorem firstFiles_growsInto_allFiles : firstFiles.GrowsInto allFiles := by
  have hfirst : MigrationSet.load firstFiles = .ok firstSet := rfl
  have hall : MigrationSet.load allFiles = .ok allSet := rfl
  exact .of_load hfirst hall (by decide) (by decide)

/-- A database in which version 7 is recorded, which has no file. -/
def usedTarget : Rehearsal :=
  { Rehearsal.start with databaseExists := true, records := [⟨7, "old", "", "ann", Rehearsal.epoch⟩] }

/-- The first run fails at version 2, the second at version 3. -/
def stoppedRuns : List Attempt :=
  [⟨"h", firstFiles, [], some "2"⟩, ⟨"i", allFiles, [], some "SELECT 3"⟩]

def finalRun : Attempt := ⟨"j", allFiles, [], none⟩

def singleRun : Attempt := ⟨"k", allFiles, [], none⟩

def finalReport : Report :=
  ⟨[(⟨3, "c", "3_c.sql", "SELECT 3"⟩ : Migration).record "ann" (Rehearsal.epoch.addSeconds 3)], 2, [], [7]⟩

def singleReport : Report := ⟨recordsFrom "ann" 0 allSet.toList, 0, [], [7]⟩

theorem records_afterAttempts_stopped :
    ((stoppedRuns ++ [finalRun]).map (·.folder)).IsChain Folder.GrowsInto ∧ singleRun.folder = finalRun.folder ∧
      (usedTarget.attempt firstRun singleRun).result = .ok singleReport ∧
      ((usedTarget.afterAttempts firstRun stoppedRuns).attempt firstRun finalRun).result = .ok finalReport ∧
      (usedTarget.afterAttempts firstRun (stoppedRuns ++ [finalRun])).records =
        (usedTarget.attempt firstRun singleRun).state.records :=
  have hgrows : ((stoppedRuns ++ [finalRun]).map (·.folder)).IsChain Folder.GrowsInto :=
    .cons_cons firstFiles_growsInto_allFiles (.cons_cons (.refl _) (.singleton _))
  have hsingle : (usedTarget.attempt firstRun singleRun).result = .ok singleReport := by decide +kernel
  have hfinal : ((usedTarget.afterAttempts firstRun stoppedRuns).attempt firstRun finalRun).result =
      .ok finalReport := by decide +kernel
  ⟨hgrows, rfl, hsingle, hfinal, records_afterAttempts firstRun usedTarget stoppedRuns finalRun singleRun hgrows rfl
    hsingle hfinal⟩

end SchemaMigration
