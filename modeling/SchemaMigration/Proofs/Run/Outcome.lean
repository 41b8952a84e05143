import SchemaMigration.Proofs.Run.Session

/-!
# What a migrating run has applied

`silent_of_served`      : a call that was answered is not told to fail.
`serves_recordsFrom`    : the records of the applications, with their times.
`Migrates.succeeded`    : a run that ends well has applied all that was pending, and reports so.

A rehearsal counts its applications, and the time of a record is the count. So the records that a run leaves are known
from the migrations it applied, whatever the other calls were.
-/

namespace SchemaMigration

set_option autoImplicit false

open Run (Applies Course Migrates Opens Serves Works)

/-! ## Calls of a rehearsal -/

namespace Rehearsal

variable {s u : Rehearsal} {t : List Answered}

/-- A call that was answered is not told to fail. -/
theorem silent_of_served (h : Serves answer s t u) {c : Call} {a : c.Answer} {k : CallKind} (hk : c.kind? = some k)
    (hx : ⟨c, .ok a⟩ ∈ t) : s.failure? k = none := by
  induction h with
  | nil s => exact absurd hx List.not_mem_nil
  | @cons s u d b t hb _ ih =>
    obtain hx | hx := List.mem_cons.1 hx
    · cases hx
      cases htold : s.failure? k with
      | none => rfl
      | some text => simp [answer_of_told hk htold] at hb
    · have hsilent := ih hx
      rwa [failure?, (keeps_answer d s).failures] at hsilent

/-- Only applications are counted. -/
theorem applies_perform {c : Call} (h : c.isApply = false) (s : Rehearsal) : (perform c s).2.applies = s.applies := by
  cases c with
  | apply => simp [Call.isApply] at h
  | tryLock holder => cases hlock : s.lockedBy <;> simp [perform, hlock]
  | unlock holder =>
    simp only [perform]
    split <;> rfl
  | _ => rfl

theorem applies_answer (c : Call) (s : Rehearsal) :
    (answer c s).2.applies = s.applies + (applications [⟨c, (answer c s).1⟩]).length := by
  cases hc : c.isApply with
  | false =>
    rw [applications_eq_nil (by simpa using hc)]
    obtain h | ⟨f, h⟩ := answer_cases c s
    · rw [h]
      exact applies_perform hc s
    · rw [h]
      rfl
  | true =>
    cases c with
    | apply m statements user =>
      obtain ⟨f, h⟩ | ⟨time, h⟩ := answer_apply m statements user s <;> rw [h] <;> rfl
    | _ => simp [Call.isApply] at hc

theorem serves_applies (h : Serves answer s t u) : u.applies = s.applies + (applications t).length := by
  induction h with
  | nil s => rfl
  | @cons s u c a t ha _ ih =>
    rw [ih, applies_answer, ha, applications_cons ⟨c, a⟩ t, List.length_append, Nat.add_assoc]

/-- The records of the applications are those of the migrations, one after another. -/
theorem serves_recordsFrom {user : String} (h : Serves answer s t u)
    (huser : ∀ m statements x a, ⟨.apply m statements x, a⟩ ∈ t → x = user) :
    (applications t).map (·.record) = recordsFrom user s.applies ((applications t).map (·.migration)) := by
  induction h with
  | nil s => rfl
  | @cons s u c a t ha _ ih =>
    have htail := ih fun m statements x b hx => huser m statements x b (List.mem_cons_of_mem _ hx)
    rw [applies_answer, ha] at htail
    rw [applications_cons, List.map_append, List.map_append, htail]
    cases hc : c.isApply with
    | false =>
      rw [applications_eq_nil (by simpa using hc)]
      rfl
    | true =>
      cases c with
      | apply m statements x =>
        obtain rfl := huser m statements x a List.mem_cons_self
        obtain rfl : (s.apply m statements x).1 = a := ha
        unfold Rehearsal.apply
        split <;> rfl
      | _ => simp [Call.isApply] at hc

end Rehearsal

/-! ## Migrating runs -/

namespace Run

variable {o : RunOptions} {folder : Folder} {t : List Answered}

/-- Migrations that were all applied are in the calls, with the records that came back. -/
theorem Applies.completed {ms : List Migration} {e : Except Fault (List Record)} (h : Applies o ms t e)
    {records : List Record} (he : e = .ok records) :
    (applications t).map (·.migration) = ms ∧ (applications t).map (·.record) = records := by
  induction h generalizing records with
  | finished => exact ⟨rfl, Except.ok.inj he⟩
  | unprepared | failed => simp at he
  | @applied m rest statements t e _ r _ ih =>
    cases e with
    | error f => simp [Except.map] at he
    | ok rs =>
      obtain rfl := Except.ok.inj he
      obtain ⟨hmigrations, hrecords⟩ := ih rfl
      rw [applications_cons, List.map_append, List.map_append, hmigrations, hrecords]
      exact ⟨rfl, rfl⟩

/-- All migrations are applied for the user of the run. -/
theorem Applies.user {ms : List Migration} {e : Except Fault (List Record)} (h : Applies o ms t e) :
    ∀ m statements x a, ⟨.apply m statements x, a⟩ ∈ t → x = o.user := by
  induction h with
  | finished | unprepared => simp
  | failed =>
    intro m statements x a hx
    cases List.mem_singleton.1 hx
    rfl
  | applied _ _ _ ih =>
    intro m statements x a hx
    obtain hx | hx := List.mem_cons.1 hx
    · cases hx
      rfl
    · exact ih m statements x a hx

/-- Work that ends well has read the records and applied what they left pending. -/
theorem Works.succeeded {e : Except Fault Report} (h : Works o folder t e) {report : Report} (he : e = .ok report) :
    ∃ set records rest applied, MigrationSet.load folder = .ok set ∧
      ((Diff.of set records).drifted = [] ∨ o.drift = .warn) ∧ t = ⟨.appliedRecords, .ok records⟩ :: rest ∧
      Applies o (set.unrecorded records) rest (.ok applied) ∧ report = reportOf (Diff.of set records) applied := by
  cases h with
  | unloaded | unread | drifted => simp at he
  | @applies set records rest e hload hdrift happlies =>
    cases e with
    | error f => simp [Except.map] at he
    | ok applied => exact ⟨set, records, rest, applied, hload, hdrift, rfl, happlies, (Except.ok.inj he).symm⟩

/-- Every migration that a run asks for is applied for its user. -/
theorem Migrates.user {e : Except Fault Report} (h : Migrates o folder t e) :
    ∀ m statements x a, ⟨.apply m statements x, a⟩ ∈ t → x = o.user := by
  intro m statements x a hx
  by_cases hacquired : ⟨.tryLock o.holder, .ok .acquired⟩ ∈ t
  · obtain ⟨before, work, released, worked, rfl, hbefore, -, hwork, -⟩ := h.acquired hacquired
    simp only [List.mem_append, List.mem_cons, List.not_mem_nil, or_false] at hx
    obtain hx | hx | hx | hx := hx
    · simpa [Call.isOpening] using hbefore _ hx
    · cases hx
    · cases hwork with
      | unloaded | unread | drifted => simp at hx
      | applies _ _ ht => exact ht.user m statements x a ((List.mem_cons.1 hx).resolve_left (by simp))
    · cases hx
  · simpa [Call.isOpening] using (h.unacquired hacquired).1 _ hx

/-- A run that ends well got the lock, read the records and applied all that was pending. -/
theorem Migrates.succeeded {report : Report} {s u : Rehearsal} (h : Migrates o folder t (.ok report))
    (hs : Serves Rehearsal.answer s t u) :
    ∃ set, MigrationSet.load folder = .ok set ∧ ⟨.appliedRecords, .ok s.records⟩ ∈ t ∧
      ((Diff.of set s.records).drifted = [] ∨ o.drift = .warn) ∧
      (applications t).map (·.migration) = set.unrecorded s.records ∧
      report = reportOf (Diff.of set s.records) ((applications t).map (·.record)) := by
  have hacquired : ⟨.tryLock o.holder, .ok .acquired⟩ ∈ t := by
    by_contra hunacquired
    obtain hstops | ⟨other, -, hlocked⟩ := (h.unacquired hunacquired).2
    · cases hstops
    · cases hlocked
  obtain ⟨before, work, released, worked, rfl, hbefore, -, hwork, hreport⟩ := h.acquired hacquired
  have hworked : worked = .ok report := by
    cases worked <;> cases released <;> simp_all [settled]
  subst hworked
  obtain ⟨set, records, rest, applied, hload, hdrift, rfl, happlies, rfl⟩ := hwork.succeeded rfl
  have hopening : ∀ x ∈ before ++ [⟨.tryLock o.holder, .ok .acquired⟩], x.call.isApply = false := by
    simpa [or_imp, forall_and, Call.isApply] using fun x hx => Call.isApply_of_isOpening (hbefore x hx)
  rw [List.append_cons] at hs ⊢
  obtain ⟨v, hv, hread⟩ := serves_append.1 hs
  rcases hread with _ | ⟨hanswer, -⟩
  have hrecords : records = s.records := by
    rw [Rehearsal.answer_appliedRecords hanswer, Rehearsal.serves_records hv, applications_eq_nil hopening]
    exact List.append_nil _
  subst hrecords
  have happlications : applications ((before ++ [⟨.tryLock o.holder, .ok .acquired⟩]) ++
      (⟨.appliedRecords, .ok s.records⟩ :: rest ++ [⟨.unlock o.holder, released⟩])) = applications rest := by
    rw [applications_append, applications_eq_nil hopening, applications_append, applications_cons]
    exact List.append_nil _
  obtain ⟨hmigrations, happlied⟩ := happlies.completed rfl
  rw [happlications, hmigrations, happlied]
  exact ⟨set, hload, by simp, hdrift, rfl, rfl⟩

end Run

/-! ## The records that a run leaves -/

theorem recordsFrom_append (user : String) (n : Nat) (xs ys : List Migration) :
    recordsFrom user n (xs ++ ys) = recordsFrom user n xs ++ recordsFrom user (n + xs.length) ys := by
  induction xs generalizing n with
  | nil => rfl
  | cons x xs ih => simp [recordsFrom, ih, Nat.add_comm, Nat.add_left_comm]

@[simp] theorem map_version_recordsFrom (user : String) (n : Nat) (ms : List Migration) :
    (recordsFrom user n ms).map (·.version) = ms.map (·.version) := by
  induction ms generalizing n with
  | nil => rfl
  | cons m ms ih => simp [recordsFrom, ih, Migration.record]

/-- A run applies a first part of what is due, and all of it if it ends well. -/
theorem migrate_advances (o : RunOptions) (folder : Folder) (s : Rehearsal) :
    ∃ done, done <+: folder.due s.records ∧
      ((Run.migrate o folder).play Rehearsal.answer s).state.records =
        s.records ++ recordsFrom o.user s.applies done ∧
      ((Run.migrate o folder).play Rehearsal.answer s).state.applies = s.applies + done.length ∧
      ∀ report, ((Run.migrate o folder).play Rehearsal.answer s).result = .ok report →
        done = folder.due s.records ∧ ∃ set, MigrationSet.load folder = .ok set := by
  have hcourse := Run.course_transcript (Run.migrate o folder) Rehearsal.answer s
  have hserves := Run.serves_transcript (Run.migrate o folder) Rehearsal.answer s
  have hruns := Run.course_migrate hcourse
  refine ⟨_, (appliesOnly_due hruns hserves).applied, ?_, ?_, fun report hreport => ?_⟩
  · have hrecords := Rehearsal.serves_records hserves
    rwa [Rehearsal.serves_recordsFrom hserves hruns.user] at hrecords
  · rw [List.length_map]
    exact Rehearsal.serves_applies hserves
  · rw [hreport] at hruns
    obtain ⟨set, hload, -, -, happlied, -⟩ := hruns.succeeded hserves
    exact ⟨happlied.trans (Folder.due_eq hload _).symm, set, hload⟩

end SchemaMigration
