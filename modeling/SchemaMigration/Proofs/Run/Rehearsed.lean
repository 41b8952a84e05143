import SchemaMigration.Proofs.Run.Migrating

/-!
# What a rehearsal makes of a course

`Application`    : a migration that was applied, with its record.
`applications`   : those of the answered calls.
`serves_records` : a rehearsal keeps its records and adds those of the applications.
`serves_lockedBy`, `serves_databaseExists` : what the calls make of the lock and of the database.
-/

namespace SchemaMigration

set_option autoImplicit false

/-! ## Applications -/

/-- A migration that was applied, with its record. -/
structure Application where
  migration : Migration
  record : Record
  deriving DecidableEq, Repr

/-- The application that a call has brought about, if it did. -/
def Answered.application? : Answered → Option Application
  | ⟨.apply m _ _, .ok r⟩ => some ⟨m, r⟩
  | _ => none

/-- What the calls have applied, in order. -/
def applications (t : List Answered) : List Application := t.filterMap Answered.application?

@[simp] theorem applications_nil : applications [] = [] := rfl

@[simp] theorem applications_append (t u : List Answered) : applications (t ++ u) = applications t ++ applications u :=
  List.filterMap_append

theorem applications_cons (x : Answered) (t : List Answered) :
    applications (x :: t) = applications [x] ++ applications t :=
  applications_append [x] t

theorem application?_eq_none {x : Answered} (h : x.call.isApply = false) : x.application? = none := by
  obtain ⟨c, a⟩ := x
  cases c with
  | apply m statements user => simp [Call.isApply] at h
  | _ => rfl

/-- Only a call that applies a migration brings about an application. -/
theorem applications_eq_nil {t : List Answered} (h : ∀ x ∈ t, x.call.isApply = false) : applications t = [] :=
  List.filterMap_eq_nil_iff.2 fun x hx => application?_eq_none (h x hx)

theorem mem_applications {a : Application} {t : List Answered} :
    a ∈ applications t ↔ ∃ statements user, ⟨.apply a.migration statements user, .ok a.record⟩ ∈ t := by
  constructor
  · intro ha
    obtain ⟨⟨c, r⟩, hx, heq⟩ := List.mem_filterMap.1 ha
    cases c with
    | apply m statements user =>
      cases r with
      | error f => simp [Answered.application?] at heq
      | ok r =>
        obtain rfl := Option.some.inj heq
        exact ⟨statements, user, hx⟩
    | _ => simp [Answered.application?] at heq
  · rintro ⟨statements, user, hx⟩
    exact List.mem_filterMap.2 ⟨_, hx, rfl⟩

/-- Whether the call takes the lock or gives it back. -/
def Call.isLocking : Call → Bool
  | tryLock _ | unlock _ | forceUnlock => true
  | _ => false

namespace Rehearsal

open Run (Serves)

/-! ## One call -/

/-- A call is performed, or it fails and changes nothing. -/
theorem answer_cases (c : Call) (s : Rehearsal) : answer c s = perform c s ∨ ∃ f, answer c s = (.error f, s) := by
  unfold answer
  cases c.kind? with
  | none => exact .inl rfl
  | some k =>
    cases h : s.failure? k with
    | none => exact .inl (by simp only [h])
    | some text => exact .inr ⟨k.fault text, by simp only [h]⟩

/-- A call that does not fail was performed. -/
theorem answer_eq_perform {c : Call} {s : Rehearsal} {a : c.Answer} (h : (answer c s).1 = .ok a) :
    answer c s = perform c s := by
  obtain hs | ⟨f, hs⟩ := answer_cases c s
  · exact hs
  · simp [hs] at h

/-- A free lock is taken, a taken one is not. -/
theorem answer_tryLock (holder : String) (s : Rehearsal) :
    (∃ f, answer (.tryLock holder) s = (.error f, s)) ∨
      (∃ other, s.lockedBy = some other ∧ answer (.tryLock holder) s = (.ok (.heldBy other), s)) ∨
      s.lockedBy = none ∧ answer (.tryLock holder) s = (.ok .acquired, { s with lockedBy := some holder }) := by
  obtain h | h := answer_cases (.tryLock holder) s
  · rw [h, perform]
    cases hlock : s.lockedBy with
    | none => exact .inr (.inr ⟨rfl, rfl⟩)
    | some other => exact .inr (.inl ⟨other, rfl, rfl⟩)
  · exact .inl h

/-- The lock is given back by its holder only. -/
theorem answer_unlock (holder : String) (s : Rehearsal) :
    (∃ f, answer (.unlock holder) s = (.error f, s)) ∨
      answer (.unlock holder) s = (.ok (), if s.lockedBy == some holder then { s with lockedBy := none } else s) := by
  obtain h | h := answer_cases (.unlock holder) s
  · rw [h, perform]
    exact .inr rfl
  · exact .inl h

/-- A migration is recorded at the end of the records, with the answer that its call gets, or nothing changes. -/
theorem answer_apply (m : Migration) (statements : List String) (user : String) (s : Rehearsal) :
    (∃ f, answer (.apply m statements user) s = (.error f, s)) ∨
      ∃ time, answer (.apply m statements user) s = (.ok (m.record user time),
        { s with records := s.records ++ [m.record user time], applies := s.applies + 1 }) := by
  change (∃ f, s.apply m statements user = (.error f, s)) ∨ ∃ time, s.apply m statements user =
    (.ok (m.record user time), { s with records := s.records ++ [m.record user time], applies := s.applies + 1 })
  unfold Rehearsal.apply
  split
  · exact .inl ⟨_, rfl⟩
  · exact .inr ⟨_, rfl⟩

/-- What a call keeps of a rehearsal. -/
structure Keeps (c : Call) (s t : Rehearsal) : Prop where
  failures : t.failures = s.failures
  databaseExists : s.databaseExists = true → t.databaseExists = true
  lockedBy : c.isLocking = false → t.lockedBy = s.lockedBy
  records : c.isApply = false → t.records = s.records

theorem Keeps.refl (c : Call) (s : Rehearsal) : Keeps c s s := ⟨rfl, id, fun _ => rfl, fun _ => rfl⟩

theorem keeps_answer (c : Call) (s : Rehearsal) : Keeps c s (answer c s).2 := by
  cases c with
  | databaseExists | connect | ensureBookkeeping | appliedRecords =>
    obtain h | ⟨f, h⟩ := answer_cases _ s
    · rw [h]
      exact .refl _ s
    · rw [h]
      exact .refl _ s
  | createDatabase =>
    obtain h | ⟨f, h⟩ := answer_cases .createDatabase s
    · rw [h]
      exact ⟨rfl, fun _ => rfl, fun _ => rfl, fun _ => rfl⟩
    · rw [h]
      exact .refl _ s
  | tryLock holder =>
    obtain ⟨f, h⟩ | ⟨other, -, h⟩ | ⟨-, h⟩ := answer_tryLock holder s
    · rw [h]
      exact .refl _ s
    · rw [h]
      exact .refl _ s
    · rw [h]
      exact ⟨rfl, id, by simp [Call.isLocking], fun _ => rfl⟩
  | unlock holder =>
    obtain ⟨f, h⟩ | h := answer_unlock holder s
    · rw [h]
      exact .refl _ s
    · rw [h]
      split
      · exact ⟨rfl, id, by simp [Call.isLocking], fun _ => rfl⟩
      · exact .refl _ s
  | forceUnlock =>
    obtain h | ⟨f, h⟩ := answer_cases .forceUnlock s
    · rw [h]
      exact ⟨rfl, id, by simp [Call.isLocking], fun _ => rfl⟩
    · rw [h]
      exact .refl _ s
  | apply m statements user =>
    obtain ⟨f, h⟩ | ⟨time, h⟩ := answer_apply m statements user s
    · rw [h]
      exact .refl _ s
    · rw [h]
      exact ⟨rfl, id, fun _ => rfl, by simp [Call.isApply]⟩

theorem records_answer (c : Call) (s : Rehearsal) :
    (answer c s).2.records = s.records ++ (applications [⟨c, (answer c s).1⟩]).map (·.record) := by
  cases hc : c.isApply with
  | false => rw [(keeps_answer c s).records hc, applications_eq_nil (by simpa using hc), List.map_nil, List.append_nil]
  | true =>
    cases c with
    | apply m statements user =>
      obtain ⟨f, h⟩ | ⟨time, h⟩ := answer_apply m statements user s
      · rw [h]
        exact (List.append_nil _).symm
      · rw [h]
        rfl
    | _ => simp [Call.isApply] at hc

/-- The records that are read are those that there are. -/
theorem answer_appliedRecords {s : Rehearsal} {records : List Record} (h : (answer .appliedRecords s).1 = .ok records) :
    records = s.records := by
  rw [answer_eq_perform h] at h
  exact (Except.ok.inj h).symm

theorem answer_databaseExists {s : Rehearsal} {there : Bool} (h : (answer .databaseExists s).1 = .ok there) :
    there = s.databaseExists := by
  rw [answer_eq_perform h] at h
  exact (Except.ok.inj h).symm

/-! ## Any number of calls -/

variable {s u : Rehearsal} {t : List Answered}

/-- A rehearsal keeps its records and adds those of the applications. -/
theorem serves_records (h : Serves answer s t u) : u.records = s.records ++ (applications t).map (·.record) := by
  induction h with
  | nil s => simp
  | @cons s u c a t ha _ ih =>
    rw [ih, records_answer, ha, applications_cons ⟨c, a⟩ t, List.map_append, List.append_assoc]

/-- Each application is recorded with what its migration says. -/
theorem serves_record (h : Serves answer s t u) {a : Application} (ha : a ∈ applications t) :
    ∃ user time, a.record = a.migration.record user time := by
  obtain ⟨statements, user, hx⟩ := mem_applications.1 ha
  induction h with
  | nil s => simp at hx
  | @cons s u c r t hr _ ih =>
    obtain hx | hx := List.mem_cons.1 hx
    · cases hx
      obtain ⟨f, h⟩ | ⟨time, h⟩ := answer_apply a.migration statements user s
      · rw [h] at hr
        simp at hr
      · rw [h] at hr
        exact ⟨user, time, (Except.ok.inj hr).symm⟩
    · exact ih (mem_applications.2 ⟨statements, user, hx⟩) hx

theorem serves_failures (h : Serves answer s t u) : u.failures = s.failures :=
  h.keeps (fun _ => True) (·.failures = s.failures) (fun c v _ hv => (keeps_answer c v).failures.trans hv)
    (fun _ _ => trivial) rfl

theorem serves_databaseExists (h : Serves answer s t u) (hs : s.databaseExists = true) : u.databaseExists = true :=
  h.keeps (fun _ => True) (·.databaseExists = true) (fun c v _ hv => (keeps_answer c v).databaseExists hv)
    (fun _ _ => trivial) hs

/-- Calls that neither take the lock nor give it back leave it as it is. -/
theorem serves_lockedBy (h : Serves answer s t u) (ht : ∀ x ∈ t, x.call.isLocking = false) : u.lockedBy = s.lockedBy :=
  h.keeps (·.isLocking = false) (·.lockedBy = s.lockedBy) (fun c v hc hv => ((keeps_answer c v).lockedBy hc).trans hv)
    ht rfl

end Rehearsal

end SchemaMigration
