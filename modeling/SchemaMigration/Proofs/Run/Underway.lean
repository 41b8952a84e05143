import SchemaMigration.Proofs.Run.Bracket

/-!
# Runs that are underway

`Run.quiet`     : the steps of a run with the events before its next call passed over.
`Run.Underway`  : what is left of a migrating run after some of its calls.
`Underway.next_call` : the call that comes next, by what has been answered up to now.

What is left of a run is known by its courses only: each of them, put after the calls up to now, is a course of the
whole run.
-/

namespace SchemaMigration.Run

set_option autoImplicit false

section

variable {σ α : Type} {d : Dialogue Step Step.Reply (Except Fault α)} {t : List Answered} {e : Except Fault α}

/-! ## Up to the next call -/

/-- The steps with the events before the next call passed over. -/
def quiet : Dialogue Step Step.Reply (Except Fault α) → Dialogue Step Step.Reply (Except Fault α)
  | .done e => .done e
  | .put (.call c) next => .put (.call c) next
  | .put (.note _) next => quiet (next ())

theorem quiet_cases (d : Dialogue Step Step.Reply (Except Fault α)) :
    (∃ e, quiet d = .done e) ∨ ∃ c next, quiet d = .put (.call c) next := by
  induction d with
  | done e => exact .inl ⟨e, rfl⟩
  | put q next ih =>
    cases q with
    | call c => exact .inr ⟨c, next, rfl⟩
    | note n => exact ih ()

theorem course_quiet : Course (quiet d) t e ↔ Course d t e := by
  induction d with
  | done x => exact Iff.rfl
  | put q next ih =>
    cases q with
    | call c => exact Iff.rfl
    | note n =>
      constructor
      · intro h
        exact .note ((ih ()).1 h)
      · rintro (_ | _ | h)
        exact (ih ()).2 h

theorem state_quiet (engine : Engine σ) (d : Dialogue Step Step.Reply (Except Fault α)) (s : σ) :
    (playSteps engine (quiet d) s).state = (playSteps engine d s).state := by
  induction d with
  | done x => rfl
  | put q next ih =>
    cases q with
    | call c => rfl
    | note n => exact ih ()

/-- Every run can go on, at least with calls that fail. -/
theorem exists_course (d : Dialogue Step Step.Reply (Except Fault α)) : ∃ t e, Course d t e := by
  induction d with
  | done e => exact ⟨[], e, .done e⟩
  | put q next ih =>
    cases q with
    | call c =>
      obtain ⟨t, e, h⟩ := ih (.error (.connection ""))
      exact ⟨_, e, .call h⟩
    | note n =>
      obtain ⟨t, e, h⟩ := ih ()
      exact ⟨t, e, .note h⟩

/-- Steps that make no more calls have come to their end. -/
theorem quiet_eq_done (hnone : ∀ t e, Course d t e → t = []) : ∃ e, quiet d = .done e := by
  obtain h | ⟨c, next, h⟩ := quiet_cases d
  · exact h
  · obtain ⟨t, e, ht⟩ := exists_course (next (.error (.connection "")))
    have hcall : Course (quiet d) (⟨c, .error (.connection "")⟩ :: t) e := by
      rw [h]
      exact .call ht
    exact absurd (hnone _ _ (course_quiet.1 hcall)) (List.cons_ne_nil _ _)

/-- An engine that gives the answers of a course is played along it. -/
theorem Course.played {engine : Engine σ} {s u : σ} (h : Course d t e) (hs : Serves engine s t u) :
    (playSteps engine d s).state = u := by
  induction h generalizing s with
  | done e =>
    cases hs
    rfl
  | call _ ih =>
    rcases hs with _ | ⟨ha, hs⟩
    obtain rfl := ha
    exact ih hs
  | note _ ih => exact ih hs

/-- Steps with the courses of other steps leave the same state. -/
theorem state_eq_of_courses {d d' : Dialogue Step Step.Reply (Except Fault α)}
    (h : ∀ t e, Course d t e → Course d' t e) (engine : Engine σ) (s : σ) :
    (playSteps engine d s).state = (playSteps engine d' s).state := by
  have hserves := serves_transcript (ExceptT.mk d : Run α) engine s
  have hcourse := course_transcript (ExceptT.mk d : Run α) engine s
  exact ((h _ _ hcourse).played hserves).symm

end

/-! ## Where a call stands in a migrating run -/

variable {o : RunOptions} {folder : Folder} {t u : List Answered} {x : Answered} {e : Except Fault Report}

/-- The calls before a run asks for the lock, when nothing has failed. -/
def Entered (o : RunOptions) (t : List Answered) : Prop :=
  ∃ opening, Opens o opening (.ok ()) ∧ t = opening ++ [⟨.ensureBookkeeping, .ok ()⟩]

/-- The calls of a run that has the lock and works. -/
def HasLock (o : RunOptions) (t : List Answered) : Prop :=
  ∃ before work, Entered o before ∧ t = before ++ ⟨.tryLock o.holder, .ok .acquired⟩ :: work ∧
    ∀ x ∈ work, x.call.isWork = true

theorem Entered.isOpening (h : Entered o t) : ∀ x ∈ t, x.call.isOpening = true := by
  obtain ⟨opening, hopens, rfl⟩ := h
  exact hopens.ensured

/-- A call of a migrating run, after these calls and before those. -/
inductive Stands (o : RunOptions) (folder : Folder) (t : List Answered) :
    Answered → List Answered → Except Fault Report → Prop
  | opening {x : Answered} {u : List Answered} {e : Except Fault Report} (ht : ∀ y ∈ t, y.call.isOpening = true)
      (hx : x.call.isOpening = true) : Stands o folder t x u e
  | unlocked (ht : Entered o t) (f : Fault) : Stands o folder t ⟨.tryLock o.holder, .error f⟩ [] (.error f)
  | refused (ht : Entered o t) (other : String) :
      Stands o folder t ⟨.tryLock o.holder, .ok (.heldBy other)⟩ [] (.error (.locked other))
  | acquired {u : List Answered} {e : Except Fault Report} (ht : Entered o t)
      (hu : Course (underLock o folder).run u e) : Stands o folder t ⟨.tryLock o.holder, .ok .acquired⟩ u e
  | working {x : Answered} {u : List Answered} {e : Except Fault Report} (ht : HasLock o t)
      (hx : x.call.isWork = true) : Stands o folder t x u e
  | releasing (ht : HasLock o t) (released : Except Fault Unit) (e : Except Fault Report) :
      Stands o folder t ⟨.unlock o.holder, released⟩ [] e

/-- Where two lists with a mark in each are the same, the marks are, or one comes before the other. -/
theorem append_cons_eq_append_cons {x y : Answered} {a b c v : List Answered} (h : a ++ x :: b = c ++ y :: v) :
    (a = c ∧ x = y ∧ b = v) ∨ (∃ w, c = a ++ x :: w) ∨ ∃ w, a = c ++ y :: w ∧ v = w ++ x :: b := by
  obtain ⟨w, rfl, hw⟩ | ⟨w, rfl, hw⟩ := List.append_eq_append_iff.1 h
  · cases w with
    | nil =>
      obtain ⟨rfl, rfl⟩ := List.cons.inj hw
      exact .inl ⟨(List.append_nil _).symm, rfl, rfl⟩
    | cons z w =>
      obtain ⟨rfl, rfl⟩ := List.cons.inj hw
      exact .inr (.inl ⟨w, rfl⟩)
  · cases w with
    | nil =>
      obtain ⟨rfl, rfl⟩ := List.cons.inj hw
      exact .inl ⟨List.append_nil _, rfl, rfl⟩
    | cons z w =>
      obtain ⟨rfl, rfl⟩ := List.cons.inj hw
      exact .inr (.inr ⟨w, rfl, rfl⟩)

/-- A call before or at the end of calls that open the database, and their last one. -/
theorem stands_of_entered {before rest : List Answered} {outcome : Except Fault LockOutcome}
    (hbefore : Entered o before) (h : t ++ x :: u = before ++ ⟨.tryLock o.holder, outcome⟩ :: rest)
    (hlast : Stands o folder before ⟨.tryLock o.holder, outcome⟩ rest e)
    (hunder : ∀ work, rest = work ++ x :: u →
      Stands o folder (before ++ ⟨.tryLock o.holder, outcome⟩ :: work) x u e) : Stands o folder t x u e := by
  obtain ⟨rfl, rfl, rfl⟩ | ⟨w, rfl⟩ | ⟨w, rfl, hrest⟩ := append_cons_eq_append_cons h
  · exact hlast
  · have hopening := hbefore.isOpening
    exact .opening (fun y hy => hopening y (List.mem_append_left _ hy)) (hopening x (by simp))
  · exact hunder w hrest

/-- Every call of a migrating run stands somewhere. -/
theorem stands_of_course (h : Course (migrate o folder).run (t ++ x :: u) e) : Stands o folder t x u e := by
  have hmem : x ∈ t ++ x :: u := by simp
  have hsub : ∀ y ∈ t, y ∈ t ++ x :: u := fun y hy => List.mem_append_left _ hy
  obtain ⟨f, hopens, rfl⟩ | ⟨opening, hopens, hends⟩ := course_migrate_cases h
  · exact .opening (fun y hy => hopens.isOpening y (hsub y hy)) (hopens.isOpening x hmem)
  have hentered : Entered o (opening ++ [⟨.ensureBookkeeping, .ok ()⟩]) := ⟨opening, hopens, rfl⟩
  obtain ⟨f, ht, rfl⟩ | ⟨f, ht, rfl⟩ | ⟨other, ht, rfl⟩ | ⟨v, ht, hv⟩ := hends
  · rw [ht] at hmem hsub
    exact .opening (fun y hy => hopens.ensured y (hsub y hy)) (hopens.ensured x hmem)
  · rw [List.append_cons opening] at ht
    refine stands_of_entered hentered ht (.unlocked hentered f) fun work hwork => ?_
    simp at hwork
  · rw [List.append_cons opening] at ht
    refine stands_of_entered hentered ht (.refused hentered other) fun work hwork => ?_
    simp at hwork
  · rw [List.cons_append, List.append_cons opening] at ht
    refine stands_of_entered hentered ht (.acquired hentered hv) fun work hwork => ?_
    -- under the lock a call belongs to the work, or it is the release after it
    obtain ⟨worked, ended, released, rfl, hworks, -⟩ := course_underLock hv
    have hisWork := (course_runPending hworks).isWork
    obtain ⟨rfl, rfl, rfl⟩ | ⟨w, rfl⟩ | ⟨w, -, hnone⟩ := append_cons_eq_append_cons hwork.symm
    · exact .releasing ⟨_, _, hentered, rfl, hisWork⟩ released e
    · exact .working ⟨_, _, hentered, rfl, fun y hy => hisWork y (List.mem_append_left _ hy)⟩ (hisWork x (by simp))
    · simp at hnone

/-! ## Openings -/

/-- A database that is opened is there, or it is made. -/
theorem Opens.there (h : Opens o t (.ok ())) :
    ⟨.databaseExists, .ok true⟩ ∈ t ∨ ⟨.databaseExists, .ok false⟩ ∈ t ∧ ⟨.createDatabase, .ok ()⟩ ∈ t := by
  cases h <;> simp

/-! ## Runs underway -/

/-- What is left of a migrating run that has made these calls. -/
def Underway (o : RunOptions) (folder : Folder) (t : List Answered)
    (d : Dialogue Step Step.Reply (Except Fault Report)) : Prop :=
  ∀ u e, Course d u e → Course (migrate o folder).run (t ++ u) e

namespace Underway

variable {d : Dialogue Step Step.Reply (Except Fault Report)} {c : Call}
  {next : Except Fault c.Answer → Dialogue Step Step.Reply (Except Fault Report)}

theorem start (o : RunOptions) (folder : Folder) : Underway o folder [] (quiet (migrate o folder).run) :=
  fun _ _ h => course_quiet.1 h

theorem answered (h : Underway o folder t (.put (.call c) next)) (a : Except Fault c.Answer) :
    Underway o folder (t ++ [⟨c, a⟩]) (quiet (next a)) := by
  intro u e hu
  rw [List.append_assoc]
  exact h _ e (.call (course_quiet.1 hu))

/-- Whatever comes after an answer, the call stands where it stands. -/
theorem stands (h : Underway o folder t (.put (.call c) next)) {a : Except Fault c.Answer} (hu : Course (next a) u e) :
    Stands o folder t ⟨c, a⟩ u e :=
  stands_of_course (h _ e (.call hu))

/-- A call that fails shows where it stands. -/
theorem next_call (h : Underway o folder t (.put (.call c) next)) :
    (∀ x ∈ t, x.call.isOpening = true) ∧ (c.isOpening = true ∨ c = .tryLock o.holder) ∨
      HasLock o t ∧ (c.isWork = true ∨ c = .unlock o.holder) := by
  obtain ⟨u, e, hu⟩ := exists_course (next (.error (.connection "")))
  have hstands := h.stands hu
  generalize hx : (⟨c, .error (.connection "")⟩ : Answered) = x at hstands
  cases hstands with
  | opening ht hopening =>
    subst hx
    exact .inl ⟨ht, .inl hopening⟩
  | unlocked ht | refused ht | acquired ht =>
    have hcall := congrArg Answered.call hx
    exact .inl ⟨ht.isOpening, .inr hcall⟩
  | working ht hwork =>
    subst hx
    exact .inr ⟨ht, .inl hwork⟩
  | releasing ht =>
    have hcall := congrArg Answered.call hx
    exact .inr ⟨ht, .inr hcall⟩

/-- A run that is refused the lock has come to its end. -/
theorem refused {holder : String}
    {next : Except Fault LockOutcome → Dialogue Step Step.Reply (Except Fault Report)}
    (h : Underway o folder t (.put (.call (.tryLock holder)) next)) (other : String) :
    Entered o t ∧ quiet (next (.ok (.heldBy other))) = .done (.error (.locked other)) := by
  have hends {u : List Answered} {e : Except Fault Report} (hu : Course (next (.ok (.heldBy other))) u e) :
      Entered o t ∧ u = [] ∧ e = .error (.locked other) := by
    cases h.stands hu with
    | opening _ hx | working _ hx => simp [Call.isOpening, Call.isWork] at hx
    | refused ht => exact ⟨ht, rfl, rfl⟩
  obtain ⟨e, he⟩ := quiet_eq_done fun u e hu => (hends hu).2.1
  have hdone : Course (quiet (next (.ok (.heldBy other)))) [] e := he ▸ .done e
  obtain ⟨ht, -, rfl⟩ := hends (course_quiet.1 hdone)
  exact ⟨ht, he⟩

theorem acquired {holder : String}
    {next : Except Fault LockOutcome → Dialogue Step Step.Reply (Except Fault Report)}
    (h : Underway o folder t (.put (.call (.tryLock holder)) next)) :
    Entered o t ∧ ∀ u e, Course (next (.ok .acquired)) u e → Course (underLock o folder).run u e := by
  have hends {u : List Answered} {e : Except Fault Report} (hu : Course (next (.ok .acquired)) u e) :
      Entered o t ∧ Course (underLock o folder).run u e := by
    cases h.stands hu with
    | opening _ hx | working _ hx => simp [Call.isOpening, Call.isWork] at hx
    | acquired ht hu => exact ⟨ht, hu⟩
  obtain ⟨u, e, hu⟩ := exists_course (next (.ok .acquired))
  exact ⟨(hends hu).1, fun u e hu => (hends hu).2⟩

/-- A run that has released the lock has come to its end. -/
theorem released {holder : String} {next : Except Fault Unit → Dialogue Step Step.Reply (Except Fault Report)}
    (h : Underway o folder t (.put (.call (.unlock holder)) next)) (a : Except Fault Unit) :
    ∃ e, quiet (next a) = .done e := by
  refine quiet_eq_done fun u e hu => ?_
  cases h.stands hu with
  | opening _ hx | working _ hx => simp [Call.isOpening, Call.isWork] at hx
  | releasing => rfl

end Underway

end SchemaMigration.Run
