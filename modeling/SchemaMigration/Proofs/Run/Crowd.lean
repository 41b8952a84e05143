import Mathlib.Data.List.Induction
import Mathlib.Logic.Function.Basic
import SchemaMigration.Proofs.Run.Underway

/-!
# Runs that share a database

`Errand`          : a migrating run to be made, with its options and its folder.
`Crowd`           : runs underway on one rehearsed database, with all calls up to now.
`Crowd.turn`      : one of the runs makes its next call.
`Crowd.after`     : the runs make calls in any order.
`Crowd.Holds`     : a run has got the lock and not asked for its release.
`Crowd.Reached`   : what is left of each run fits the calls that it has made, and the database fits all calls.
`Reached.move`    : a call is made outside the lock, or enters it, or is work under it, or releases it.

A turn is a single call with its answer. Events are passed over: nobody but the run itself notices them.
-/

namespace SchemaMigration

set_option autoImplicit false

open Run (Course Entered HasLock Serves Underway)

/-! ## Vocabulary -/

/-- A migrating run to be made. -/
structure Errand where
  options : RunOptions
  folder : Folder

def Errand.run (e : Errand) : Run Report := Run.migrate e.options e.folder

/-- Whether the lock was asked for and got. -/
def Answered.isAcquisition : Answered → Bool
  | ⟨.tryLock _, .ok .acquired⟩ => true
  | _ => false

/-- Whether the call asks for the release of the lock. -/
def Call.isUnlock : Call → Bool
  | unlock _ => true
  | _ => false

/-- The rehearsal with a database. -/
def Rehearsal.found (s : Rehearsal) : Rehearsal := { s with databaseExists := true }

/-- Runs underway on one rehearsed database. -/
structure Crowd (ι : Type) where
  target : Rehearsal
  /-- What each run has still to do; it begins with a call, or the run has ended. -/
  left : ι → Dialogue Step Step.Reply (Except Fault Report)
  /-- The calls up to now, each with the run that made it. -/
  history : List (ι × Answered)

namespace Crowd

variable {ι : Type} [DecidableEq ι]

def start (errands : ι → Errand) (s : Rehearsal) : Crowd ι := ⟨s, fun i => Run.quiet (errands i).run.run, []⟩

/-- One of the runs has its call answered. -/
def asked (c : Crowd ι) (i : ι) (q : Call)
    (next : Except Fault q.Answer → Dialogue Step Step.Reply (Except Fault Report)) : Crowd ι :=
  let (a, target) := Rehearsal.answer q c.target
  ⟨target, Function.update c.left i (Run.quiet (next a)), c.history ++ [(i, ⟨q, a⟩)]⟩

/-- One of the runs makes its next call, if it has not ended. -/
def turn (c : Crowd ι) (i : ι) : Crowd ι :=
  match c.left i with
  | .put (.call q) next => c.asked i q next
  | _ => c

/-- The runs make calls in this order. -/
def after (c : Crowd ι) (order : List ι) : Crowd ι := order.foldl turn c

/-- The calls that one of the runs has made. -/
def calls (c : Crowd ι) (i : ι) : List Answered := (c.history.filter (·.1 = i)).map (·.2)

/-- The runs that got the lock, in the order in which they got it. -/
def winners (c : Crowd ι) : List ι := (c.history.filter (·.2.isAcquisition)).map (·.1)

/-- The run has got the lock and not asked for its release. -/
def Holds (c : Crowd ι) (i : ι) : Prop :=
  (∃ x ∈ c.calls i, x.isAcquisition = true) ∧ ∀ x ∈ c.calls i, x.call.isUnlock = false

/-- The run has ended so. -/
def Ended (c : Crowd ι) (i : ι) (e : Except Fault Report) : Prop := c.left i = .done e

/-- Whether the run has ended. -/
def hasEnded (c : Crowd ι) (i : ι) : Bool :=
  match c.left i with
  | .done _ => true
  | .put .. => false

end Crowd

/-! ## Calls by their sort -/

theorem Call.isUnlock_of_isOpening {q : Call} (h : q.isOpening = true) : q.isUnlock = false := by
  cases q <;> simp_all [isOpening, isUnlock]

theorem Call.isWork_of_isOpening {q : Call} (h : q.isOpening = true) : q.isWork = false := by
  cases q <;> simp_all [isOpening, isWork]

theorem Call.isUnlock_of_isWork {q : Call} (h : q.isWork = true) : q.isUnlock = false := by
  cases q <;> simp_all [isWork, isUnlock]

theorem Answered.isAcquisition_iff {x : Answered} :
    x.isAcquisition = true ↔ ∃ holder, x = ⟨.tryLock holder, .ok .acquired⟩ := by
  constructor
  · obtain ⟨q, a⟩ := x
    intro h
    cases q with
    | tryLock holder =>
      obtain f | _ | other := a
      · simp [isAcquisition] at h
      · exact ⟨holder, rfl⟩
      · simp [isAcquisition] at h
    | _ => simp [isAcquisition] at h
  · rintro ⟨holder, rfl⟩
    rfl

theorem Answered.isAcquisition_eq_false {x : Answered} (h : ∀ holder, x.call ≠ .tryLock holder) :
    x.isAcquisition = false := by
  rw [Bool.eq_false_iff]
  intro hx
  obtain ⟨holder, rfl⟩ := isAcquisition_iff.1 hx
  exact h holder rfl

theorem Answered.isAcquisition_of_isOpening {x : Answered} (h : x.call.isOpening = true) : x.isAcquisition = false := by
  refine isAcquisition_eq_false fun holder hx => ?_
  simp [hx, Call.isOpening] at h

theorem Answered.isAcquisition_of_isWork {x : Answered} (h : x.call.isWork = true) : x.isAcquisition = false := by
  refine isAcquisition_eq_false fun holder hx => ?_
  simp [hx, Call.isWork] at h

/-! ## Rehearsals with a database -/

namespace Rehearsal

@[simp] theorem records_found (s : Rehearsal) : s.found.records = s.records := rfl

/-- To open a database changes at most whether there is one. -/
theorem found_answer_of_isOpening {q : Call} (h : q.isOpening = true) (s : Rehearsal) :
    (answer q s).2.found = s.found := by
  obtain hanswer | ⟨f, hanswer⟩ := answer_cases q s
  · rw [hanswer]
    cases q with
    | databaseExists | createDatabase | connect | ensureBookkeeping => rfl
    | _ => simp [Call.isOpening] at h
  · rw [hanswer]

/-- Whether there is a database matters to no other call than the one that asks for it. -/
theorem answer_found {q : Call} (h : q ≠ .databaseExists) (s : Rehearsal) :
    answer q s.found = ((answer q s).1, (answer q s).2.found) := by
  have hperform : perform q s.found = ((perform q s).1, (perform q s).2.found) := by
    cases q with
    | databaseExists => exact absurd rfl h
    | tryLock holder => cases hlock : s.lockedBy <;> simp [perform, found, hlock]
    | unlock holder => by_cases hheld : s.lockedBy = some holder <;> simp [perform, found, hheld]
    | apply m statements user =>
      change s.found.apply m statements user = ((s.apply m statements user).1, (s.apply m statements user).2.found)
      unfold Rehearsal.apply
      change (if s.fails statements = true then _ else _) = _
      split <;> rfl
    | _ => rfl
  cases hk : q.kind? with
  | none =>
    simp only [answer, hk]
    exact hperform
  | some k =>
    have hfailure : s.found.failure? k = s.failure? k := rfl
    cases htold : s.failure? k with
    | none =>
      rw [answer_of_silent hk (hfailure.trans htold), answer_of_silent hk htold]
      exact hperform
    | some text => rw [answer_of_told hk (hfailure.trans htold), answer_of_told hk htold]

/-- A database that is not there comes from being made. -/
theorem created_of_databaseExists {q : Call} {s : Rehearsal} (hmissing : s.databaseExists = false)
    (hthere : (answer q s).2.databaseExists = true) : (⟨q, (answer q s).1⟩ : Answered) = ⟨.createDatabase, .ok ()⟩ := by
  obtain hanswer | ⟨f, hanswer⟩ := answer_cases q s
  · rw [hanswer] at hthere ⊢
    cases q with
    | createDatabase => rfl
    | tryLock holder => cases hlock : s.lockedBy <;> simp [perform, hlock, hmissing] at hthere
    | unlock holder => by_cases hheld : s.lockedBy = some holder <;> simp [perform, hheld, hmissing] at hthere
    | apply m statements user =>
      by_cases hfails : s.fails statements <;> simp [perform, Rehearsal.apply, hfails, hmissing] at hthere
    | _ => simp [perform, hmissing] at hthere
  · simp [hanswer, hmissing] at hthere

/-- What is left after a call is what the call led to. -/
theorem state_answer_found {q : Call} (h : q ≠ .databaseExists)
    (next : Except Fault q.Answer → Dialogue Step Step.Reply (Except Fault Report)) (s : Rehearsal) :
    (Run.playSteps answer (Run.quiet (next (answer q s).1)) (answer q s).2.found).state =
      (Run.playSteps answer (.put (.call q) next) s.found).state := by
  rw [Run.state_quiet]
  change _ = (Run.playSteps answer (next (answer q s.found).1) (answer q s.found).2).state
  rw [answer_found h]

end Rehearsal

namespace Crowd

variable {ι : Type} [DecidableEq ι] {c : Crowd ι} {i j : ι} {q : Call}
  {next : Except Fault q.Answer → Dialogue Step Step.Reply (Except Fault Report)}

omit [DecidableEq ι] in
theorem exists_ended (h : c.hasEnded i = true) : ∃ e, c.Ended i e := by
  unfold hasEnded at h
  split at h
  · next e hleft => exact ⟨e, hleft⟩
  · simp at h

/-! ## One call -/

@[simp] theorem target_asked : (c.asked i q next).target = (Rehearsal.answer q c.target).2 := rfl

@[simp] theorem left_asked_self :
    (c.asked i q next).left i = Run.quiet (next (Rehearsal.answer q c.target).1) := by
  simp [asked]

@[simp] theorem left_asked_of_ne (h : j ≠ i) : (c.asked i q next).left j = c.left j := by
  simp [asked, h]

@[simp] theorem history_asked :
    (c.asked i q next).history = c.history ++ [(i, ⟨q, (Rehearsal.answer q c.target).1⟩)] := rfl

@[simp] theorem calls_asked_self :
    (c.asked i q next).calls i = c.calls i ++ [⟨q, (Rehearsal.answer q c.target).1⟩] := by
  simp [calls]

@[simp] theorem calls_asked_of_ne (h : j ≠ i) : (c.asked i q next).calls j = c.calls j := by
  simp [calls, Ne.symm h]

theorem winners_asked_of_acquisition (h : Answered.isAcquisition ⟨q, (Rehearsal.answer q c.target).1⟩ = true) :
    (c.asked i q next).winners = c.winners ++ [i] := by
  simp [winners, h]

theorem winners_asked (h : Answered.isAcquisition ⟨q, (Rehearsal.answer q c.target).1⟩ = false) :
    (c.asked i q next).winners = c.winners := by
  simp [winners, h]

theorem exists_winners_asked (c : Crowd ι) (i : ι) (q : Call)
    (next : Except Fault q.Answer → Dialogue Step Step.Reply (Except Fault Report)) :
    ∃ more, (c.asked i q next).winners = c.winners ++ more := by
  rw [winners, history_asked, List.filter_append, List.map_append]
  exact ⟨_, rfl⟩

theorem holds_asked_of_ne (h : j ≠ i) : (c.asked i q next).Holds j ↔ c.Holds j := by
  rw [Holds, calls_asked_of_ne h, Holds]

theorem holds_asked_self :
    (c.asked i q next).Holds i ↔
      (Answered.isAcquisition ⟨q, (Rehearsal.answer q c.target).1⟩ = true ∨ ∃ x ∈ c.calls i, x.isAcquisition = true) ∧
        q.isUnlock = false ∧ ∀ x ∈ c.calls i, x.call.isUnlock = false := by
  unfold Holds
  rw [calls_asked_self]
  constructor
  · rintro ⟨⟨x, hx, hacquired⟩, hkept⟩
    rw [List.forall_mem_append, List.forall_mem_singleton] at hkept
    obtain hx | hx := List.mem_append.1 hx
    · exact ⟨.inr ⟨x, hx, hacquired⟩, hkept.2, hkept.1⟩
    · obtain rfl := List.mem_singleton.1 hx
      exact ⟨.inl hacquired, hkept.2, hkept.1⟩
  · rintro ⟨hacquired, hq, hkept⟩
    rw [List.forall_mem_append, List.forall_mem_singleton]
    refine ⟨?_, hkept, hq⟩
    obtain hacquired | ⟨x, hx, hacquired⟩ := hacquired
    · exact ⟨_, List.mem_concat_self, hacquired⟩
    · exact ⟨x, List.mem_append_left _ hx, hacquired⟩

theorem mem_winners_of_holds (h : c.Holds i) : i ∈ c.winners := by
  obtain ⟨⟨x, hx, hacquired⟩, -⟩ := h
  obtain ⟨⟨j, y⟩, hy, rfl⟩ := List.mem_map.1 hx
  rw [List.mem_filter] at hy
  obtain rfl : j = i := by simpa using hy.2
  exact List.mem_map.2 ⟨(j, y), List.mem_filter.2 ⟨hy.1, hacquired⟩, rfl⟩

/-! ## Reached crowds -/

variable {errands : ι → Errand} {s : Rehearsal}

/-- What is left of each run fits the calls that it has made, and the database fits all calls. -/
structure Reached (errands : ι → Errand) (s : Rehearsal) (c : Crowd ι) : Prop where
  underway : ∀ i, Underway (errands i).options (errands i).folder (c.calls i) (c.left i)
  served : Serves Rehearsal.answer s (c.history.map (·.2)) c.target

theorem reached_start (errands : ι → Errand) (s : Rehearsal) : Reached errands s (start errands s) where
  underway _ := Underway.start _ _
  served := .nil s

theorem Reached.asked (h : Reached errands s c) (hleft : c.left i = .put (.call q) next) :
    Reached errands s (c.asked i q next) where
  underway j := by
    by_cases hj : j = i
    · subst hj
      have hnext := h.underway j
      rw [hleft] at hnext
      rw [calls_asked_self, left_asked_self]
      exact hnext.answered _
    · rw [calls_asked_of_ne hj, left_asked_of_ne hj]
      exact h.underway j
  served := by
    rw [history_asked, List.map_append]
    exact Run.serves_append.2 ⟨c.target, h.served, .cons rfl (.nil _)⟩

/-- What holds at the start and is kept by every call holds after calls in any order. -/
theorem after_induction {P : Crowd ι → Prop} (hstart : P (start errands s))
    (hasked : ∀ c i q next, Reached errands s c → c.left i = .put (.call q) next → P c → P (c.asked i q next))
    (order : List ι) : P ((start errands s).after order) := by
  -- from the back: the last turn comes after all others
  suffices h : Reached errands s ((start errands s).after order) ∧ P ((start errands s).after order) from h.2
  induction order using List.reverseRecOn with
  | nil => exact ⟨reached_start errands s, hstart⟩
  | append_singleton order i ih =>
    obtain ⟨hreached, hP⟩ := ih
    rw [after, List.foldl_append]
    change Reached errands s (((start errands s).after order).turn i) ∧ P (((start errands s).after order).turn i)
    unfold turn
    split
    · next q next hleft => exact ⟨hreached.asked hleft, hasked _ i q next hreached hleft hP⟩
    · exact ⟨hreached, hP⟩

theorem reached_after (errands : ι → Errand) (s : Rehearsal) (order : List ι) :
    Reached errands s ((start errands s).after order) :=
  after_induction (reached_start errands s) (fun _ _ _ _ h hleft _ => h.asked hleft) order

/-! ## What a call does -/

theorem not_holds_of_isOpening (h : ∀ x ∈ c.calls i, x.call.isOpening = true) : ¬c.Holds i := by
  rintro ⟨⟨x, hx, hacquired⟩, -⟩
  simp [Answered.isAcquisition_of_isOpening (h x hx)] at hacquired

theorem holds_of_hasLock {o : RunOptions} (h : HasLock o (c.calls i)) : c.Holds i := by
  obtain ⟨before, work, hentered, hcalls, hwork⟩ := h
  constructor
  · exact ⟨⟨.tryLock o.holder, .ok .acquired⟩, by simp [hcalls], rfl⟩
  · intro x hx
    rw [hcalls, List.mem_append, List.mem_cons] at hx
    obtain hx | rfl | hx := hx
    · exact Call.isUnlock_of_isOpening (hentered.isOpening x hx)
    · rfl
    · exact Call.isUnlock_of_isWork (hwork x hx)

/-- A run without the lock opens the database or asks for the lock; a run with it works or releases it. -/
theorem Reached.next_call (h : Reached errands s c) (hleft : c.left i = .put (.call q) next) :
    ¬c.Holds i ∧ (q.isOpening = true ∨ q = .tryLock (errands i).options.holder) ∨
      c.Holds i ∧ (q.isWork = true ∨ q = .unlock (errands i).options.holder) := by
  have hunderway := h.underway i
  rw [hleft] at hunderway
  obtain ⟨hopening, hq⟩ | ⟨hlock, hq⟩ := hunderway.next_call
  · exact .inl ⟨not_holds_of_isOpening hopening, hq⟩
  · exact .inr ⟨holds_of_hasLock hlock, hq⟩

/-- A run that has ended does not hold the lock any more. -/
theorem Reached.not_holds_of_ended (h : Reached errands s c) {e : Except Fault Report} (hended : c.Ended i e) :
    ¬c.Holds i := by
  rintro ⟨⟨x, hx, hacquired⟩, hkept⟩
  have hcourse : Course (errands i).run.run (c.calls i ++ []) e := by
    refine h.underway i [] e ?_
    rw [hended]
    exact .done e
  rw [List.append_nil] at hcourse
  obtain hopening | ⟨before, a, rest, hcalls, hopening, -, hends⟩ := (Run.course_migrate hcourse).asks
  · simp [Answered.isAcquisition_of_isOpening (hopening x hx)] at hacquired
  · rw [hcalls] at hx hkept
    obtain ⟨rfl, hrefused⟩ | ⟨rfl, work, released, rfl⟩ := hends
    · obtain hx | hx := List.mem_append.1 hx
      · simp [Answered.isAcquisition_of_isOpening (hopening x hx)] at hacquired
      · obtain rfl := List.mem_singleton.1 hx
        obtain f | _ | other := a
        · simp [Answered.isAcquisition] at hacquired
        · exact hrefused rfl
        · simp [Answered.isAcquisition] at hacquired
    · simpa [Call.isUnlock] using hkept ⟨.unlock (errands i).options.holder, released⟩ (by simp)

/-- What a run with its next call makes of a crowd. -/
inductive Move (errands : ι → Errand) (i : ι) (c d : Crowd ι) : Prop
  | outside (hbefore : ¬c.Holds i) (hafter : ¬d.Holds i) (hwinners : d.winners = c.winners)
      (htarget : d.target.found = c.target.found)
  | enters (hentered : Entered (errands i).options (c.calls i)) (hafter : d.Holds i)
      (hwinners : d.winners = c.winners ++ [i]) (hfree : c.target.lockedBy = none)
      (htarget : d.target = { c.target with lockedBy := some (errands i).options.holder })
      (hleft : ∀ u e, Course (d.left i) u e → Course (Run.underLock (errands i).options (errands i).folder).run u e)
  | works (hbefore : c.Holds i) (hafter : d.Holds i) (hwinners : d.winners = c.winners)
      (hlock : d.target.lockedBy = c.target.lockedBy)
      (hplay : (Run.playSteps Rehearsal.answer (d.left i) d.target.found).state =
        (Run.playSteps Rehearsal.answer (c.left i) c.target.found).state)
  | releases (hbefore : c.Holds i) (hafter : ¬d.Holds i) (hwinners : d.winners = c.winners)
      (hplay : d.target.found = (Run.playSteps Rehearsal.answer (c.left i) c.target.found).state)

theorem Reached.move (h : Reached errands s c) (hleft : c.left i = .put (.call q) next) :
    Move errands i c (c.asked i q next) := by
  have hunderway := h.underway i
  rw [hleft] at hunderway
  -- the other calls of a run without the lock are no acquisitions
  have houtside (hbefore : ¬c.Holds i) (hunlock : q.isUnlock = false)
      (hrefused : Answered.isAcquisition ⟨q, (Rehearsal.answer q c.target).1⟩ = false)
      (htarget : (Rehearsal.answer q c.target).2.found = c.target.found) : Move errands i c (c.asked i q next) := by
    refine .outside hbefore (fun hafter => ?_) (winners_asked hrefused) htarget
    obtain ⟨hacquired, -, hkept⟩ := holds_asked_self.1 hafter
    exact hbefore ⟨hacquired.resolve_left (by simp [hrefused]), hkept⟩
  obtain ⟨hbefore, hq | rfl⟩ | ⟨hbefore, hq | rfl⟩ := h.next_call hleft
  · exact houtside hbefore (Call.isUnlock_of_isOpening hq) (Answered.isAcquisition_of_isOpening hq)
      (Rehearsal.found_answer_of_isOpening hq _)
  · obtain ⟨f, hanswer⟩ | ⟨other, -, hanswer⟩ | ⟨hfree, hanswer⟩ :=
      Rehearsal.answer_tryLock (errands i).options.holder c.target
    · exact houtside hbefore rfl (by rw [hanswer]; rfl) (by rw [hanswer])
    · exact houtside hbefore rfl (by rw [hanswer]; rfl) (by rw [hanswer])
    · have hacquired : Answered.isAcquisition ⟨_, (Rehearsal.answer (.tryLock (errands i).options.holder) c.target).1⟩ =
          true := by
        rw [hanswer]
        rfl
      obtain ⟨hentered, hnext⟩ := hunderway.acquired
      refine .enters hentered (holds_asked_self.2 ⟨.inl hacquired, rfl, ?_⟩)
        (winners_asked_of_acquisition hacquired) hfree ?_ ?_
      · exact fun x hx => Call.isUnlock_of_isOpening (hentered.isOpening x hx)
      · rw [target_asked, hanswer]
      · intro u e hu
        rw [left_asked_self, hanswer] at hu
        exact hnext u e (Run.course_quiet.1 hu)
  · have hunlock : q.isUnlock = false := Call.isUnlock_of_isWork hq
    have hacquired : Answered.isAcquisition ⟨q, (Rehearsal.answer q c.target).1⟩ = false :=
      Answered.isAcquisition_of_isWork hq
    refine .works hbefore (holds_asked_self.2 ⟨.inr hbefore.1, hunlock, hbefore.2⟩) (winners_asked hacquired) ?_ ?_
    · exact (Rehearsal.keeps_answer q c.target).lockedBy (Call.isLocking_of_isWork hq)
    · rw [left_asked_self, target_asked, hleft]
      refine Rehearsal.state_answer_found ?_ next c.target
      rintro rfl
      simp [Call.isWork] at hq
  · refine .releases hbefore (fun hafter => ?_) (winners_asked rfl) ?_
    · simpa [Call.isUnlock] using (holds_asked_self.1 hafter).2.1
    · obtain ⟨e, he⟩ := hunderway.released (Rehearsal.answer (.unlock (errands i).options.holder) c.target).1
      have hplay := Rehearsal.state_answer_found (by simp) next c.target
      rw [he] at hplay
      rw [hleft]
      exact hplay

end Crowd

end SchemaMigration
