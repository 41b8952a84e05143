import SchemaMigration.Proofs.Run.Crowd
import SchemaMigration.Proofs.Run.Entered

/-!
# Runs that share a database come one after another

`serially`        : a database after runs made one after another.
`Serialised`      : what the lock makes of runs whose calls come in any order.
`crowd_serialised` : it holds of any runs under different names.

While one run holds the lock, all others only open the database or ask for the lock. Neither touches the records, so
the database is the one that a serial execution is at (`follows_after`): whatever is left of the run with the lock would
lead to the end of that run in the serial execution. The two may differ in whether the database exists, since that is
settled before the lock is taken.
-/

namespace SchemaMigration

set_option autoImplicit false

open Run (Course Entered HasLock Serves Underway)

variable {ι : Type} [DecidableEq ι]

/-! ## Vocabulary -/

/-- The database after runs made one after another. -/
def serially (errands : ι → Errand) (order : List ι) (s : Rehearsal) : Rehearsal :=
  order.foldl (fun s i => ((errands i).run.play Rehearsal.answer s).state) s

/-- What the lock makes of runs that share a database. -/
structure Serialised (errands : ι → Errand) (s : Rehearsal) (c : Crowd ι) : Prop where
  /-- While a run has the lock, no other reads the records, applies a migration or releases a lock. -/
  exclusive : ∀ i j q next, c.Holds i → j ≠ i → c.left j = .put (.call q) next →
    q.isWork = false ∧ q.isUnlock = false
  refused : ∀ i holder other, (i, ⟨.tryLock holder, .ok (.heldBy other)⟩) ∈ c.history →
    c.Ended i (.error (.locked other)) ∧ ∀ x ∈ c.calls i, x.call.isApply = false
  once : ∃ added, c.target.records = s.records ++ added ∧ (added.map (·.version)).Nodup ∧
    ∀ r ∈ added, ∀ old ∈ s.records, old.version ≠ r.version
  /-- With a database from the start, or made by the first run that got the lock, it is as if the runs that got the lock
  had been made one after another. -/
  serial : (∀ i ∈ c.winners, ∃ e, c.Ended i e) →
    s.databaseExists = true ∨ (∀ i ∈ c.winners.head?, (errands i).options.createDatabase = true) →
    (serially errands c.winners s).records = c.target.records
  /-- If it was made by another run, it is so from a start with a database. -/
  serialFound : (∀ i ∈ c.winners, ∃ e, c.Ended i e) →
    (serially errands c.winners s.found).records = c.target.records

/-! ## Runs one after another -/

omit [DecidableEq ι] in
theorem serially_concat (errands : ι → Errand) (order : List ι) (i : ι) (s : Rehearsal) :
    serially errands (order ++ [i]) s = ((errands i).run.play Rehearsal.answer (serially errands order s)).state := by
  rw [serially, List.foldl_append]
  rfl

omit [DecidableEq ι] in
/-- Runs made one after another add records of new versions, each once. -/
theorem records_serially (errands : ι → Errand) (order : List ι) (s : Rehearsal) :
    ∃ added, (serially errands order s).records = s.records ++ added ∧ (added.map (·.version)).Nodup ∧
      ∀ r ∈ added, ∀ old ∈ s.records, old.version ≠ r.version := by
  -- from the back: the last run finds the records of all before it
  induction order using List.reverseRecOn with
  | nil => exact ⟨[], (List.append_nil _).symm, .nil, by simp⟩
  | append_singleton order i ih =>
    obtain ⟨added, hrecords, hnodup, hnew⟩ := ih
    obtain ⟨done, hdone, hrun, -, -⟩ :=
      migrate_advances (errands i).options (errands i).folder (serially errands order s)
    have hdue : ∀ r ∈ recordsFrom (errands i).options.user (serially errands order s).applies done,
        ∀ old ∈ s.records ++ added, old.version ≠ r.version := by
      intro r hr old hold
      have hversion := List.mem_map_of_mem (f := (·.version)) hr
      rw [map_version_recordsFrom] at hversion
      obtain ⟨m, hm, heq⟩ := List.mem_map.1 hversion
      rw [← heq]
      exact (Folder.mem_due (hdone.subset hm)).2 old (hrecords ▸ hold)
    refine ⟨added ++ recordsFrom (errands i).options.user (serially errands order s).applies done, ?_, ?_, ?_⟩
    · rw [serially_concat, ← List.append_assoc, ← hrecords]
      exact hrun
    · rw [List.map_append, List.nodup_append', map_version_recordsFrom]
      refine ⟨hnodup, Ascending.nodup ((Folder.ascending_due _ _).sublist hdone.sublist), fun v hv happlied => ?_⟩
      obtain ⟨old, hold, rfl⟩ := List.mem_map.1 hv
      obtain ⟨m, hm, hversion⟩ := List.mem_map.1 happlied
      exact (Folder.mem_due (hdone.subset hm)).2 old (hrecords ▸ List.mem_append_right _ hold) hversion.symm
    · intro r hr old hold
      obtain hr | hr := List.mem_append.1 hr
      · exact hnew r hr old hold
      · exact hdue r hr old (List.mem_append_left _ hold)

namespace Crowd

variable {errands : ι → Errand} {s s₀ : Rehearsal} {c : Crowd ι} {i j : ι} {q : Call}
  {next : Except Fault q.Answer → Dialogue Step Step.Reply (Except Fault Report)}

/-! ## The lock -/

/-- The lock bears the name of the run that holds it. -/
def Locked (errands : ι → Errand) (c : Crowd ι) : Prop :=
  ∀ i, c.Holds i → c.target.lockedBy = some (errands i).options.holder

theorem Locked.unique (h : Locked errands c) (hdistinct : Function.Injective fun i => (errands i).options.holder)
    (hi : c.Holds i) (hj : c.Holds j) : j = i :=
  hdistinct (Option.some.inj ((h j hj).symm.trans (h i hi)))

theorem Locked.asked (h : Locked errands c) (hdistinct : Function.Injective fun i => (errands i).options.holder)
    (hmove : Move errands i c (c.asked i q next)) : Locked errands (c.asked i q next) := by
  intro j hj
  by_cases hji : j = i
  · subst hji
    cases hmove with
    | outside _ hafter => exact absurd hj hafter
    | enters _ _ _ _ htarget => rw [htarget]
    | works hbefore _ _ hlock => rw [hlock, h j hbefore]
    | releases _ hafter => exact absurd hj hafter
  · rw [holds_asked_of_ne hji] at hj
    have hlocked := h j hj
    cases hmove with
    | outside _ _ _ htarget => exact (congrArg Rehearsal.lockedBy htarget).trans hlocked
    | enters _ _ _ hfree => simp [hlocked] at hfree
    | works hbefore => exact absurd (h.unique hdistinct hbefore hj) hji
    | releases hbefore => exact absurd (h.unique hdistinct hbefore hj) hji

theorem not_holds_start (errands : ι → Errand) (s : Rehearsal) (i : ι) : ¬(start errands s).Holds i := by
  rintro ⟨⟨x, hx, -⟩, -⟩
  simp [start, calls] at hx

theorem locked_after (hdistinct : Function.Injective fun i => (errands i).options.holder) (order : List ι) :
    Locked errands ((start errands s).after order) :=
  after_induction (fun i hi => absurd hi (not_holds_start errands s i))
    (fun _ _ _ _ h hleft hlocked => hlocked.asked hdistinct (h.move hleft)) order

/-! ## The serial execution -/

/-- The serial execution begins with a database, or with the first of these runs making one. -/
def Opened (errands : ι → Errand) (s s₀ : Rehearsal) (order : List ι) : Prop :=
  s₀.databaseExists = true ∨ s₀ = s ∧ ∀ i ∈ order.head?, (errands i).options.createDatabase = true

/-- The serial execution of the runs that got the lock is where the database is, or it gets there with what is left of
the run that holds the lock. -/
structure Follows (errands : ι → Errand) (s₀ : Rehearsal) (c : Crowd ι) : Prop where
  there : c.winners ≠ [] → (serially errands c.winners s₀).databaseExists = true
  state : (∀ i, ¬c.Holds i) ∧ (serially errands c.winners s₀).found = c.target.found ∨
    ∃ i, c.Holds i ∧ serially errands c.winners s₀ =
      (Run.playSteps Rehearsal.answer (c.left i) c.target.found).state

/-- A database that was found and not there at the start was made meanwhile. -/
theorem created_of_found {u : Rehearsal} {t : List Answered} (h : Serves Rehearsal.answer s t u)
    (hmissing : s.databaseExists = false) (hfound : ⟨.databaseExists, .ok true⟩ ∈ t) :
    ⟨.createDatabase, .ok ()⟩ ∈ t := by
  induction h with
  | nil => exact absurd hfound List.not_mem_nil
  | @cons s u q a t ha _ ih =>
    obtain hfound | hfound := List.mem_cons.1 hfound
    · cases hfound
      simp [← Rehearsal.answer_databaseExists ha] at hmissing
    · cases hthere : (Rehearsal.answer q s).2.databaseExists with
      | false => exact List.mem_cons_of_mem _ (ih hthere hfound)
      | true =>
        subst ha
        exact List.mem_cons.2 (.inl (Rehearsal.created_of_databaseExists hmissing hthere).symm)

theorem mem_history_of_mem_calls {x : Answered} (hx : x ∈ c.calls i) : x ∈ c.history.map (·.2) := by
  obtain ⟨y, hy, rfl⟩ := List.mem_map.1 hx
  exact List.mem_map_of_mem (List.mem_filter.1 hy).1

/-- A run that has got the lock gets it elsewhere, where the lock is free and there is a database or one can be made. -/
theorem Reached.enters (h : Reached errands s c) (hholds : c.Holds i) {t : List Answered}
    (hentered : Entered (errands i).options t) (hsub : ∀ x ∈ t, x ∈ c.calls i) {v : Rehearsal}
    (hfailures : v.failures = s.failures) (hfree : v.lockedBy = none)
    (hthere : v.databaseExists = true ∨ s.databaseExists = false ∧ (errands i).options.createDatabase = true) :
    Enters (errands i).options v := by
  obtain ⟨opening, hopens, rfl⟩ := hentered
  have hsilent {q : Call} {a : q.Answer} {k : CallKind} (hk : q.kind? = some k)
      (hq : ⟨q, .ok a⟩ ∈ c.history.map (·.2)) : v.failure? k = none := by
    rw [Rehearsal.failure?, hfailures]
    exact Rehearsal.silent_of_served h.served hk hq
  have hopening : ∀ x ∈ opening, x ∈ c.history.map (·.2) := fun x hx =>
    mem_history_of_mem_calls (hsub x (List.mem_append_left _ hx))
  have hthere : v.databaseExists = true ∨
      (errands i).options.createDatabase = true ∧ v.failure? .createDatabase = none := by
    obtain hthere | ⟨hmissing, hcreate⟩ := hthere
    · exact .inl hthere
    · refine .inr ⟨hcreate, ?_⟩
      obtain hfound | ⟨-, hcreated⟩ := hopens.there
      · exact hsilent rfl (created_of_found h.served hmissing (hopening _ hfound))
      · exact hsilent rfl (hopening _ hcreated)
  obtain ⟨⟨⟨q, a⟩, hx, hacquired⟩, -⟩ := hholds
  obtain ⟨holder, hlock⟩ := Answered.isAcquisition_iff.1 hacquired
  constructor
  · obtain hfound | ⟨hmissing, -⟩ := hopens.there
    · exact hsilent rfl (hopening _ hfound)
    · exact hsilent rfl (hopening _ hmissing)
  · exact hthere
  · exact hsilent rfl (hopening _ hopens.connected)
  · exact hsilent rfl (mem_history_of_mem_calls (hsub _ List.mem_concat_self))
  · rw [hlock] at hx
    exact hsilent rfl (mem_history_of_mem_calls hx)
  · exact hfree

/-- While the lock is free, the serial execution is where the database is. -/
theorem Follows.found_of_free (h : Follows errands s₀ c) (hlocked : Locked errands c)
    (hfree : c.target.lockedBy = none) : (serially errands c.winners s₀).found = c.target.found := by
  obtain ⟨-, hsame⟩ | ⟨j, hj, -⟩ := h.state
  · exact hsame
  · simp [hlocked j hj] at hfree

/-- When a run gets the lock, the serial execution has a database, or it is at its beginning and this run makes one. -/
theorem Follows.there_or_first (h : Follows errands s₀ c) (hopened : Opened errands s s₀ (c.winners ++ [i])) :
    (serially errands c.winners s₀).databaseExists = true ∨
      s.databaseExists = false ∧ (errands i).options.createDatabase = true := by
  by_cases hfirst : c.winners = []
  · rw [hfirst] at hopened ⊢
    obtain hthere | ⟨rfl, hcreate⟩ := hopened
    · exact .inl hthere
    · cases hthere : s₀.databaseExists with
      | true => exact .inl hthere
      | false => exact .inr ⟨rfl, hcreate i rfl⟩
  · exact .inl (h.there hfirst)

/-- When a run gets the lock, the serial execution goes on with it: it opens the database there and gets the lock, and
what it has left to do is the same. -/
theorem Follows.serially_entered (hfollows : Follows errands s₀ c) (h : Reached errands s c)
    (hlocked : Locked errands c) (hleft : c.left i = .put (.call q) next)
    (hopened : Opened errands s s₀ (c.winners ++ [i])) (hentered : Entered (errands i).options (c.calls i))
    (hholds : (c.asked i q next).Holds i) (hfree : c.target.lockedBy = none)
    (htarget : (c.asked i q next).target = { c.target with lockedBy := some (errands i).options.holder })
    (hcourses : ∀ u e, Course ((c.asked i q next).left i) u e →
      Course (Run.underLock (errands i).options (errands i).folder).run u e) :
    serially errands (c.winners ++ [i]) s₀ =
      (Run.playSteps Rehearsal.answer ((c.asked i q next).left i) (c.asked i q next).target.found).state := by
  have hsame := hfollows.found_of_free hlocked hfree
  have hthere := hfollows.there_or_first hopened
  have henters : Enters (errands i).options (serially errands c.winners s₀) := by
    refine (h.asked hleft).enters hholds hentered (fun x hx => ?_) ?_ ?_ hthere
    · rw [calls_asked_self]
      exact List.mem_append_left _ hx
    · have hkept : c.target.failures = s.failures := Rehearsal.serves_failures h.served
      exact (congrArg Rehearsal.failures hsame).trans hkept
    · exact (congrArg Rehearsal.lockedBy hsame).trans hfree
  have hlock : (serially errands c.winners s₀).lockedFor (errands i).options.holder =
      (c.asked i q next).target.found := by
    rw [htarget]
    exact congrArg (fun r : Rehearsal => { r with lockedBy := some (errands i).options.holder }) hsame
  have hplayed := congrArg Run.Played.state (Run.play_migrate_underLock (errands i).folder henters)
  rw [serially_concat, Run.state_eq_of_courses hcourses, ← hlock]
  exact hplayed

theorem Follows.asked (hfollows : Follows errands s₀ c) (h : Reached errands s c) (hlocked : Locked errands c)
    (hdistinct : Function.Injective fun i => (errands i).options.holder)
    (hleft : c.left i = .put (.call q) next) (hopened : Opened errands s s₀ (c.asked i q next).winners) :
    Follows errands s₀ (c.asked i q next) := by
  cases h.move hleft with
  | outside hbefore hafter hwinners htarget =>
    refine ⟨hwinners ▸ hfollows.there, ?_⟩
    obtain ⟨hnobody, hsame⟩ | ⟨j, hj, hsame⟩ := hfollows.state
    · refine .inl ⟨fun j hj => ?_, ?_⟩
      · by_cases hji : j = i
        · exact hafter (hji ▸ hj)
        · exact hnobody j ((holds_asked_of_ne hji).1 hj)
      · rw [hwinners, htarget, hsame]
    · -- the run with the lock is another one, and it has still to do what it had
      have hji : j ≠ i := fun hji => hbefore (hji ▸ hj)
      refine .inr ⟨j, (holds_asked_of_ne hji).2 hj, ?_⟩
      rw [hwinners, htarget, left_asked_of_ne hji, hsame]
  | enters hentered hafter hwinners hfree htarget hcourses =>
    have hserial := hfollows.serially_entered h hlocked hleft (hwinners ▸ hopened) hentered hafter hfree htarget hcourses
    rw [← hwinners] at hserial
    refine ⟨fun _ => ?_, .inr ⟨i, hafter, hserial⟩⟩
    rw [hserial]
    exact Rehearsal.serves_databaseExists (Run.serves_transcript (ExceptT.mk ((c.asked i q next).left i)) _ _) rfl
  | works hbefore hafter hwinners hlock hplay =>
    refine ⟨hwinners ▸ hfollows.there, ?_⟩
    obtain ⟨hnobody, -⟩ | ⟨j, hj, hsame⟩ := hfollows.state
    · exact absurd hbefore (hnobody i)
    · obtain rfl := hlocked.unique hdistinct hbefore hj
      exact .inr ⟨j, hafter, by rw [hwinners, hplay, hsame]⟩
  | releases hbefore hafter hwinners hplay =>
    refine ⟨hwinners ▸ hfollows.there, ?_⟩
    obtain ⟨hnobody, -⟩ | ⟨j, hj, hsame⟩ := hfollows.state
    · exact absurd hbefore (hnobody i)
    · obtain rfl := hlocked.unique hdistinct hbefore hj
      refine .inl ⟨fun k hk => ?_, ?_⟩
      · by_cases hkj : k = j
        · exact hafter (hkj ▸ hk)
        · exact hkj (hlocked.unique hdistinct hbefore ((holds_asked_of_ne hkj).1 hk))
      · rw [hwinners, hsame, ← hplay]
        rfl

omit [DecidableEq ι] in
theorem Opened.of_append {order more : List ι} (h : Opened errands s s₀ (order ++ more)) :
    Opened errands s s₀ order := by
  refine h.imp_right fun ⟨hsame, hcreate⟩ => ⟨hsame, fun i hi => hcreate i ?_⟩
  cases order with
  | nil => simp at hi
  | cons j order => exact hi

theorem follows_after (hdistinct : Function.Injective fun i => (errands i).options.holder) (hs₀ : s₀.found = s.found)
    (order : List ι) (hopened : Opened errands s s₀ ((start errands s).after order).winners) :
    Follows errands s₀ ((start errands s).after order) := by
  suffices h : Locked errands ((start errands s).after order) ∧
      (Opened errands s s₀ ((start errands s).after order).winners →
        Follows errands s₀ ((start errands s).after order)) from h.2 hopened
  refine after_induction (P := fun c => Locked errands c ∧ (Opened errands s s₀ c.winners → Follows errands s₀ c))
    ⟨fun i hi => absurd hi (not_holds_start errands s i), fun _ => ⟨fun h => absurd rfl h, .inl ⟨?_, hs₀⟩⟩⟩ ?_ order
  · exact not_holds_start errands s
  · rintro c i q next h hleft ⟨hlocked, hfollows⟩
    refine ⟨hlocked.asked hdistinct (h.move hleft), fun hopened => ?_⟩
    obtain ⟨more, hmore⟩ := exists_winners_asked c i q next
    exact (hfollows (hmore ▸ hopened).of_append).asked h hlocked hdistinct hleft hopened

/-! ## Refusals -/

theorem refused_after (errands : ι → Errand) (s : Rehearsal) (order : List ι) :
    ∀ i holder other, (i, ⟨.tryLock holder, .ok (.heldBy other)⟩) ∈ ((start errands s).after order).history →
      ((start errands s).after order).Ended i (.error (.locked other)) ∧
        ∀ x ∈ ((start errands s).after order).calls i, x.call.isApply = false := by
  refine after_induction (P := fun c => ∀ i holder other, (i, ⟨.tryLock holder, .ok (.heldBy other)⟩) ∈ c.history →
    c.Ended i (.error (.locked other)) ∧ ∀ x ∈ c.calls i, x.call.isApply = false) ?_ ?_ order
  · intro i holder other hx
    simp [start] at hx
  · intro c i q next h hleft hrefused j holder other hx
    rw [history_asked, List.mem_append, List.mem_singleton] at hx
    obtain hx | hx := hx
    · -- a run that was refused before has ended, so the call is of another run
      obtain ⟨hended, hcalls⟩ := hrefused j holder other hx
      have hji : j ≠ i := by
        rintro rfl
        rw [Ended, hleft] at hended
        cases hended
      rw [Ended, left_asked_of_ne hji, calls_asked_of_ne hji]
      exact ⟨hended, hcalls⟩
    · obtain ⟨rfl, hlast⟩ := Prod.mk.inj hx
      have hcall := congrArg Answered.call hlast
      change .tryLock holder = q at hcall
      subst hcall
      have hanswer : (Rehearsal.answer (.tryLock holder) c.target).1 = .ok (.heldBy other) := by simpa using hlast.symm
      have hunderway := h.underway j
      rw [hleft] at hunderway
      obtain ⟨hentered, hdone⟩ := hunderway.refused other
      rw [Ended, left_asked_self, calls_asked_self, hanswer]
      refine ⟨hdone, fun x hx => ?_⟩
      obtain hx | hx := List.mem_append.1 hx
      · exact Call.isApply_of_isOpening (hentered.isOpening x hx)
      · obtain rfl := List.mem_singleton.1 hx
        rfl

/-! ## All runs together -/

/-- The records up to now come first in the records that the serial execution ends with. -/
theorem Follows.records_prefix (h : Follows errands s₀ c) :
    c.target.records <+: (serially errands c.winners s₀).records := by
  obtain ⟨-, hsame⟩ | ⟨i, -, hsame⟩ := h.state
  · have hrecords : (serially errands c.winners s₀).records = c.target.records := congrArg (·.records) hsame
    exact ⟨[], by rw [hrecords, List.append_nil]⟩
  · have hserves := Run.serves_transcript (ExceptT.mk (c.left i)) Rehearsal.answer c.target.found
    rw [hsame]
    exact ⟨_, (Rehearsal.serves_records hserves).symm⟩

/-- Once all that got the lock have ended, the records are those of the serial execution. -/
theorem Follows.records_eq (h : Follows errands s₀ c) (hreached : Reached errands s c)
    (hended : ∀ i ∈ c.winners, ∃ e, c.Ended i e) : (serially errands c.winners s₀).records = c.target.records := by
  obtain ⟨-, hsame⟩ | ⟨i, hi, -⟩ := h.state
  · exact congrArg (·.records) hsame
  · obtain ⟨e, he⟩ := hended i (mem_winners_of_holds hi)
    exact absurd hi (hreached.not_holds_of_ended he)

end Crowd

/-- Runs under different names that share a database are serialised by its lock. -/
theorem crowd_serialised (errands : ι → Errand) (s : Rehearsal)
    (hdistinct : Function.Injective fun i => (errands i).options.holder) (order : List ι) :
    Serialised errands s ((Crowd.start errands s).after order) := by
  have hreached := Crowd.reached_after errands s order
  have hlocked := Crowd.locked_after (s := s) hdistinct order
  have hsame : s.found.found = s.found := rfl
  have hfound : Crowd.Follows errands s.found ((Crowd.start errands s).after order) :=
    Crowd.follows_after hdistinct hsame order (.inl rfl)
  refine ⟨fun i j q next hi hji hleft => ?_, Crowd.refused_after errands s order, ?_, fun hended hthere => ?_,
    hfound.records_eq hreached⟩
  · obtain ⟨-, hq | rfl⟩ | ⟨hj, -⟩ := hreached.next_call hleft
    · exact ⟨Call.isWork_of_isOpening hq, Call.isUnlock_of_isOpening hq⟩
    · exact ⟨rfl, rfl⟩
    · exact absurd (hlocked.unique hdistinct hi hj) hji
  · obtain ⟨added, hserial, hnodup, hnew⟩ :=
      records_serially errands ((Crowd.start errands s).after order).winners s.found
    have hrecords := Rehearsal.serves_records hreached.served
    have hfirst := hfound.records_prefix
    rw [hserial, hrecords, Rehearsal.records_found, List.prefix_append_right_inj] at hfirst
    refine ⟨_, hrecords, ?_, fun r hr => hnew r (hfirst.subset hr)⟩
    exact (hfirst.map (·.version)).sublist.nodup hnodup
  · exact (Crowd.follows_after hdistinct rfl order (hthere.imp_right fun h => ⟨rfl, h⟩)).records_eq hreached hended

/-! ## Two runs -/

def laterFile : Folder := ⟨"migrations", some [⟨"2_b.sql", some "SELECT 2".toUTF8⟩]⟩

/-- The first may make the database, the second may not. -/
def twoErrands : Fin 2 → Errand
  | 0 => ⟨{ firstRun with holder := "a" }, laterFile⟩
  | 1 => ⟨{ firstRun with holder := "b", createDatabase := false }, oneFile⟩

theorem distinct_twoErrands : Function.Injective fun i => (twoErrands i).options.holder := by
  unfold Function.Injective
  decide

def emptyTarget : Rehearsal := { Rehearsal.start with databaseExists := true }

/-- Both run at once, and the second gets the lock first. -/
def mixedTurns : List (Fin 2) := [0, 1, 0, 1, 1, 1, 0, 1, 1, 1, 0, 0, 0, 0]

theorem crowd_serialised_two :
    (Function.Injective fun i => (twoErrands i).options.holder) ∧
      (∀ i, ∃ e, ((Crowd.start twoErrands emptyTarget).after mixedTurns).Ended i e) ∧
      Serialised twoErrands emptyTarget ((Crowd.start twoErrands emptyTarget).after mixedTurns) ∧
      (serially twoErrands [1, 0] emptyTarget).records =
        ((Crowd.start twoErrands emptyTarget).after mixedTurns).target.records := by
  have hserialised := crowd_serialised twoErrands emptyTarget distinct_twoErrands mixedTurns
  have hended : ∀ i, ∃ e, ((Crowd.start twoErrands emptyTarget).after mixedTurns).Ended i e := by
    have hall : ∀ i, ((Crowd.start twoErrands emptyTarget).after mixedTurns).hasEnded i = true := by decide +kernel
    exact fun i => Crowd.exists_ended (hall i)
  have hwinners : ((Crowd.start twoErrands emptyTarget).after mixedTurns).winners = [1, 0] := by decide +kernel
  refine ⟨distinct_twoErrands, hended, hserialised, ?_⟩
  rw [← hwinners]
  exact hserialised.serial (fun i _ => hended i) (.inl rfl)

/-- The first makes the database and is then overtaken by the second. -/
def overtakingTurns : List (Fin 2) := [0, 0, 1, 1, 1, 1, 1, 1, 1, 0, 0, 0, 0, 0, 0]

/-- A run that may not make the database can find one that another run has just made, and get the lock before that run.
Made one after another in this order, it would find none. -/
theorem not_serial_overtaking :
    (Function.Injective fun i => (twoErrands i).options.holder) ∧
      (∀ i, ∃ e, ((Crowd.start twoErrands .start).after overtakingTurns).Ended i e) ∧
      ((Crowd.start twoErrands .start).after overtakingTurns).winners = [1, 0] ∧
      (serially twoErrands [1, 0] .start).records ≠
        ((Crowd.start twoErrands .start).after overtakingTurns).target.records := by
  have hall : ∀ i, ((Crowd.start twoErrands .start).after overtakingTurns).hasEnded i = true := by decide +kernel
  exact ⟨distinct_twoErrands, fun i => Crowd.exists_ended (hall i), by decide +kernel, by decide +kernel⟩

end SchemaMigration
