import SchemaMigration.Run.Rehearsal

/-!
# Runs against an engine, step by step

`Played.andThen` : one part of a run after another.
`play_bind`      : a run is played one part after another.
`play_call`      : a call is answered by the engine.
`Rehearsal.answer_of_silent` : a rehearsal performs each call that it was not told to fail.
-/

namespace SchemaMigration

set_option autoImplicit false

namespace Run

variable {σ α β : Type}

/-! ## Parts of a run -/

/-- What became of a part of a run and of the part after it, which a fault of the first leaves out. -/
def Played.andThen (p : Played σ α) (next : α → σ → Played σ β) : Played σ β :=
  match p.result with
  | .ok a =>
    let q := next a p.state
    { q with calls := p.calls ++ q.calls, events := p.events ++ q.events }
  | .error f => ⟨.error f, p.state, p.calls, p.events⟩

theorem andThen_ok (a : α) (s : σ) (cs : List Call) (es : List Event) (next : α → σ → Played σ β) :
    Played.andThen ⟨.ok a, s, cs, es⟩ next =
      ⟨(next a s).result, (next a s).state, cs ++ (next a s).calls, es ++ (next a s).events⟩ := rfl

theorem andThen_error (f : Fault) (s : σ) (cs : List Call) (es : List Event) (next : α → σ → Played σ β) :
    Played.andThen ⟨.error f, s, cs, es⟩ next = ⟨.error f, s, cs, es⟩ := rfl

variable (engine : Engine σ)

theorem playSteps_bind (d : Dialogue Step Step.Reply (Except Fault α)) (f : α → Run β) (s : σ) :
    playSteps engine (d.bind (ExceptT.bindCont f)) s =
      (playSteps engine d s).andThen fun a s => (f a).play engine s := by
  induction d generalizing s with
  | done r => cases r <;> rfl
  | put q next ih =>
    cases q with
    | call c =>
      simp only [Dialogue.bind, playSteps, ih]
      cases h : (playSteps engine (next (engine c s).1) (engine c s).2).result <;> simp [Played.andThen, h]
    | note e =>
      simp only [Dialogue.bind, playSteps, ih]
      cases h : (playSteps engine (next ()) s).result <;> simp [Played.andThen, h]

/-- A run is played one part after another. -/
@[simp] theorem play_bind (r : Run α) (f : α → Run β) (s : σ) :
    (r >>= f).play engine s = (r.play engine s).andThen fun a s => (f a).play engine s :=
  playSteps_bind engine r f s

@[simp] theorem play_pure (a : α) (s : σ) : (pure a : Run α).play engine s = ⟨.ok a, s, [], []⟩ := rfl

@[simp] theorem play_throw (f : Fault) (s : σ) : (throw f : Run α).play engine s = ⟨.error f, s, [], []⟩ := rfl

@[simp] theorem play_call (c : Call) (s : σ) : (call c).play engine s = ⟨(engine c s).1, (engine c s).2, [c], []⟩ := rfl

theorem play_of_answer {c : Call} {s t : σ} {a : Except Fault c.Answer} (h : engine c s = (a, t)) :
    (call c).play engine s = ⟨a, t, [c], []⟩ := by
  rw [play_call, h]

@[simp] theorem play_note (e : Event) (s : σ) : (note e).play engine s = ⟨.ok (), s, [], [e]⟩ := rfl

/-- A part that is attempted ends well, with its own end as its value. -/
@[simp] theorem play_attempt (r : Run α) (s : σ) :
    r.attempt.play engine s =
      ⟨.ok (r.play engine s).result, (r.play engine s).state, (r.play engine s).calls, (r.play engine s).events⟩ := by
  change playSteps engine (Dialogue.bind r.run fun a => .done (.ok a)) s =
    let p := playSteps engine r.run s
    ⟨.ok p.result, p.state, p.calls, p.events⟩
  induction r.run generalizing s with
  | done a => rfl
  | put q next ih => cases q <;> simp only [Dialogue.bind, playSteps, ih]

/-- A value or a fault that needs no engine. -/
@[simp] theorem play_liftExcept (r : Except Fault α) (s : σ) :
    (liftM r : Run α).play engine s = ⟨r, s, [], []⟩ := by
  cases r <;> rfl

/-- Events alone change nothing. -/
theorem play_forM_note {ι : Type} (xs : List ι) (event : ι → Event) (s : σ) :
    (xs.forM fun x => note (event x)).play engine s = ⟨.ok (), s, [], xs.map event⟩ := by
  induction xs with
  | nil => rfl
  | cons x xs ih =>
    change (note (event x) >>= fun _ => xs.forM fun x => note (event x)).play engine s = _
    rw [play_bind, play_note, andThen_ok, ih]
    rfl

end Run

/-! ## Rehearsals -/

namespace Rehearsal

/-- A rehearsal performs each call that it was not told to fail. -/
theorem answer_of_silent {c : Call} {k : CallKind} {s : Rehearsal} (hk : c.kind? = some k)
    (hs : s.failure? k = none) : answer c s = perform c s := by
  simp only [answer, hk, hs]

/-- A call that it was told to fail changes nothing. -/
theorem answer_of_told {c : Call} {k : CallKind} {s : Rehearsal} {text : String} (hk : c.kind? = some k)
    (hs : s.failure? k = some text) : answer c s = (.error (k.fault text), s) := by
  simp only [answer, hk, hs]

variable {s : Rehearsal}

theorem play_databaseExists (h : s.failure? .databaseExists = none) :
    (Run.call .databaseExists : Run Bool).play answer s = ⟨.ok s.databaseExists, s, [.databaseExists], []⟩ :=
  Run.play_of_answer answer (answer_of_silent rfl h)

theorem play_createDatabase (h : s.failure? .createDatabase = none) :
    (Run.call .createDatabase : Run Unit).play answer s =
      ⟨.ok (), { s with databaseExists := true }, [.createDatabase], []⟩ :=
  Run.play_of_answer answer (answer_of_silent rfl h)

theorem play_connect (h : s.failure? .connect = none) :
    (Run.call .connect : Run Unit).play answer s = ⟨.ok (), s, [.connect], []⟩ :=
  Run.play_of_answer answer (answer_of_silent rfl h)

theorem play_ensureBookkeeping (h : s.failure? .ensureBookkeeping = none) :
    (Run.call .ensureBookkeeping : Run Unit).play answer s = ⟨.ok (), s, [.ensureBookkeeping], []⟩ :=
  Run.play_of_answer answer (answer_of_silent rfl h)

theorem play_appliedRecords (h : s.failure? .appliedRecords = none) :
    (Run.call .appliedRecords : Run (List Record)).play answer s = ⟨.ok s.records, s, [.appliedRecords], []⟩ :=
  Run.play_of_answer answer (answer_of_silent rfl h)

/-- A free lock is taken. -/
theorem play_tryLock {holder : String} (h : s.failure? .tryLock = none) (hfree : s.lockedBy = none) :
    (Run.call (.tryLock holder) : Run LockOutcome).play answer s =
      ⟨.ok .acquired, { s with lockedBy := some holder }, [.tryLock holder], []⟩ := by
  refine Run.play_of_answer answer ((answer_of_silent rfl h).trans ?_)
  rw [perform, hfree]

end Rehearsal

end SchemaMigration
