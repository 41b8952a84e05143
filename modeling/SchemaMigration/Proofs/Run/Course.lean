import SchemaMigration.Proofs.Run.Play

/-!
# Courses of runs

`Answered`       : a call and what came back from it.
`Run.Course`     : the calls that a run makes and how it ends, whatever the answers are.
`Run.Serves`     : an engine gives these answers one after another.
`Run.transcript` : the calls of a run against an engine, with their answers.

What every course of a run has holds against every engine, one that fails at any call included.
-/

namespace SchemaMigration

set_option autoImplicit false

/-- A call and what came back from it. -/
structure Answered where
  call : Call
  answer : Except Fault call.Answer

namespace Run

/-- The steps make these calls if these are the answers, and end so. -/
inductive Course {α : Type} : Dialogue Step Step.Reply (Except Fault α) → List Answered → Except Fault α → Prop
  | done (e : Except Fault α) : Course (.done e) [] e
  | call {c : Call} {a : Except Fault c.Answer}
      {next : Except Fault c.Answer → Dialogue Step Step.Reply (Except Fault α)} {t : List Answered}
      {e : Except Fault α} (h : Course (next a) t e) : Course (.put (.call c) next) (⟨c, a⟩ :: t) e
  | note {n : Event} {next : Unit → Dialogue Step Step.Reply (Except Fault α)} {t : List Answered} {e : Except Fault α}
      (h : Course (next ()) t e) : Course (.put (.note n) next) t e

section

variable {α β : Type} {t : List Answered}

/-! ## Courses of the parts of a run -/

/-- A run has the courses of its first part, and each that goes well goes on with one of the part after it. -/
theorem course_bind {r : Run α} {f : α → Run β} {e : Except Fault β} :
    Course (r >>= f).run t e ↔
      (∃ g, Course r.run t (.error g) ∧ e = .error g) ∨
        ∃ u a v, t = u ++ v ∧ Course r.run u (.ok a) ∧ Course (f a).run v e := by
  change Course (Dialogue.bind r.run (ExceptT.bindCont f)) t e ↔ _
  -- on the steps of the first part: the answer to each of them stays on its own side of the cut
  induction r.run generalizing t with
  | done x =>
    cases x with
    | error g =>
      change Course (.done (.error g)) t e ↔ _
      constructor
      · rintro ⟨⟩
        exact .inl ⟨g, .done _, rfl⟩
      · rintro (⟨_, ⟨⟩, rfl⟩ | ⟨_, _, _, _, ⟨⟩, _⟩)
        exact .done _
    | ok a =>
      change Course (f a).run t e ↔ _
      constructor
      · intro h
        exact .inr ⟨[], a, t, rfl, .done _, h⟩
      · rintro (⟨_, ⟨⟩, _⟩ | ⟨_, _, _, rfl, ⟨⟩, h⟩)
        exact h
  | put q next ih =>
    cases q with
    | call c =>
      constructor
      · rintro (_ | h)
        obtain ⟨g, hg, rfl⟩ | ⟨u, a, v, rfl, hu, hv⟩ := (ih _).1 h
        · exact .inl ⟨g, .call hg, rfl⟩
        · exact .inr ⟨_ :: u, a, v, rfl, .call hu, hv⟩
      · rintro (⟨g, (_ | hg), rfl⟩ | ⟨_, a, v, rfl, (_ | hu), hv⟩)
        · exact .call ((ih _).2 (.inl ⟨g, hg, rfl⟩))
        · exact .call ((ih _).2 (.inr ⟨_, a, v, rfl, hu, hv⟩))
    | note n =>
      constructor
      · rintro (_ | _ | h)
        obtain ⟨g, hg, rfl⟩ | ⟨u, a, v, rfl, hu, hv⟩ := (ih _).1 h
        · exact .inl ⟨g, .note hg, rfl⟩
        · exact .inr ⟨u, a, v, rfl, .note hu, hv⟩
      · rintro (⟨g, (_ | _ | hg), rfl⟩ | ⟨u, a, v, rfl, (_ | _ | hu), hv⟩)
        · exact .note ((ih _).2 (.inl ⟨g, hg, rfl⟩))
        · exact .note ((ih _).2 (.inr ⟨u, a, v, rfl, hu, hv⟩))

theorem course_pure {a : α} {e : Except Fault α} : Course (pure a : Run α).run t e ↔ t = [] ∧ e = .ok a := by
  constructor
  · rintro ⟨⟩
    exact ⟨rfl, rfl⟩
  · rintro ⟨rfl, rfl⟩
    exact .done _

theorem course_throw {f : Fault} {e : Except Fault α} : Course (throw f : Run α).run t e ↔ t = [] ∧ e = .error f := by
  constructor
  · rintro ⟨⟩
    exact ⟨rfl, rfl⟩
  · rintro ⟨rfl, rfl⟩
    exact .done _

theorem course_call {c : Call} {e : Except Fault c.Answer} : Course (call c).run t e ↔ t = [⟨c, e⟩] := by
  constructor
  · rintro (_ | ⟨⟨⟩⟩)
    rfl
  · rintro rfl
    exact .call (.done _)

/-- A call that fails ends the run, and one that does not leads on with its answer. -/
theorem course_call_bind {c : Call} {f : c.Answer → Run β} {e : Except Fault β} :
    Course (call c >>= f).run t e ↔
      (∃ g, t = [⟨c, .error g⟩] ∧ e = .error g) ∨ ∃ a v, t = ⟨c, .ok a⟩ :: v ∧ Course (f a).run v e := by
  rw [course_bind]
  simp only [course_call]
  constructor
  · rintro (h | ⟨_, a, v, rfl, rfl, h⟩)
    · exact .inl h
    · exact .inr ⟨a, v, rfl, h⟩
  · rintro (h | ⟨a, v, rfl, h⟩)
    · exact .inl h
    · exact .inr ⟨_, a, v, rfl, rfl, h⟩

theorem course_note {n : Event} {e : Except Fault Unit} : Course (note n).run t e ↔ t = [] ∧ e = .ok () := by
  constructor
  · rintro (_ | _ | ⟨⟨⟩⟩)
    exact ⟨rfl, rfl⟩
  · rintro ⟨rfl, rfl⟩
    exact .note (.done _)

/-- A value or a fault that needs no engine. -/
theorem course_liftExcept {r e : Except Fault α} : Course (liftM r : Run α).run t e ↔ t = [] ∧ e = r := by
  cases r with
  | ok a => exact course_pure
  | error f => exact course_throw

/-- A part that is attempted has the same courses, each with its end as its value. -/
theorem course_attempt {r : Run α} {e : Except Fault (Except Fault α)} :
    Course r.attempt.run t e ↔ ∃ x, e = .ok x ∧ Course r.run t x := by
  change Course (Dialogue.bind r.run fun a => .done (.ok a)) t e ↔ _
  induction r.run generalizing t with
  | done x =>
    constructor
    · rintro ⟨⟩
      exact ⟨x, rfl, .done _⟩
    · rintro ⟨_, rfl, ⟨⟩⟩
      exact .done _
  | put q next ih =>
    cases q with
    | call c =>
      constructor
      · rintro (_ | h)
        obtain ⟨x, rfl, hx⟩ := (ih _).1 h
        exact ⟨x, rfl, .call hx⟩
      · rintro ⟨x, rfl, (_ | hx)⟩
        exact .call ((ih _).2 ⟨x, rfl, hx⟩)
    | note n =>
      constructor
      · rintro (_ | _ | h)
        obtain ⟨x, rfl, hx⟩ := (ih _).1 h
        exact ⟨x, rfl, .note hx⟩
      · rintro ⟨x, rfl, (_ | _ | hx)⟩
        exact .note ((ih _).2 ⟨x, rfl, hx⟩)

/-- Events alone make no calls. -/
theorem course_forM_note {ι : Type} {xs : List ι} {event : ι → Event} {e : Except Fault Unit} :
    Course (xs.forM fun x => note (event x)).run t e ↔ t = [] ∧ e = .ok () := by
  induction xs generalizing t with
  | nil => exact course_pure
  | cons x xs ih =>
    change Course (note (event x) >>= fun _ => xs.forM fun x => note (event x)).run t e ↔ _
    rw [course_bind]
    simp only [course_note, ih]
    constructor
    · rintro (⟨g, ⟨rfl, ⟨⟩⟩, rfl⟩ | ⟨_, _, _, rfl, ⟨rfl, _⟩, rfl, rfl⟩)
      exact ⟨rfl, rfl⟩
    · rintro ⟨rfl, rfl⟩
      exact .inr ⟨[], (), [], rfl, ⟨rfl, trivial⟩, rfl, rfl⟩

end

/-! ## Courses against an engine -/

section

variable {σ α : Type} {engine : Engine σ}

/-- The engine gives these answers to these calls, and ends in this state. -/
inductive Serves (engine : Engine σ) : σ → List Answered → σ → Prop
  | nil (s : σ) : Serves engine s [] s
  | cons {s u : σ} {c : Call} {a : Except Fault c.Answer} {t : List Answered} (ha : (engine c s).1 = a)
      (h : Serves engine (engine c s).2 t u) : Serves engine s (⟨c, a⟩ :: t) u

theorem serves_append {s u : σ} {t v : List Answered} :
    Serves engine s (t ++ v) u ↔ ∃ m, Serves engine s t m ∧ Serves engine m v u := by
  induction t generalizing s with
  | nil =>
    constructor
    · intro h
      exact ⟨s, .nil s, h⟩
    · rintro ⟨_, ⟨⟩, h⟩
      exact h
  | cons x t ih =>
    constructor
    · rintro (_ | ⟨ha, h⟩)
      obtain ⟨m, ht, hv⟩ := ih.1 h
      exact ⟨m, .cons ha ht, hv⟩
    · rintro ⟨m, (_ | ⟨ha, ht⟩), hv⟩
      exact .cons ha (ih.2 ⟨m, ht, hv⟩)

/-- What calls of one sort keep is kept over any number of them. -/
theorem Serves.keeps {s u : σ} {t : List Answered} (h : Serves engine s t u) (allowed : Call → Prop) (P : σ → Prop)
    (hstep : ∀ c s, allowed c → P s → P (engine c s).2) (ht : ∀ x ∈ t, allowed x.call) (hs : P s) : P u := by
  induction h with
  | nil s => exact hs
  | cons _ _ ih =>
    rw [List.forall_mem_cons] at ht
    exact ih ht.2 (hstep _ _ ht.1 hs)

/-- The calls of the steps against an engine, with their answers. -/
def transcriptSteps (engine : Engine σ) : Dialogue Step Step.Reply (Except Fault α) → σ → List Answered
  | .done _, _ => []
  | .put (.call c) next, s => ⟨c, (engine c s).1⟩ :: transcriptSteps engine (next (engine c s).1) (engine c s).2
  | .put (.note _) next, s => transcriptSteps engine (next ()) s

/-- The calls of a run against an engine, with their answers. -/
def transcript (r : Run α) (engine : Engine σ) (s : σ) : List Answered := transcriptSteps engine r.run s

theorem course_transcript (r : Run α) (engine : Engine σ) (s : σ) :
    Course r.run (r.transcript engine s) (r.play engine s).result := by
  unfold transcript play
  induction r.run generalizing s with
  | done e => exact .done e
  | put q next ih =>
    cases q with
    | call c => exact .call (ih _ _)
    | note n => exact .note (ih _ _)

theorem serves_transcript (r : Run α) (engine : Engine σ) (s : σ) :
    Serves engine s (r.transcript engine s) (r.play engine s).state := by
  unfold transcript play
  induction r.run generalizing s with
  | done e => exact .nil s
  | put q next ih =>
    cases q with
    | call c => exact .cons rfl (ih _ _)
    | note n => exact ih _ _

theorem map_call_transcript (r : Run α) (engine : Engine σ) (s : σ) :
    (r.transcript engine s).map (·.call) = (r.play engine s).calls := by
  unfold transcript play
  induction r.run generalizing s with
  | done e => rfl
  | put q next ih =>
    cases q with
    | call c => exact congrArg (c :: ·) (ih _ _)
    | note n => exact ih _ _

end

end Run

end SchemaMigration
