import SchemaMigration.Proofs.Run.Course

/-!
# Conversations behind runs

`Turn`      : a question and the answer to it.
`Dialogue.Converses` : the turns of a dialogue and its value, whatever the answers are.
`Run.Talks` : the turns that answer the calls of a course.
`converses_via` : what a run asks somebody else is what its calls ask, one after another.
-/

namespace SchemaMigration

set_option autoImplicit false

variable {Q : Type} {A : Q → Type} {α β : Type}

/-- A question and the answer to it. -/
structure Turn {Q : Type} (A : Q → Type) where
  question : Q
  answer : A question

namespace Dialogue

/-- The dialogue takes these turns if these are the answers, and ends so. -/
inductive Converses {α : Type} : Dialogue Q A α → List (Turn A) → α → Prop
  | done (a : α) : Converses (.done a) [] a
  | put {q : Q} {answer : A q} {next : A q → Dialogue Q A α} {t : List (Turn A)} {a : α}
      (h : Converses (next answer) t a) : Converses (.put q next) (⟨q, answer⟩ :: t) a

variable {t : List (Turn A)}

theorem converses_done {a b : α} : Converses (.done a : Dialogue Q A α) t b ↔ t = [] ∧ b = a := by
  constructor
  · rintro ⟨⟩
    exact ⟨rfl, rfl⟩
  · rintro ⟨rfl, rfl⟩
    exact .done _

theorem converses_bind {d : Dialogue Q A α} {f : α → Dialogue Q A β} {b : β} :
    Converses (d.bind f) t b ↔ ∃ u a v, t = u ++ v ∧ Converses d u a ∧ Converses (f a) v b := by
  induction d generalizing t with
  | done a =>
    constructor
    · intro h
      exact ⟨[], a, t, rfl, .done a, h⟩
    · rintro ⟨_, _, _, rfl, ⟨⟩, h⟩
      exact h
  | put q next ih =>
    constructor
    · rintro (_ | h)
      obtain ⟨u, a, v, rfl, hu, hv⟩ := (ih _).1 h
      exact ⟨_ :: u, a, v, rfl, .put hu, hv⟩
    · rintro ⟨_, a, v, rfl, (_ | hu), hv⟩
      exact .put ((ih _).2 ⟨_, a, v, rfl, hu, hv⟩)

/-! ## Dialogues that may fail -/

variable {ε : Type}

/-- What comes after a part that fails is left out. -/
theorem converses_exceptT_bind {x : ExceptT ε (Dialogue Q A) α} {f : α → ExceptT ε (Dialogue Q A) β}
    {b : Except ε β} :
    Converses (x >>= f).run t b ↔
      (∃ e, Converses x.run t (.error e) ∧ b = .error e) ∨
        ∃ u a v, t = u ++ v ∧ Converses x.run u (.ok a) ∧ Converses (f a).run v b := by
  change Converses (Dialogue.bind x.run (ExceptT.bindCont f)) t b ↔ _
  rw [converses_bind]
  constructor
  · rintro ⟨u, e | a, v, rfl, hu, hv⟩
    · obtain ⟨rfl, rfl⟩ := converses_done.1 hv
      rw [List.append_nil]
      exact .inl ⟨e, hu, rfl⟩
    · exact .inr ⟨u, a, v, rfl, hu, hv⟩
  · rintro (⟨e, hu, rfl⟩ | ⟨u, a, v, rfl, hu, hv⟩)
    · exact ⟨t, .error e, [], (List.append_nil t).symm, hu, .done _⟩
    · exact ⟨u, .ok a, v, rfl, hu, hv⟩

end Dialogue

open Dialogue (Converses converses_bind converses_done)

namespace Run

variable {engine : RemoteEngine Q A} {t : List (Turn A)}

/-- Each of the answers comes out of a conversation; these are the turns of all of them. -/
inductive Talks (engine : RemoteEngine Q A) : List Answered → List (Turn A) → Prop
  | nil : Talks engine [] []
  | cons {x : Answered} {xs : List Answered} {u v : List (Turn A)} (hx : Converses (engine x.call) u x.answer)
      (h : Talks engine xs v) : Talks engine (x :: xs) (u ++ v)

theorem talks_nil : Talks engine [] t ↔ t = [] := by
  constructor
  · rintro ⟨⟩
    rfl
  · rintro rfl
    exact .nil

theorem talks_cons {x : Answered} {xs : List Answered} :
    Talks engine (x :: xs) t ↔ ∃ u v, t = u ++ v ∧ Converses (engine x.call) u x.answer ∧ Talks engine xs v := by
  constructor
  · rintro (_ | ⟨hx, h⟩)
    exact ⟨_, _, rfl, hx, h⟩
  · rintro ⟨u, v, rfl, hx, h⟩
    exact .cons hx h

theorem talks_append {xs ys : List Answered} :
    Talks engine (xs ++ ys) t ↔ ∃ u v, t = u ++ v ∧ Talks engine xs u ∧ Talks engine ys v := by
  induction xs generalizing t with
  | nil =>
    constructor
    · intro h
      exact ⟨[], t, rfl, .nil, h⟩
    · rintro ⟨_, _, rfl, ⟨⟩, h⟩
      exact h
  | cons x xs ih =>
    simp only [List.cons_append, talks_cons, ih]
    constructor
    · rintro ⟨u, _, rfl, hx, v, w, rfl, hv, hw⟩
      exact ⟨u ++ v, w, (List.append_assoc _ _ _).symm, ⟨u, v, rfl, hx, hv⟩, hw⟩
    · rintro ⟨_, w, rfl, ⟨u, v, rfl, hx, hv⟩, hw⟩
      exact ⟨u, v ++ w, List.append_assoc _ _ _, hx, v, w, rfl, hv, hw⟩

theorem converses_viaSteps {d : Dialogue Step Step.Reply (Except Fault α)} {e : Except Fault α} :
    (∃ c, Converses (viaSteps engine d) t c ∧ c.result = e) ↔ ∃ xs, Course d xs e ∧ Talks engine xs t := by
  induction d generalizing t with
  | done x =>
    constructor
    · rintro ⟨c, h, rfl⟩
      obtain ⟨rfl, rfl⟩ := converses_done.1 h
      exact ⟨[], .done x, .nil⟩
    · rintro ⟨_, ⟨⟩, htalks⟩
      obtain rfl := talks_nil.1 htalks
      exact ⟨_, .done _, rfl⟩
  | put q next ih =>
    cases q with
    | call call =>
      constructor
      · rintro ⟨c, h, he⟩
        obtain ⟨u, a, v, rfl, hu, hv⟩ := converses_bind.1 h
        obtain ⟨xs, hcourse, htalks⟩ := (ih a).1 ⟨c, hv, he⟩
        exact ⟨⟨call, a⟩ :: xs, .call hcourse, .cons hu htalks⟩
      · rintro ⟨_, (_ | hcourse), htalks⟩
        obtain ⟨u, v, rfl, hu, hv⟩ := talks_cons.1 htalks
        obtain ⟨c, hc, he⟩ := (ih _).2 ⟨_, hcourse, hv⟩
        exact ⟨c, converses_bind.2 ⟨u, _, v, rfl, hu, hc⟩, he⟩
    | note n =>
      -- an event asks nothing
      constructor
      · rintro ⟨c, h, he⟩
        obtain ⟨u, x, v, rfl, hu, hv⟩ := converses_bind.1 h
        obtain ⟨rfl, rfl⟩ := converses_done.1 hv
        obtain ⟨xs, hcourse, htalks⟩ := (ih ()).1 ⟨x, hu, he⟩
        rw [List.append_nil]
        exact ⟨xs, .note hcourse, htalks⟩
      · rintro ⟨xs, (_ | _ | hcourse), htalks⟩
        obtain ⟨c, hc, he⟩ := (ih ()).2 ⟨xs, hcourse, htalks⟩
        exact ⟨c.after n, converses_bind.2 ⟨t, c, [], (List.append_nil t).symm, hc, .done _⟩, he⟩

/-- What a run asks somebody else is what the calls of one of its courses ask, one after another. -/
theorem converses_via {r : Run α} {e : Except Fault α} :
    (∃ c, Converses (r.via engine) t c ∧ c.result = e) ↔ ∃ xs, Course r.run xs e ∧ Talks engine xs t :=
  converses_viaSteps

end Run

end SchemaMigration
