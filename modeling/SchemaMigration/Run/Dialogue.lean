/-!
# Dialogues

`Dialogue Q A α`     : a computation that puts questions of `Q`, each answered in the type `A` gives it, and ends in `α`.
`Dialogue.ask`       : one question.
`Dialogue.bind`      : one dialogue after another.
`Dialogue.play`      : a dialogue with someone who keeps a state.

Who answers is left open: one that keeps a state, one that fails at will, or several dialogues' turns in any order.
-/

namespace SchemaMigration

set_option autoImplicit false

/-- A computation that puts questions and ends in a value. -/
inductive Dialogue (Q : Type) (A : Q → Type) (α : Type) where
  | done (a : α)
  | put (q : Q) (next : A q → Dialogue Q A α)

namespace Dialogue

variable {Q : Type} {A : Q → Type} {α β : Type}

def bind : Dialogue Q A α → (α → Dialogue Q A β) → Dialogue Q A β
  | done a, f => f a
  | put q next, f => put q fun a => (next a).bind f

instance : Monad (Dialogue Q A) where
  pure := done
  bind := bind

def ask (q : Q) : Dialogue Q A (A q) := put q done

/-- The value of a dialogue with someone who keeps a state, and the state that is left. -/
def play {σ : Type} (answer : (q : Q) → σ → A q × σ) : Dialogue Q A α → σ → α × σ
  | done a, s => (a, s)
  | put q next, s => (next (answer q s).1).play answer (answer q s).2

/-! ## Laws -/

theorem bind_assoc {γ : Type} (d : Dialogue Q A α) (f : α → Dialogue Q A β) (g : β → Dialogue Q A γ) :
    (d.bind f).bind g = d.bind fun a => (f a).bind g := by
  induction d with
  | done a => rfl
  | put q next ih => simp [bind, ih]

@[simp] theorem play_bind {σ : Type} (answer : (q : Q) → σ → A q × σ) (d : Dialogue Q A α) (f : α → Dialogue Q A β)
    (s : σ) : (d.bind f).play answer s = (f (d.play answer s).1).play answer (d.play answer s).2 := by
  induction d generalizing s with
  | done a => rfl
  | put q next ih => simp [bind, play, ih]

end Dialogue

end SchemaMigration
