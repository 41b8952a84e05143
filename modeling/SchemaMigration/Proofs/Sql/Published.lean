import SchemaMigration.Sql.Execution

/-!
# What others see of a session

`Reads`           : the statements that a script is read as.
`change_eq_ok`    : what a change of the database leaves of a session.
`saved_run`       : a transaction stays open until a statement of the script ends it.
`Transaction.Has` : what holds of the state of a transaction and of the one that it would go back to.
-/

namespace SchemaMigration.Sql

set_option autoImplicit false

/-- Whether the statement ends the open transaction. -/
def Statement.endsTransaction : Statement → Bool
  | commit | rollback => true
  | _ => false

/-- The statements that a script is read as. -/
inductive Reads : List Char → Statement → Prop
  | first {script rest : List Char} {x : Statement} (h : beginning script = .whole x rest) : Reads script x
  | later {script rest : List Char} {x y : Statement} (h : beginning script = .whole x rest) (hy : Reads rest y) :
      Reads script y

/-- A script that is one statement is read as no other. -/
theorem Reads.eq_of_single {script : List Char} {x y : Statement} (h : beginning script = .whole x [])
    (hy : Reads script y) : y = x := by
  have hend : beginning [] = .nothing := rfl
  cases hy with
  | first hfirst =>
    rw [h] at hfirst
    cases hfirst
    rfl
  | later hfirst hy =>
    rw [h] at hfirst
    cases hfirst
    cases hy with
    | first hnext | later hnext =>
      rw [hend] at hnext
      cases hnext

/-! ## Changes -/

theorem bind_eq_ok {ε α β : Type} {x : Except ε α} {f : α → Except ε β} {b : β} (h : x >>= f = .ok b) :
    ∃ a, x = .ok a ∧ f a = .ok b := by
  cases x with
  | error e => simp [bind, Except.bind] at h
  | ok a => exact ⟨a, rfl, h⟩

theorem map_eq_ok {ε α β : Type} {x : Except ε α} {f : α → β} {b : β} (h : x.map f = .ok b) :
    ∃ a, x = .ok a ∧ f a = b := by
  cases x with
  | error e => cases h
  | ok a => exact ⟨a, rfl, Except.ok.inj h⟩

/-- What a change of the database leaves of a session: the new database, in the same transaction. -/
theorem change_eq_ok {s t : Session} {f : Draft → Except Refusal Draft} (h : s.change f = .ok t) :
    ∃ d, f (.start s.db s.deferred) = .ok d ∧ t.db = d.db ∧ t.saved = s.saved := by
  obtain ⟨d, hd, h⟩ := bind_eq_ok h
  refine ⟨d, hd, ?_⟩
  cases hs : s.saved with
  | none =>
    simp only [hs, Option.isSome_none, Bool.false_eq_true, if_false] at h
    split at h
    · cases h
    · obtain rfl := Except.ok.inj h
      exact ⟨rfl, rfl⟩
  | some db =>
    rw [if_pos (by rw [hs]; rfl)] at h
    obtain rfl := Except.ok.inj h
    exact ⟨rfl, hs⟩

/-- Inside a transaction a change is not checked for deferred references. -/
theorem change_of_ok {s : Session} {before : Database} (hs : s.saved = some before)
    {f : Draft → Except Refusal Draft} {d : Draft} (hd : f (.start s.db s.deferred) = .ok d) :
    s.change f = .ok ⟨d.db, s.saved, d.tally.deferred⟩ := by
  simp [Session.change, hd, hs, bind, Except.bind, pure, Except.pure]

theorem change_of_error {s : Session} {f : Draft → Except Refusal Draft} {r : Refusal}
    (hr : f (.start s.db s.deferred) = .error r) : s.change f = .error r := by
  rw [Session.change, hr]
  rfl

/-- One statement outside transactions is one change. -/
theorem Database.execute_eq_ok {db : Database} {f : Draft → Except Refusal Draft} {n : Nat} {after : Database}
    (h : db.execute f = .ok (n, after)) : ∃ d, f (.start db 0) = .ok d ∧ d.db = after := by
  obtain ⟨d, hd, h⟩ := bind_eq_ok h
  refine ⟨d, hd, ?_⟩
  split at h
  · cases h
  · exact (Prod.mk.inj (Except.ok.inj h)).2

namespace Transaction

variable {σ : Type} {s t : Transaction σ}

theorem commit?_eq_ok (h : s.commit? = .ok t) : t = ⟨s.db, none, 0⟩ ∧ s.deferred ≤ 0 := by
  unfold commit? at h
  split at h
  · cases h
  split at h
  · cases h
  · next hkept => exact ⟨(Except.ok.inj h).symm, Int.not_lt.1 hkept⟩

/-- The end of a transaction is refused for deferred references only. -/
theorem commit?_eq_error {x : σ} (hs : s.saved = some x) {r : Refusal} (h : s.commit? = .error r) : 0 < s.deferred := by
  unfold commit? at h
  rw [hs, if_neg (by simp)] at h
  split at h
  · assumption
  · cases h

theorem abandon_of_saved {x : σ} (hs : s.saved = some x) : s.abandon = x := by
  rw [abandon, hs, Option.getD_some]

end Transaction

/-! ## Transactions -/

/-- Only its end takes a session out of a transaction. -/
theorem saved_exec {s t : Session} {x : Statement} {db : Database} (hx : x.endsTransaction = false)
    (hs : s.saved = some db) (h : s.exec x = .ok t) : t.saved = some db := by
  cases x with
  | beginTransaction => simp [Session.exec, Transaction.begin?, hs] at h
  | commit | rollback => simp [Statement.endsTransaction] at hx
  | createTable | dropTable | addColumn | createIndex | createTrigger | insert | delete | select =>
    obtain ⟨d, -, -, hsaved⟩ := change_eq_ok h
    exact hsaved.trans hs

/-- A transaction stays open through a script none of whose statements ends it, also if one is refused. -/
theorem saved_run {fuel : Nat} {script : List Char} {s : Session} {db : Database}
    (hscript : ∀ x, Reads script x → x.endsTransaction = false) (hs : s.saved = some db) :
    (Session.run fuel script s).1.saved = some db := by
  induction fuel generalizing script s with
  | zero => exact hs
  | succ fuel ih =>
    rw [Session.run]
    split
    · exact hs
    · exact hs
    · exact hs
    · next x rest hbegin =>
      split
      · exact hs
      · next t hexec =>
        have hx := hscript x (.first hbegin)
        exact ih (fun y hy => hscript y (.later hbegin hy)) (saved_exec hx hs hexec)

/-! ## What statements keep -/

namespace Transaction

variable {σ : Type} {P : σ → Prop} {s t : Transaction σ}

/-- The state of the transaction has the property, and so has the one to which it would go back. -/
def Has (P : σ → Prop) (s : Transaction σ) : Prop := P s.db ∧ ∀ x, s.saved = some x → P x

theorem has_start {x : σ} (h : P x) : (start x).Has P := ⟨h, fun _ hs => Option.some.inj hs ▸ h⟩

theorem Has.abandon (h : s.Has P) : P s.abandon := by
  unfold Transaction.abandon
  cases hs : s.saved with
  | none => exact h.1
  | some x => exact h.2 x hs

theorem Has.begin (h : s.Has P) (hbegin : s.begin? = .ok t) : t.Has P := by
  unfold begin? at hbegin
  split at hbegin
  · cases hbegin
  · obtain rfl := Except.ok.inj hbegin
    exact has_start h.1

theorem Has.commit (h : s.Has P) (hcommit : s.commit? = .ok t) : t.Has P := by
  obtain ⟨rfl, -⟩ := commit?_eq_ok hcommit
  exact ⟨h.1, fun x hs => by cases hs⟩

theorem Has.rollback (h : s.Has P) (hrollback : s.rollback? = .ok t) : t.Has P := by
  unfold rollback? at hrollback
  split at hrollback
  · cases hrollback
  · next x hs =>
    obtain rfl := Except.ok.inj hrollback
    exact ⟨h.2 x hs, fun _ hs => by cases hs⟩

end Transaction

namespace Session

open Transaction (Has)

variable {P : Database → Prop} {s t : Session}

theorem has_change (h : s.Has P) {f : Draft → Except Refusal Draft} (hf : ∀ d d', P d.db → f d = .ok d' → P d'.db)
    (hchange : s.change f = .ok t) : t.Has P := by
  obtain ⟨d, hd, hdb, hsaved⟩ := change_eq_ok hchange
  refine ⟨?_, fun db hs => h.2 db (hsaved ▸ hs)⟩
  rw [hdb]
  exact hf _ d h.1 hd

/-- What a statement keeps of a database it keeps of a session, also if it begins or ends a transaction. -/
theorem has_exec (h : s.Has P) {x : Statement} (hx : ∀ d d' : Draft, P d.db → d.exec x = .ok d' → P d'.db)
    (hexec : s.exec x = .ok t) : t.Has P := by
  cases x with
  | beginTransaction => exact h.begin hexec
  | commit => exact h.commit hexec
  | rollback => exact h.rollback hexec
  | createTable | dropTable | addColumn | createIndex | createTrigger | insert | delete | select =>
    exact has_change h hx hexec

theorem has_run {fuel : Nat} {script : List Char} (h : s.Has P)
    (hscript : ∀ x, Reads script x → ∀ d d' : Draft, P d.db → d.exec x = .ok d' → P d'.db) :
    (run fuel script s).1.Has P := by
  -- on the fuel: a statement that is refused leaves the session as it was
  induction fuel generalizing script s with
  | zero => exact h
  | succ fuel ih =>
    rw [Session.run]
    split
    · exact h
    · exact h
    · exact h
    · next x rest hbegin =>
      split
      · exact h
      · next t hexec =>
        exact ih (has_exec h (hscript x (.first hbegin)) hexec) fun y hy => hscript y (.later hbegin hy)

end Session

end SchemaMigration.Sql
