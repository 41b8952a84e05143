import SchemaMigration.Proofs.Clickhouse.Rows
import SchemaMigration.Clickhouse.Engine

/-!
# The queries of the lock

`LockQuery`        : what a client can ask of the table of the lock.
`LockQuery.sql?`   : how it is written.
`sql?_injective`   : a text is at most one query.
-/

namespace SchemaMigration.Clickhouse

set_option autoImplicit false

open Http (Request Reply)

/-! ## Queries -/

/-- What a client can ask of the table of the lock. -/
inductive LockQuery
  | read
  | add (holder : String)
  | remove (holder : String)
  deriving DecidableEq, Repr

/-- The query as it is written, if the names of the database can be written in it. -/
def LockQuery.sql? (c : Connection) : LockQuery → Option String
  | read => fill (Query.holders c ++ " FORMAT RowBinary") []
  | add h => fill (Query.addHolder c) [textLiteral h]
  | remove h => fill (Query.removeHolder c) [textLiteral h]

/-! ## Templates -/

theorem fillChars_cons_of_ne {d : Char} (h : d ≠ placeMark) (t : List Char) (vs : List (List Char)) :
    fillChars (d :: t) vs = (fillChars t vs).map (d :: ·) := by
  rw [fillChars.eq_def]
  simp [h]

theorem fillChars_cons_placeMark (t v : List Char) (vs : List (List Char)) :
    fillChars (placeMark :: t) (v :: vs) = (fillChars t vs).map (v ++ ·) := by
  rw [fillChars.eq_def]
  simp

/-- A template with a place has different texts for different values. -/
theorem fillChars_injective {t u v x : List Char} (hmark : placeMark ∈ t) (hu : fillChars t [u] = some x)
    (hv : fillChars t [v] = some x) : u = v := by
  induction t generalizing x with
  | nil => simp at hmark
  | cons d t ih =>
    by_cases hd : d = placeMark
    · subst hd
      rw [fillChars_cons_placeMark, Option.map_eq_some_iff] at hu hv
      obtain ⟨a, ha, rfl⟩ := hu
      obtain ⟨b, hb, hab⟩ := hv
      obtain rfl := Option.some.inj (ha.symm.trans hb)
      exact (List.append_cancel_right hab).symm
    · rw [fillChars_cons_of_ne hd, Option.map_eq_some_iff] at hu hv
      obtain ⟨a, ha, rfl⟩ := hu
      obtain ⟨b, hb, hab⟩ := hv
      obtain rfl := (List.cons.inj hab).2
      exact ih (List.mem_of_ne_of_mem (Ne.symm hd) hmark) ha hb

/-- A filled template begins as the template does. -/
theorem head?_fill {template : String} {d : Char} {vs : List String} {x : String}
    (htemplate : template.toList.head? = some d) (hd : d ≠ placeMark) (h : fill template vs = some x) :
    x.toList.head? = some d := by
  obtain ⟨t, ht⟩ := List.head?_eq_some_iff.1 htemplate
  rw [fill, ht, fillChars_cons_of_ne hd, Option.map_map, Option.map_eq_some_iff] at h
  obtain ⟨a, -, rfl⟩ := h
  simp

theorem head?_append {a : String} {d : Char} (h : a.toList.head? = some d) (b : String) :
    (a ++ b).toList.head? = some d := by
  rw [String.toList_append, List.head?_append, h]
  rfl

/-! ## Literals -/

theorem escapeChar_append_injective {a b : Char} {u v : List Char} (h : escapeChar a ++ u = escapeChar b ++ v) :
    a = b ∧ u = v := by
  unfold escapeChar at h
  split at h <;> split at h
  · simp_all
  · obtain ⟨rfl, -⟩ := List.cons.inj h
    simp_all
  · obtain ⟨rfl, -⟩ := List.cons.inj h
    simp_all
  · simp_all

theorem flatMap_escapeChar_injective {u v : List Char} (h : u.flatMap escapeChar = v.flatMap escapeChar) : u = v := by
  induction u generalizing v with
  | nil =>
    cases v with
    | nil => rfl
    | cons b v =>
      rw [List.flatMap_cons, List.flatMap_nil] at h
      unfold escapeChar at h
      split at h <;> simp at h
  | cons a u ih =>
    cases v with
    | nil =>
      rw [List.flatMap_cons, List.flatMap_nil] at h
      unfold escapeChar at h
      split at h <;> simp at h
    | cons b v =>
      rw [List.flatMap_cons, List.flatMap_cons] at h
      obtain ⟨rfl, huv⟩ := escapeChar_append_injective h
      rw [ih huv]

/-- Different texts have different literals. -/
theorem textLiteral_injective {s t : String} (h : textLiteral s = textLiteral t) : s = t := by
  have hlist := (List.cons.inj (String.ofList_injective h)).2
  exact String.toList_injective (flatMap_escapeChar_injective (List.append_cancel_right hlist))

/-! ## Texts and queries -/

/-- The character that the query begins with. -/
def LockQuery.initial : LockQuery → Char
  | read => 'S'
  | add _ => 'I'
  | remove _ => 'A'

theorem head?_sql? {c : Connection} {x : LockQuery} {sql : String} (h : x.sql? c = some sql) :
    sql.toList.head? = some x.initial := by
  cases x with
  | read => exact head?_fill (head?_append (head?_append (head?_append rfl _) _) _) (by decide) h
  | add holder => exact head?_fill (d := 'I') (head?_append (head?_append rfl _) _) (by decide) h
  | remove holder => exact head?_fill (d := 'A') (head?_append (head?_append (head?_append rfl _) _) _) (by decide) h

theorem fill_injective {template x s t : String} (hmark : placeMark ∈ template.toList)
    (hs : fill template [textLiteral s] = some x) (ht : fill template [textLiteral t] = some x) : s = t := by
  rw [fill, Option.map_eq_some_iff] at hs ht
  obtain ⟨a, ha, rfl⟩ := hs
  obtain ⟨b, hb, hab⟩ := ht
  obtain rfl := String.ofList_injective hab
  exact textLiteral_injective (String.toList_injective (fillChars_injective hmark ha hb))

theorem placeMark_mem_append {b : String} (h : placeMark ∈ b.toList) (a : String) : placeMark ∈ (a ++ b).toList := by
  rw [String.toList_append]
  exact List.mem_append_right _ h

/-- A text is at most one query. -/
theorem sql?_injective {c : Connection} {x y : LockQuery} {sql : String} (hx : x.sql? c = some sql)
    (hy : y.sql? c = some sql) : x = y := by
  have hinitial : x.initial = y.initial := Option.some.inj ((head?_sql? hx).symm.trans (head?_sql? hy))
  cases x with
  | read =>
    cases y with
    | read => rfl
    | add | remove => exact absurd hinitial (by simp [LockQuery.initial])
  | add h =>
    cases y with
    | add k => rw [fill_injective (placeMark_mem_append (by decide) _) hx hy]
    | read | remove => exact absurd hinitial (by simp [LockQuery.initial])
  | remove h =>
    cases y with
    | remove k => rw [fill_injective (placeMark_mem_append (by decide) _) hx hy]
    | read | add => exact absurd hinitial (by simp [LockQuery.initial])

end SchemaMigration.Clickhouse
