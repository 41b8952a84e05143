import SchemaMigration.Proofs.Migration.Load

/-!
# Sets by their members

* `MigrationSet.eq_of_perm` : a set is known by its migrations, in whatever order these come;
* `insert_eq_ok_iff`, `ofList_eq_ok_iff` : which migrations a set has that others are put into, or that is made of a list;
* `exists_perm_iff` : migrations are those of a set if no two of them share a version;
* `bisect?_eq_find?` : in ascending order, the search by halves finds what is found from one end to the other.
-/

namespace SchemaMigration

set_option autoImplicit false

namespace MigrationSet

variable {s t : MigrationSet} {m : Migration} {ms : List Migration}

theorem eq_of_perm (h : s.toList.Perm t.toList) : s = t := by
  have hlist : s.toList = t.toList := by
    refine h.eq_of_pairwise (fun a b _ _ hab hba => ?_) s.ascending t.ascending
    exact absurd (UInt64.lt_trans hab hba) (UInt64.lt_irrefl _)
  cases s
  cases t
  cases hlist
  rfl

theorem get?_eq_none {v : Version} : s.get? v = none ↔ ∀ m ∈ s.toList, m.version ≠ v := by
  simp [get?]

/-! ## One more migration -/

theorem perm_insertSorted (m : Migration) (ms : List Migration) : (insertSorted m ms).Perm (m :: ms) := by
  induction ms with
  | nil => exact .refl _
  | cons x xs ih =>
    unfold insertSorted
    split
    · exact .refl _
    · exact (ih.cons x).trans (.swap m x xs)

/-- The set that a migration was put into has it and all the others. -/
theorem insert_eq_ok_iff : s.insert m = .ok t ↔ t.toList.Perm (m :: s.toList) := by
  rw [insert_eq_ok]
  constructor
  · rintro ⟨-, hlist⟩
    rw [hlist]
    exact perm_insertSorted m s.toList
  · intro h
    have hnodup : ((m :: s.toList).map (·.version)).Nodup := (h.map _).nodup_iff.1 t.ascending.nodup
    have hfree : ∀ x ∈ s.toList, x.version ≠ m.version := by
      intro x hx heq
      rw [List.map_cons, List.nodup_cons, ← heq] at hnodup
      exact hnodup.1 (List.mem_map_of_mem hx)
    refine ⟨Option.isNone_iff_eq_none.2 (get?_eq_none.2 hfree), ?_⟩
    have hset : t = ⟨insertSorted m s.toList, ascending_insertSorted s.ascending hfree⟩ :=
      eq_of_perm (h.trans (perm_insertSorted m s.toList).symm)
    rw [hset]

/-- A migration is refused for the one that has its version. -/
theorem insert_eq_error_iff {f : Fault} :
    s.insert m = .error f ↔ ∃ x ∈ s.toList, x.version = m.version ∧ f = clash x m := by
  unfold insert
  split
  · next x h =>
    have hx := get?_eq_some.1 h
    rw [Except.error.injEq]
    constructor
    · rintro rfl
      exact ⟨x, hx.1, hx.2, rfl⟩
    · rintro ⟨y, hy, hversion, rfl⟩
      have hsame := h.symm.trans (get?_eq_some.2 ⟨hy, hversion⟩)
      rw [Option.some.inj hsame]
  · next h =>
    have hfree := get?_eq_none.1 h
    constructor
    · intro h
      cases h
    · rintro ⟨y, hy, hversion, -⟩
      exact absurd hversion (hfree y hy)

/-! ## The migrations of a list -/

theorem neighbours?_of_ascending : ∀ {ms : List Migration}, Ascending ms → neighbours? ms = none
  | [], _ => rfl
  | [_], _ => rfl
  | a :: b :: r, h => by
    rcases List.pairwise_cons.1 h with ⟨ha, hr⟩
    have hne : ¬(a.version == b.version) = true := by
      rw [beq_iff_eq]
      exact UInt64.ne_of_lt (ha b List.mem_cons_self)
    rw [neighbours?, if_neg hne]
    exact neighbours?_of_ascending hr

theorem perm_sortByVersion (ms : List Migration) : (sortByVersion ms).Perm ms := List.mergeSort_perm ms _

/-- The migrations of a set come into its order when they are sorted. -/
theorem sortByVersion_eq (h : ms.Perm s.toList) : sortByVersion ms = s.toList := by
  have hperm := (perm_sortByVersion ms).trans h
  have hsorted := s.ascending.imp (S := fun a b => decide (a.version ≤ b.version) = true)
    fun hab => decide_eq_true (UInt64.le_of_lt hab)
  refine hperm.eq_of_pairwise (fun a b ha hb hab hba => ?_) (pairwise_sortByVersion ms) hsorted
  have hversion : a.version = b.version := UInt64.le_antisymm (of_decide_eq_true hab) (of_decide_eq_true hba)
  exact List.inj_on_of_nodup_map s.ascending.nodup (hperm.mem_iff.1 ha) hb hversion

/-- The set of a list has its migrations. -/
theorem ofList_eq_ok_iff : ofList ms = .ok s ↔ ms.Perm s.toList := by
  unfold ofList
  split
  · next h =>
    constructor
    · intro h'
      cases h'
    · intro hperm
      rw [sortByVersion_eq hperm, neighbours?_of_ascending s.ascending] at h
      cases h
  · next h =>
    rw [Except.ok.injEq]
    constructor
    · rintro rfl
      exact (perm_sortByVersion ms).symm
    · intro hperm
      exact eq_of_perm ((perm_sortByVersion ms).trans hperm)

theorem neighbours?_eq_some {a b : Migration} : ∀ {ms : List Migration}, neighbours? ms = some (a, b) →
    [a, b].Sublist ms ∧ a.version = b.version
  | [], h => by cases h
  | [_], h => by cases h
  | x :: y :: r, h => by
    unfold neighbours? at h
    split at h
    · next hversion =>
      cases h
      exact ⟨(List.nil_sublist r).cons_cons b |>.cons_cons a, beq_iff_eq.1 hversion⟩
    · rcases neighbours?_eq_some h with ⟨hsub, hversion⟩
      exact ⟨hsub.cons x, hversion⟩

/-- A list makes a set if no two of its migrations share a version. -/
theorem exists_ofList_eq_ok_iff : (∃ s, ofList ms = .ok s) ↔ (ms.map (·.version)).Nodup := by
  constructor
  · rintro ⟨s, hs⟩
    exact ((ofList_eq_ok_iff.1 hs).map _).nodup_iff.2 s.ascending.nodup
  · intro hnodup
    unfold ofList
    split
    · next a b h =>
      rcases neighbours?_eq_some h with ⟨hsub, hversion⟩
      have hsorted := ((perm_sortByVersion ms).map (·.version)).nodup_iff.2 hnodup
      have hpair := (hsub.map (·.version)).nodup hsorted
      rw [List.map_cons, List.nodup_cons, hversion] at hpair
      exact absurd List.mem_cons_self hpair.1
    · exact ⟨_, rfl⟩

theorem exists_ofList_eq_error_iff : (∃ f, ofList ms = .error f) ↔ ¬(ms.map (·.version)).Nodup := by
  rw [← exists_ofList_eq_ok_iff]
  cases ofList ms <;> simp

/-- Migrations are those of a set if no two of them share a version. -/
theorem exists_perm_iff : (∃ s : MigrationSet, s.toList.Perm ms) ↔ (ms.map (·.version)).Nodup := by
  rw [← exists_ofList_eq_ok_iff]
  exact exists_congr fun s => (List.perm_comm.trans ofList_eq_ok_iff.symm)

/-! ## The search by halves -/

/-- The search for a version by halves: the part before or from the middle is searched, down to one migration. -/
def bisect? (v : Version) (ms : List Migration) : Option Migration :=
  if h : 1 < ms.length then
    if v < ms[ms.length / 2].version then bisect? v (ms.take (ms.length - ms.length / 2))
    else bisect? v (ms.drop (ms.length / 2))
  else ms.head?.filter (·.version == v)
termination_by ms.length
decreasing_by
  · rw [List.length_take]
    omega
  · rw [List.length_drop]
    omega

/-- In ascending order what stands before a place has lower versions, and what stands from there on has not. -/
theorem lt_of_mem_take {i : Nat} (h : Ascending ms) (hi : i < ms.length) {x : Migration} (hx : x ∈ ms.take i) :
    x.version < ms[i].version := by
  rw [← List.take_append_drop i ms] at h
  refine (List.pairwise_append.1 h).2.2 x hx _ ?_
  rw [List.drop_eq_getElem_cons hi]
  exact List.mem_cons_self

theorem le_of_mem_drop {i : Nat} (h : Ascending ms) (hi : i < ms.length) {x : Migration} (hx : x ∈ ms.drop i) :
    ms[i].version ≤ x.version := by
  have hdrop : Ascending (ms.drop i) := h.sublist (List.drop_sublist i ms)
  rw [List.drop_eq_getElem_cons hi] at hx hdrop
  rcases List.mem_cons.1 hx with rfl | hx
  · exact UInt64.le_refl _
  · exact UInt64.le_of_lt ((List.pairwise_cons.1 hdrop).1 x hx)

theorem bisect?_eq_find? {v : Version} (h : Ascending ms) : bisect? v ms = ms.find? (·.version == v) := by
  fun_induction bisect? v ms with
  | case1 ms hlong hless ih =>
    -- what is dropped stands from the middle on, so its versions are greater
    have hdropped : (ms.drop (ms.length - ms.length / 2)).find? (·.version == v) = none := by
      rw [List.find?_eq_none]
      intro x hx hversion
      have hlater : x ∈ ms.drop (ms.length / 2) := List.drop_subset_drop_left ms (by omega) hx
      have hmiddle := le_of_mem_drop h (by omega) hlater
      rw [beq_iff_eq.1 hversion] at hmiddle
      exact UInt64.not_lt.2 hmiddle hless
    rw [ih (h.sublist (List.take_sublist _ _))]
    conv_rhs => rw [← List.take_append_drop (ms.length - ms.length / 2) ms, List.find?_append, hdropped]
    simp
  | case2 ms hlong hless ih =>
    have htaken : (ms.take (ms.length / 2)).find? (·.version == v) = none := by
      rw [List.find?_eq_none]
      intro x hx hversion
      have hmiddle := lt_of_mem_take h (by omega) hx
      rw [beq_iff_eq.1 hversion] at hmiddle
      exact hless hmiddle
    rw [ih (h.sublist (List.drop_sublist _ _))]
    conv_rhs => rw [← List.take_append_drop (ms.length / 2) ms, List.find?_append, htaken]
    simp
  | case3 ms hshort =>
    cases ms with
    | nil => rfl
    | cons m r =>
      have hr : r = [] := List.eq_nil_of_length_eq_zero (by rw [List.length_cons] at hshort; omega)
      rw [hr, List.head?_cons, List.find?_singleton]
      rfl

end MigrationSet

end SchemaMigration
