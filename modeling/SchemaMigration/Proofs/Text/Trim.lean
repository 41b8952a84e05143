import SchemaMigration.Text.Blank

/-!
# What trimming removes

`trim_of_blank`, `trim_concat_of_blank` : a blank at either end does not matter.
`trimStart_append_of_not_blank`         : blanks at the start are removed up to the first character that is none.
`exists_eq_trim`                        : a text is its trimmed text between blanks.
-/

namespace SchemaMigration.Text

set_option autoImplicit false

/-! ## One end -/

theorem trimStart_append_of_not_blank {d : Char} (h : isBlank d = false) (u v : List Char) :
    trimStart (u ++ d :: v) = trimStart u ++ d :: v := by
  induction u with
  | nil => exact trimStart_of_not_blank h v
  | cons c u ih =>
    rw [List.cons_append]
    cases hc : isBlank c with
    | true => rw [trimStart_of_blank hc, trimStart_of_blank hc, ih]
    | false => rw [trimStart_of_not_blank hc, trimStart_of_not_blank hc, List.cons_append]

theorem trimStart_suffix (s : List Char) : trimStart s <:+ s := List.dropWhile_suffix _

theorem trimEnd_concat_of_blank {c : Char} (h : isBlank c = true) (s : List Char) : trimEnd (s ++ [c]) = trimEnd s := by
  rw [trimEnd, trimEnd, List.reverse_concat, List.dropWhile_cons_of_pos h]

theorem trimEnd_concat_of_not_blank {c : Char} (h : isBlank c = false) (s : List Char) :
    trimEnd (s ++ [c]) = s ++ [c] := by
  rw [trimEnd, List.reverse_concat, List.dropWhile_cons_of_neg (by simp [h]), List.reverse_cons, List.reverse_reverse]

theorem eq_trimStart (s : List Char) : ∃ u, allBlank u = true ∧ s = u ++ trimStart s :=
  ⟨s.takeWhile isBlank, List.all_takeWhile, List.takeWhile_append_dropWhile.symm⟩

theorem eq_trimEnd (s : List Char) : ∃ v, allBlank v = true ∧ s = trimEnd s ++ v := by
  obtain ⟨u, hu, hs⟩ := eq_trimStart s.reverse
  refine ⟨u.reverse, by rwa [allBlank, List.all_reverse], ?_⟩
  rw [trimEnd, ← trimStart, ← List.reverse_append, ← hs, List.reverse_reverse]

/-! ## Both ends -/

theorem trim_of_blank {c : Char} (h : isBlank c = true) (s : List Char) : trim (c :: s) = trim s := by
  rw [trim, trimStart_of_blank h, ← trim]

theorem trim_concat_of_blank {c : Char} (h : isBlank c = true) (s : List Char) : trim (s ++ [c]) = trim s := by
  rw [trim, trim, trimStart, List.dropWhile_append]
  split
  · next hs =>
    rw [List.dropWhile_cons_of_pos h, List.dropWhile_nil, trimStart, List.isEmpty_iff.1 hs]
  · exact trimEnd_concat_of_blank h _

/-- A text is its trimmed text with blanks before and after. -/
theorem exists_eq_trim (s : List Char) :
    ∃ u v, allBlank u = true ∧ allBlank v = true ∧ s = u ++ trim s ++ v := by
  obtain ⟨u, hu, hs⟩ := eq_trimStart s
  obtain ⟨v, hv, ht⟩ := eq_trimEnd (trimStart s)
  exact ⟨u, v, hu, hv, by rw [trim, List.append_assoc, ← ht, ← hs]⟩

theorem trim_ne_nil {s : List Char} (h : allBlank s = false) : trim s ≠ [] := by
  intro hnil
  obtain ⟨u, v, hu, hv, hs⟩ := exists_eq_trim s
  rw [hnil, List.append_nil] at hs
  rw [hs, allBlank, List.all_append, ← allBlank, hu, ← allBlank, hv] at h
  simp at h

theorem not_blank_head_trimStart (s : List Char) : ∀ c ∈ (trimStart s).head?, isBlank c = false := by
  intro c hc
  have h := List.head?_dropWhile_not isBlank s
  rw [← trimStart, Option.mem_def.1 hc] at h
  simpa using h

theorem not_blank_last_trim (s : List Char) : ∀ c ∈ (trim s).getLast?, isBlank c = false := by
  intro c hc
  refine not_blank_head_trimStart (trimStart s).reverse c ?_
  rwa [trim, trimEnd, List.getLast?_reverse] at hc

theorem not_blank_head_trim (s : List Char) : ∀ c ∈ (trim s).head?, isBlank c = false := by
  intro c hc
  obtain ⟨v, -, hs⟩ := eq_trimEnd (trimStart s)
  refine not_blank_head_trimStart s c ?_
  rw [hs, ← trim, List.head?_append, Option.mem_def.1 hc]
  rfl

end SchemaMigration.Text
